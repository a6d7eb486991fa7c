import Mobula.Controller.PoolTruth
import Mobula.Provision.PoolObjects

/-!
# What belongs to a pool after it was applied

A pass that applies a pool patches every object that the desired state stands for, and deletes
nothing. What an earlier desired state had rendered under other keys keeps the label of the
pool: the queue of a share that was taken away, a flavor or a cohort that was renamed.
-/

namespace Mobula

open Foundation KueueClient List Prog

/-- Nothing else changes the pools and their queues. -/
structure QueueDrift (before seen : World Kubernetes) : Prop extends QuietCatalog before seen where
  queues : ∀ key, isQueueKind key.kind = true →
    seen.provider.cluster.objects.find? key = before.provider.cluster.objects.find? key

theorem QueueDrift.refl (world : World Kubernetes) : QueueDrift world world :=
  ⟨QuietCatalog.refl world, fun _ _ => rfl⟩

/-- What the cluster holds for the pool. -/
def poolObjects (pool : String) (cluster : KubeCluster) : Set (ObjectKey × AppliedFields) :=
  {entry | ∃ object ∈ cluster.objects.rows, belongsTo pool object = true ∧
    entry = (object.key, object.applied)}

/-- What the pool is rendered to. -/
def desiredObjects (weightText : ℚ → Numeral) (spec : PoolSpec)
    (allocations : List AllocationSpec) : Set (ObjectKey × AppliedFields) :=
  {entry | entry ∈ rendered weightText spec allocations}

section Sets

variable {weightText : ℚ → Numeral} {spec : PoolSpec} {allocations : List AllocationSpec}

theorem nodup_rendered (valid : spec.validate = .ok ())
    (distinct : (allocations.map (·.project)).Nodup) :
    ((rendered weightText spec allocations).map (·.1)).Nodup := by
  have flavors : (spec.flavors.map fun flavor => flavorKey flavor.name).Nodup := by
    refine Nodup.of_map ObjectKey.name ?_
    simp
    exact PoolSpec.distinct_of_validate valid
  have queues : (allocations.map fun alloc =>
      localQueueKey alloc.namespaceName alloc.project).Nodup := by
    refine Nodup.of_map ObjectKey.name ?_
    simp
    exact distinct
  -- Each of the four groups has a kind of its own.
  simp only [rendered, map_append, map_map, map_cons, map_nil,
    Function.comp_def, nodup_append, nodup_singleton, flavors, queues, true_and]
  refine ⟨⟨?_, ?_⟩, ?_⟩
  · rintro key cohort _ flavor rfl
    simp at cohort
    rcases mem_map.mp flavor with ⟨_, _, same⟩
    rw [cohort] at same
    cases same
  · rintro key earlier _ clusterQueue rfl
    simp at clusterQueue
    rcases mem_append.mp earlier with cohort | flavor
    · simp [clusterQueue] at cohort
      cases cohort
    · rcases mem_map.mp flavor with ⟨_, _, same⟩
      rw [clusterQueue] at same
      cases same
  · rintro key earlier _ queue rfl
    rcases mem_map.mp queue with ⟨alloc, _, rfl⟩
    rcases mem_append.mp earlier with earlier | clusterQueue
    · rcases mem_append.mp earlier with cohort | flavor
      · cases mem_singleton.mp cohort
      · rcases mem_map.mp flavor with ⟨_, _, same⟩
        cases same
    · cases mem_singleton.mp clusterQueue

def afterPatches (weightText : ℚ → Numeral) (spec : PoolSpec) (allocations : List AllocationSpec)
    (key : ObjectKey) (current : Option KubeObject) : Option KubeObject :=
  match Kube.lastFields key (rendered weightText spec allocations) with
  | none => current
  | some fields => some (KubeObject.afterApply key fields current)

variable {before after : KubeCluster}

theorem find?_of_applyPool
    (sent : (applyPool weightText spec allocations).send before = (.ok (), after))
    {key : ObjectKey} : after.objects.find? key =
      afterPatches weightText spec allocations key (before.objects.find? key) := by
  rw [applyPool_eq] at sent
  exact Kube.find?_of_patches sent key

theorem mem_poolObjects_iff {pool : String} {cluster : KubeCluster} {key : ObjectKey}
    {fields : AppliedFields} : (key, fields) ∈ poolObjects pool cluster ↔
      ∃ object, cluster.objects.find? key = some object ∧
        belongsTo pool object = true ∧ object.applied = fields := by
  constructor
  · rintro ⟨object, objectMem, belongs, same⟩
    simp at same
    exact ⟨object, by rw [same.1]; exact Table.find?_of_mem objectMem, belongs, same.2.symm⟩
  · rintro ⟨object, found, belongs, rfl⟩
    exact ⟨object, Table.mem_of_find? found, belongs, by rw [Table.key_of_find? found]⟩

variable (valid : spec.validate = .ok ()) (distinct : (allocations.map (·.project)).Nodup)
  (owned : ∀ alloc ∈ allocations, alloc.pool = spec.name)

include valid distinct owned

/-- What belongs to a pool after its desired state was applied: that state, and what was left. -/
theorem poolObjects_of_patches
    (patched : ∀ key, isQueueKind key.kind = true → after.objects.find? key =
      afterPatches weightText spec allocations key (before.objects.find? key)) :
    poolObjects spec.name after = desiredObjects weightText spec allocations ∪
      {entry ∈ poolObjects spec.name before |
        entry.1 ∉ (rendered weightText spec allocations).map (·.1)} := by
  ext ⟨key, fields⟩
  rw [Set.mem_union, Set.mem_sep_iff, mem_poolObjects_iff, mem_poolObjects_iff]
  by_cases queue : isQueueKind key.kind = true
  · rw [patched key queue, afterPatches]
    cases last : Kube.lastFields key (rendered weightText spec allocations) with
    | none =>
      have absent := Kube.lastFields_eq_none_iff.mp last
      constructor
      · exact fun held => .inr ⟨held, absent⟩
      · rintro (desired | ⟨held, _⟩)
        · exact absurd (mem_map_of_mem desired) absent
        · exact held
    | some applied =>
      have member := Kube.mem_of_lastFields last
      constructor
      · rintro ⟨object, same, _, rfl⟩
        simp at same
        rw [← same, KubeObject.afterApply_applied]
        exact .inl member
      · rintro (desired | ⟨_, absent⟩)
        · have same := inj_on_of_nodup_map (nodup_rendered valid distinct) member desired rfl
          rw [Prod.mk.injEq] at same
          refine ⟨_, rfl, ?_, ?_⟩
          · exact (belongsTo_afterApply owned member _ _).mpr rfl
          · rw [KubeObject.afterApply_applied, same.2]
        · exact absurd (mem_map_of_mem member) absent
  · have foreign {cluster : KubeCluster} {object : KubeObject}
        (found : cluster.objects.find? key = some object) :
        belongsTo spec.name object = false := by
      rw [belongsTo, Table.key_of_find? found, Bool.eq_false_iff.mpr queue]
      rfl
    constructor
    · rintro ⟨object, found, belongs, _⟩
      rw [foreign found] at belongs
      cases belongs
    · rintro (desired | ⟨⟨object, found, belongs, _⟩, _⟩)
      · exact absurd (isQueueKind_of_rendered desired) queue
      · rw [foreign found] at belongs
        cases belongs

/-- The objects are those of the desired state when nothing else belonged to the pool before. -/
theorem poolObjects_eq_iff (patched : ∀ key, isQueueKind key.kind = true → after.objects.find? key =
      afterPatches weightText spec allocations key (before.objects.find? key)) :
    poolObjects spec.name after = desiredObjects weightText spec allocations ↔
      ∀ object ∈ before.objects.rows, belongsTo spec.name object = true →
        object.key ∈ (rendered weightText spec allocations).map (·.1) := by
  rw [poolObjects_of_patches valid distinct owned patched, Set.union_eq_left]
  constructor
  · intro left object objectMem belongs
    by_contra absent
    have desired := left ⟨⟨object, objectMem, belongs, rfl⟩, absent⟩
    exact absent (mem_map_of_mem desired)
  · rintro known _ ⟨⟨object, objectMem, belongs, rfl⟩, absent⟩
    exact absurd (known object objectMem belongs) absent

end Sets

/-- A pool is stored as it was listed, and the queue objects are where a view has them. -/
structure Shows (pool : StoredPool) (allocations : List AllocationSpec)
    (view : ObjectKey → Option KubeObject) (past : EventLog)
    (world : World Kubernetes) : Prop where
  stored : (world.store.pools.find? pool.name).map StoredPool.wanted = some pool.wanted
  allocations : world.store.allocationsOf pool.name = allocations
  queues : ∀ key, isQueueKind key.kind = true →
    world.provider.cluster.objects.find? key = view key

section Pass

variable {surroundings : Surroundings} {router : EngineRouter} {thread : ℕ} {pool : StoredPool}
  {allocations : List AllocationSpec} {view : ObjectKey → Option KubeObject} {past : EventLog}
  {world seen after : World Kubernetes}

theorem Shows.exec {call : Call} {answer : call.Res}
    (shows : Shows pool allocations view past world) (drifted : QueueDrift world seen)
    (answered : exec (kubernetesPlatform surroundings router) thread call seen =
      some (answer, after)) (keeps : call.keepsCatalog = true) (harmless : call.mutates = false) :
    Shows pool allocations view (past ++ [⟨call, answer⟩]) after where
  stored := by rw [pools_exec answered keeps, drifted.pools, shows.stored]
  allocations := by
    rw [← shows.allocations, Store.allocationsOf, Store.allocationsOf,
      allocations_exec answered keeps, drifted.allocations]
  queues := by
    intro key queue
    rw [provider_exec answered harmless, drifted.queues key queue, shows.queues key queue]

theorem shows_of_applyPool (shows : Shows pool allocations view past world)
    (drifted : QueueDrift world seen)
    (answered : exec (kubernetesPlatform surroundings router) thread
      (.pool (.applyPool pool.spec allocations)) seen = some (.ok (), after)) :
    Shows pool allocations
      (fun key => afterPatches surroundings.weightText pool.spec allocations key (view key))
      (past ++ [⟨.pool (.applyPool pool.spec allocations), .ok ()⟩]) after where
  stored := by rw [pools_exec answered rfl, drifted.pools, shows.stored]
  allocations := by
    rw [← shows.allocations, Store.allocationsOf, Store.allocationsOf,
      allocations_exec answered rfl, drifted.allocations]
  queues := by
    intro key queue
    simp [exec] at answered
    rcases answered with ⟨applied, rfl⟩
    rw [← shows.queues key queue, ← drifted.queues key queue]
    exact find?_of_applyPool (EngineRouter.ok_of_backend (Prod.ext applied rfl))

theorem actuatePool_shows : (actuatePool surroundings.weightText pool).Ensures
      (exec (kubernetesPlatform surroundings router) thread) QueueDrift
      (Shows pool allocations view) fun result past world => result = .ok .applied →
        Shows pool allocations
          (fun key => afterPatches surroundings.weightText pool.spec allocations key (view key))
          past world := by
  let reads (listed : List AllocationSpec) (past : EventLog)
      (world : World Kubernetes) : Prop :=
    listed = allocations ∧ Shows pool allocations view past world
  let settled (action : PoolAction) (past : EventLog) (world : World Kubernetes) : Prop :=
    action = .applied → Shows pool allocations
      (fun key => afterPatches surroundings.weightText pool.spec allocations key (view key))
      past world
  refine actuatePool_ensures reads reads (fun _ => settled .applied) settled
    ?_ (fun listed => ?_) (fun listed => ?_) (fun listed => ?_) (fun listed => ?_) fun action => ?_
  · refine ensures_invoke fun shows drifted answered => ?_
    have kept := shows.exec drifted answered rfl rfl
    cases answered
    exact ⟨kept.allocations, kept⟩
  · refine ensures_invoke ?_
    rintro past world seen answer after ⟨same, shows⟩ drifted answered
    have kept := shows.exec drifted answered rfl rfl
    rcases answer with failure | record
    · exact fun impossible => nomatch impossible
    simp only
    split
    · exact fun impossible => nomatch impossible
    · exact ⟨same, kept⟩
  · refine ensures_invoke ?_
    rintro past world seen answer after ⟨same, shows⟩ drifted answered
    rcases answer with failure | _ | _
    · exact fun impossible => nomatch impossible
    · exact ⟨same, shows.exec drifted answered rfl rfl⟩
    · exact fun impossible => nomatch impossible
  · refine ensures_invoke ?_
    rintro past world seen answer after ⟨rfl, shows⟩ drifted answered
    rcases answer with failure | done
    · exact fun impossible => nomatch impossible
    · exact fun _ => shows_of_applyPool shows drifted answered
  · refine ensures_invoke ?_
    rintro past world seen (failure | done) after shows drifted answered
    · exact fun impossible => nomatch impossible
    · exact fun same => (shows same).exec drifted answered rfl rfl
  · exact ensures_invoke fun shows drifted answered same =>
      (shows (Except.ok.inj same)).exec drifted answered rfl rfl

theorem reconcilePool_shows : (reconcilePool surroundings.weightText pool).Ensures
      (exec (kubernetesPlatform surroundings router) thread) QueueDrift
      (Shows pool allocations view) fun result past world => result = .ok .applied →
        Shows pool allocations
          (fun key => afterPatches surroundings.weightText pool.spec allocations key (view key))
          past world := by
  have observed : (observePoolRow pool).Ensures
      (exec (kubernetesPlatform surroundings router) thread) QueueDrift
      (Shows pool allocations view) fun _ => Shows pool allocations view :=
    (observePoolRow_observes pool).ensures fun made shows drifted answered =>
      shows.exec drifted answered (by cases made <;> rfl) made.harmless
  refine observed.bind ?_
  rintro (failure | done)
  · exact ensures_ret fun _ _ _ impossible => nomatch impossible
  refine Ensures.invoke (fun _ => Shows pool allocations view) ?_ ?_
  · intro past world seen answer after shows drifted answered
    exact shows.exec drifted answered rfl rfl
  rintro (failure | _ | _)
  · exact ensures_ret fun _ _ _ impossible => nomatch impossible
  · exact actuatePool_shows
  · exact ensures_ret fun _ _ _ impossible => nomatch impossible

/--
After a pass that applied a pool, the objects that belong to the pool are those
of its desired state exactly when nothing else belonged to it before the pass.
-/
theorem pool_objects_match_iff {before after : World Kubernetes} {events : EventLog}
    (stored : before.store.pools.find? pool.name = some pool)
    (named : pool.spec.name = pool.name) (valid : pool.spec.validate = .ok ())
    (ran : (reconcilePool surroundings.weightText pool).Amid
      (exec (kubernetesPlatform surroundings router) thread) QueueDrift before events
      (.ok .applied) after) :
    ∃ row, after.store.pools.find? pool.name = some row ∧
      (poolObjects pool.name after.provider.cluster =
          desiredObjects surroundings.weightText row.spec (after.store.allocationsOf pool.name) ↔
        ∀ object ∈ before.provider.cluster.objects.rows,
          belongsTo pool.name object = true →
          object.key ∈ (rendered surroundings.weightText pool.spec
            (before.store.allocationsOf pool.name)).map (·.1)) := by
  have started : Shows pool (before.store.allocationsOf pool.name)
      before.provider.cluster.objects.find? [] before :=
    ⟨by simp [stored], rfl, fun _ _ => rfl⟩
  have shown := reconcilePool_shows [] _ _ _ _ started ran rfl
  rcases row_of_listed shown.stored with ⟨row, found, _, sameSpec, _⟩
  refine ⟨row, found, ?_⟩
  rw [sameSpec, shown.allocations, ← named]
  refine poolObjects_eq_iff valid (before.store.nodup_allocationsOf pool.spec.name) ?_ ?_
  · intro alloc allocMem
    simpa using (mem_filter.mp allocMem).2
  · rw [named]
    exact shown.queues

end Pass

theorem pool_objects_match_after_first_apply :
    ∃ events after row, (reconcilePool plainSurroundings.weightText
        (Catalog.upsertedPool none "gpu" gpuPool 0)).Amid
        (exec plainPlatform 0) QueueDrift unappliedPool events
        (.ok .applied) after ∧
      after.store.pools.find? "gpu" = some row ∧
      poolObjects "gpu" after.provider.cluster = desiredObjects plainSurroundings.weightText
        row.spec (after.store.allocationsOf "gpu") := by
  have outcome : ((reconcilePool plainSurroundings.weightText
      (Catalog.upsertedPool none "gpu" gpuPool 0)).eval
        (exec plainPlatform 0) unappliedPool).map
          (·.value.toOption) = some (some .applied) := by
    decide +kernel
  have unowned : ∀ object ∈ unappliedPool.provider.cluster.objects.rows,
      belongsTo "gpu" object = false := by
    decide +kernel
  simp at outcome
  rcases outcome with ⟨outcome, evaluated, applied⟩
  have ran := amid_of_eval QueueDrift.refl evaluated
  cases reported : outcome.value with
  | error failure =>
    rw [reported] at applied
    cases applied
  | ok action =>
    simp [reported, Except.toOption] at applied
    rw [reported, applied] at ran
    rcases pool_objects_match_iff rfl rfl (by decide +kernel) ran with ⟨row, found, matchIff⟩
    refine ⟨_, _, row, ran, found, matchIff.mpr ?_⟩
    intro object objectMem belongs
    exact absurd belongs (Bool.eq_false_iff.mp (unowned object objectMem))

/-- The queue of a share that was taken away goes on belonging to the pool. -/
theorem removed_share_left_behind :
    ∃ rounds final, Rounds (exec plainPlatform 0)
        QuietCatalog (PoolActor.program plainSurroundings.weightText) queueingControlPlane
        rounds final ∧
      ∃ earlier round row, rounds = earlier ++ [round] ∧ round.role = .pass ∧
        ("gpu", .ok .applied) ∈ round.value ∧ round.after.store.pools.find? "gpu" = some row ∧
        poolObjects "gpu" round.after.provider.cluster ≠
          desiredObjects plainSurroundings.weightText row.spec
            (round.after.store.allocationsOf "gpu") := by
  rcases @last_of_convergedBy [.change (.upsertPool "gpu" gpuPool),
    .change (.upsertAllocation (gpuShare "1")), .pass, .change (.deleteAllocation "gpu" "p"), .pass]
    .applied (fun _ round => (round.after.store.pools.find? "gpu").any (·.spec = gpuPool) &&
      (round.after.store.allocationsOf "gpu").isEmpty &&
      (round.after.provider.cluster.objects.find? (localQueueKey "ray" "p")).any
        (belongsTo "gpu")) (by decide +kernel) with
    ⟨rounds, final, run, earlier, round, split, isPass, reported, checked⟩
  have unrendered : localQueueKey "ray" "p" ∉
      (rendered plainSurroundings.weightText gpuPool []).map (·.1) := by
    decide +kernel
  simp only [Option.any_eq_true, Bool.and_eq_true, decide_eq_true_eq, List.isEmpty_iff] at checked
  rcases checked with ⟨⟨⟨row, stored, spec⟩, unallocated⟩, object, held, belongs⟩
  refine ⟨rounds, final, run, earlier, round, row, split, isPass, reported, stored, ?_⟩
  rw [unallocated, spec]
  intro same
  have left := mem_poolObjects_iff.mpr ⟨_, held, belongs, rfl⟩
  rw [same] at left
  exact unrendered (mem_map_of_mem left)

end Mobula
