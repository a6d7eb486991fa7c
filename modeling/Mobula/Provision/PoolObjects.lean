import Mobula.Pool
import Mobula.Provision.Kueue
import Mathlib.Data.List.Induction

/-!
# The objects of a pool

Applying a pool is a sequence of patches, one for each object that the desired state renders;
deleting it deletes the objects that carry its label at that time. Objects have one label: a
cohort or a flavor that two pools share belongs to the pool that was applied last.
-/

namespace Mobula

open Foundation Kueue List Request KueueClient

variable {key : ObjectKey} {cluster final : KubeCluster} {weightText : ℚ → Numeral}

namespace Kube

variable {fields : AppliedFields}

theorem find?_of_patch (sent : (patch key fields).send cluster = (.ok (), final))
    (wanted : ObjectKey) : final.objects.find? wanted =
      if wanted = key then some (KubeObject.afterApply key fields (cluster.objects.find? key))
      else cluster.objects.find? wanted := by
  rw [objects_of_patch sent, Table.find?_insert, KubeObject.afterApply_key]

def lastFields (key : ObjectKey) (patches : List (ObjectKey × AppliedFields)) :
    Option AppliedFields :=
  (patches.filterMap fun entry => if entry.1 = key then some entry.2 else none).getLast?

theorem lastFields_append (key : ObjectKey) (first second : List (ObjectKey × AppliedFields)) :
    lastFields key (first ++ second) = (lastFields key second).or (lastFields key first) := by
  simp [lastFields]

theorem lastFields_singleton (key : ObjectKey) (entry : ObjectKey × AppliedFields) :
    lastFields key [entry] = if entry.1 = key then some entry.2 else none := by
  by_cases same : entry.1 = key <;> simp [lastFields, same]

variable {patches : List (ObjectKey × AppliedFields)}

theorem mem_of_lastFields (last : lastFields key patches = some fields) :
    (key, fields) ∈ patches := by
  rcases mem_filterMap.mp (mem_of_getLast? last) with ⟨entry, entryMem, matched⟩
  split at matched
  · next same =>
      simp at matched
      rwa [← same, ← matched]
  · cases matched

theorem lastFields_eq_none_iff : lastFields key patches = none ↔ key ∉ patches.map (·.1) := by
  rw [lastFields, getLast?_eq_none_iff, filterMap_eq_nil_iff, mem_map]
  constructor
  · rintro unmatched ⟨entry, entryMem, same⟩
    simpa [same] using unmatched entry entryMem
  · intro absent entry entryMem
    exact if_neg fun same => absent ⟨entry, entryMem, same⟩

/-- Patches of other keys in between do not matter, and the last patch of a key wins. -/
theorem find?_of_patches
    (sent : (patches.forM fun entry => patch entry.1 entry.2).send cluster = (.ok (), final))
    (key : ObjectKey) : final.objects.find? key =
      match lastFields key patches with
      | none => cluster.objects.find? key
      | some fields => some (KubeObject.afterApply key fields (cluster.objects.find? key)) := by
  induction patches generalizing cluster with
  | nil =>
    cases sent
    rfl
  | cons entry patches ih =>
    rcases ok_of_bind sent with ⟨_, middle, first, rest⟩
    rw [ih rest, find?_of_patch first, ← singleton_append, lastFields_append, lastFields_singleton]
    by_cases same : entry.1 = key
    · subst same
      rcases lastFields entry.1 patches with _ | fields
      · simp
      cases cluster.objects.find? entry.1 <;> simp [KubeObject.afterApply]
    · cases lastFields key patches <;> simp [same, Ne.symm same]

theorem find?_of_deletes {doomed : List KubeObject}
    (sent : (doomed.forM fun object => deleteOkGone object.key).send cluster = (.ok (), final))
    (key : ObjectKey) : final.objects.find? key =
      if key ∈ doomed.map (·.key) then none else cluster.objects.find? key := by
  induction doomed generalizing cluster with
  | nil =>
    cases sent
    rfl
  | cons object doomed ih =>
    rcases ok_of_bind sent with ⟨_, middle, first, rest⟩
    rw [ih rest, objects_of_deleteOkGone first, Table.find?_erase]
    by_cases later : key ∈ doomed.map (·.key)
    · simp [later]
    · by_cases same : key = object.key <;> simp [later, same]

end Kube

namespace KueueClient

/-- The objects that a desired state consists of, in the order in which they are applied. -/
def rendered (weightText : ℚ → Numeral) (spec : PoolSpec) (allocations : List AllocationSpec) :
    List (ObjectKey × AppliedFields) :=
  [(cohortKey spec.cohort, toDynamic (toCohort spec))] ++
    spec.flavors.map (fun flavor =>
      (flavorKey flavor.name, toDynamic (toResourceFlavor spec.name flavor))) ++
    [(clusterQueueKey spec.name, toDynamic (toClusterQueue weightText spec))] ++
    allocations.map fun alloc =>
      (localQueueKey alloc.namespaceName alloc.project, toDynamic (toLocalQueue alloc))

theorem applyPool_eq (spec : PoolSpec) (allocations : List AllocationSpec) :
    applyPool weightText spec allocations =
      (rendered weightText spec allocations).forM fun entry => Kube.patch entry.1 entry.2 := by
  simp only [rendered, forM_eq_forM, forM_append, forM_cons, forM_nil,
    forM_map, bind_assoc, pure_bind, applyPool]

variable {pool : String} {spec : PoolSpec} {allocations : List AllocationSpec}
  {entry : ObjectKey × AppliedFields}

theorem labels_toDynamic {kind : String} {metadata spec : List (String × Json)}
    (distinct : (metadata.map (·.1)).Nodup) (labelMem : ("labels", poolLabels pool) ∈ metadata) :
    (toDynamic (manifest kind metadata spec)).labels = [(POOL_LABEL, pool)] := by
  have metadataField : (manifest kind metadata spec).index "metadata" = .object metadata := by
    simp [manifest]
  simp only [toDynamic, metadataField, Json.get?_object_of_mem distinct labelMem]
  rfl

theorem labels_of_rendered (owned : ∀ alloc ∈ allocations, alloc.pool = spec.name)
    (entryMem : entry ∈ rendered weightText spec allocations) :
    entry.2.labels = [(POOL_LABEL, spec.name)] := by
  simp only [rendered, mem_append, mem_singleton, mem_map] at entryMem
  rcases entryMem with ((rfl | ⟨flavor, _, rfl⟩) | rfl) | ⟨alloc, allocMem, rfl⟩
  · exact labels_toDynamic (by simp) (by simp)
  · exact labels_toDynamic (by simp) (by simp)
  · exact labels_toDynamic (by simp) (by simp)
  · rw [← owned alloc allocMem]
    exact labels_toDynamic (by simp) (by simp)

def isQueueKind : ObjectKind → Bool
  | .cohort | .resourceFlavor | .clusterQueue | .localQueue => true
  | _ => false

theorem isQueueKind_of_rendered (entryMem : entry ∈ rendered weightText spec allocations) :
    isQueueKind entry.1.kind = true := by
  simp only [rendered, mem_append, mem_singleton, mem_map] at entryMem
  rcases entryMem with ((rfl | ⟨flavor, _, rfl⟩) | rfl) | ⟨alloc, _, rfl⟩ <;> rfl

def belongsTo (pool : String) (object : KubeObject) : Bool :=
  isQueueKind object.key.kind && object.label? POOL_LABEL = some pool

theorem find?_of_deleteLabelled {kind : ObjectKind}
    (sent : (deleteLabelled pool kind).send cluster = (.ok (), final)) (key : ObjectKey) :
    final.objects.find? key =
      (cluster.objects.find? key).filter fun object => !labelled kind pool object := by
  rcases ok_of_bind sent with ⟨listed, middle, listing, deletions⟩
  rcases Kube.objects_of_list listing with ⟨rfl, same⟩
  rw [Kube.find?_of_deletes deletions, same]
  rcases found : cluster.objects.find? key with _ | object
  · simp
  have objectKey := Table.key_of_find? found
  have selected : key ∈ (cluster.objects.rows.filter (labelled kind pool)).map (·.key) ↔
      labelled kind pool object = true := by
    rw [mem_map]
    constructor
    · rintro ⟨other, otherMem, sameKey⟩
      rw [mem_filter] at otherMem
      rw [Table.eq_of_mem_of_key_eq (Table.mem_of_find? found) otherMem.1
        (objectKey.trans sameKey.symm)]
      exact otherMem.2
    · intro holds
      exact ⟨object, mem_filter.mpr ⟨Table.mem_of_find? found, holds⟩, objectKey⟩
  rw [Option.filter_some]
  by_cases holds : labelled kind pool object = true
  · rw [if_pos (selected.mpr holds), holds]
    rfl
  · rw [if_neg (mt selected.mp holds), Bool.eq_false_iff.mpr holds]
    rfl

/-- Deleting a pool deletes what belongs to it at that time, and nothing else. -/
theorem find?_of_deletePool (sent : (deletePool pool).send cluster = (.ok (), final))
    (key : ObjectKey) : final.objects.find? key =
      (cluster.objects.find? key).filter fun object => !belongsTo pool object := by
  rcases ok_of_bind sent with ⟨_, withoutLocal, localQueues, rest⟩
  rcases ok_of_bind rest with ⟨_, withoutCohort, cohorts, rest⟩
  rcases ok_of_bind rest with ⟨_, withoutFlavors, flavors, rest⟩
  rcases ok_of_bind rest with ⟨_, withoutQueues, clusterQueues, rest⟩
  cases rest
  rw [find?_of_deleteLabelled clusterQueues, find?_of_deleteLabelled flavors,
    find?_of_deleteLabelled cohorts, find?_of_deleteLabelled localQueues]
  rcases found : cluster.objects.find? key with _ | object
  · rfl
  by_cases label : object.label? POOL_LABEL = some pool <;>
    cases kind : object.key.kind <;>
      simp [Option.filter_some, labelled, belongsTo, isQueueKind, kind, label]

theorem belongsTo_afterApply {fields : AppliedFields}
    (owned : ∀ alloc ∈ allocations, alloc.pool = spec.name)
    (entryMem : (key, fields) ∈ rendered weightText spec allocations) (pool : String)
    (current : Option KubeObject) :
    belongsTo pool (KubeObject.afterApply key fields current) = true ↔ spec.name = pool := by
  have kind := isQueueKind_of_rendered entryMem
  have labels := labels_of_rendered owned entryMem
  simp only at kind labels
  simp [belongsTo, KubeObject.label?, kind, labels]

end KueueClient

/-- What a pool is to be: a validated specification with the validated shares of its projects. -/
structure DesiredPool where
  spec : PoolSpec
  allocations : List AllocationSpec
  valid : spec.validate = .ok ()
  allocationsValid : ∀ alloc ∈ allocations, alloc.validate = .ok ()
  owned : ∀ alloc ∈ allocations, alloc.pool = spec.name
  distinct : (allocations.map (·.project)).Nodup

namespace DesiredPool

variable {between : KubeCluster}

def rendered (weightText : ℚ → Numeral) (pool : DesiredPool) : List (ObjectKey × AppliedFields) :=
  KueueClient.rendered weightText pool.spec pool.allocations

def applyAll (weightText : ℚ → Numeral) (pools : List DesiredPool) : Kube Unit :=
  pools.forM fun pool => applyPool weightText pool.spec pool.allocations

theorem applyAll_eq (pools : List DesiredPool) : applyAll weightText pools =
      (pools.flatMap (rendered weightText)).forM fun entry => Kube.patch entry.1 entry.2 := by
  induction pools with
  | nil => rfl
  | cons pool pools ih =>
    rw [applyAll, forM_eq_forM, forM_cons, ← forM_eq_forM, ← applyAll, ih,
      KueueClient.applyPool_eq, flatMap_cons]
    simp only [forM_eq_forM, forM_append]
    rfl

/-- The pool that was applied last among those that render an object. -/
def lastRenderer (weightText : ℚ → Numeral) (key : ObjectKey) (pools : List DesiredPool) :
    Option DesiredPool :=
  (pools.filter fun pool => key ∈ (pool.rendered weightText).map (·.1)).getLast?

variable {pools : List DesiredPool} {pool : DesiredPool}

/-- The fields under a key are those that its last renderer gave it. -/
theorem lastFields_of_lastRenderer (last : lastRenderer weightText key pools = some pool) :
    ∃ fields, Kube.lastFields key (pools.flatMap (rendered weightText)) = some fields ∧
      (key, fields) ∈ pool.rendered weightText := by
  induction pools using reverseRecOn with
  | nil => cases last
  | append_singleton pools applied ih =>
    rw [lastRenderer, filter_append] at last
    rw [flatMap_append, flatMap_singleton, Kube.lastFields_append]
    by_cases renders : key ∈ (applied.rendered weightText).map (·.1)
    · rw [filter_singleton, decide_eq_true renders, cond_true, getLast?_concat,
        Option.some.injEq] at last
      subst last
      rcases lastFields : Kube.lastFields key (applied.rendered weightText) with _ | fields
      · exact absurd renders (Kube.lastFields_eq_none_iff.mp lastFields)
      · exact ⟨fields, rfl, Kube.mem_of_lastFields lastFields⟩
    · rw [filter_singleton, decide_eq_false renders, cond_false, append_nil] at last
      rw [Kube.lastFields_eq_none_iff.mpr renders, Option.none_or]
      exact ih last

theorem found_of_applyAll (applied : (applyAll weightText pools).send cluster = (.ok (), between))
    (last : lastRenderer weightText key pools = some pool) :
    ∃ object, between.objects.find? key = some object ∧
      ∀ name, KueueClient.belongsTo name object = true ↔ pool.spec.name = name := by
  rcases lastFields_of_lastRenderer last with ⟨fields, lastFields, renderedBy⟩
  rw [applyAll_eq] at applied
  refine ⟨_, by rw [Kube.find?_of_patches applied, lastFields], ?_⟩
  intro name
  exact KueueClient.belongsTo_afterApply pool.owned renderedBy name _

theorem lastRenderer_of_mem (poolMem : pool ∈ pools) {entry : ObjectKey × AppliedFields}
    (entryMem : entry ∈ pool.rendered weightText) :
    ∃ owner, lastRenderer weightText entry.1 pools = some owner := by
  refine Option.ne_none_iff_exists'.mp ?_
  rw [lastRenderer, ne_eq, getLast?_eq_none_iff]
  refine ne_nil_of_mem (mem_filter.mpr ⟨poolMem, ?_⟩)
  exact decide_eq_true (mem_map_of_mem entryMem)

/--
Deleting a pool leaves the objects of another applied pool in place exactly when
the deleted pool was applied last for none of them.
-/
theorem pool_deletion_frame_iff {pools : List DesiredPool} {other : DesiredPool}
    {doomed : String} (otherMem : other ∈ pools)
    (applied : (applyAll weightText pools).send cluster = (.ok (), between))
    (deleted : (KueueClient.deletePool doomed).send between = (.ok (), final)) :
    (∀ entry ∈ other.rendered weightText, ∃ object,
      between.objects.find? entry.1 = some object ∧ final.objects.find? entry.1 = some object) ↔
    ∀ entry ∈ other.rendered weightText, ∀ owner,
      lastRenderer weightText entry.1 pools = some owner → owner.spec.name ≠ doomed := by
  refine forall₂_congr ?_
  intro entry entryMem
  rcases lastRenderer_of_mem otherMem entryMem with ⟨owner, last⟩
  rcases found_of_applyAll applied last with ⟨object, found, belongs⟩
  rw [find?_of_deletePool deleted, found, last, Option.filter_some]
  have kept : (∃ held, some object = some held ∧
      (if (!belongsTo doomed object) = true then some object else none) = some held) ↔
      belongsTo doomed object = false := by
    cases belongsTo doomed object <;> simp
  rw [kept, Bool.eq_false_iff, ne_eq, belongs]
  simp

def gpu : DesiredPool :=
  ⟨gpuPool, [gpuShare "1"], by decide +kernel, by decide +kernel, by decide +kernel, by simp⟩

def cpu : DesiredPool :=
  ⟨⟨"cpu", [⟨"c6i", [("cpu", "64")], [], []⟩], "research", 1, false, none⟩, [],
    by decide +kernel, by simp, by simp, by simp⟩

def noObjects : KubeCluster :=
  ⟨.empty, fun _ => none⟩

theorem pool_deletion_frame_for_last_applied :
    ∃ between final,
      (applyAll plainSurroundings.weightText [gpu, cpu]).send noObjects = (.ok (), between) ∧
      (KueueClient.deletePool "gpu").send between = (.ok (), final) ∧
      ∀ entry ∈ cpu.rendered plainSurroundings.weightText, ∃ object,
        between.objects.find? entry.1 = some object ∧
          final.objects.find? entry.1 = some object := by
  have applied := send_of_isOk (applyAll plainSurroundings.weightText [gpu, cpu]) noObjects
    (by decide +kernel)
  have deleted := send_of_isOk (KueueClient.deletePool "gpu")
    ((applyAll plainSurroundings.weightText [gpu, cpu]).send noObjects).2 (by decide +kernel)
  have renderers : ((cpu.rendered plainSurroundings.weightText).all fun entry =>
      (lastRenderer plainSurroundings.weightText entry.1 [gpu, cpu]).all
        (·.spec.name ≠ "gpu")) = true := by
    decide +kernel
  refine ⟨_, _, applied, deleted, ?_⟩
  refine (pool_deletion_frame_iff (by simp) applied deleted).mpr ?_
  intro entry entryMem owner last
  have differs := all_eq_true.mp renderers entry entryMem
  rw [last] at differs
  simpa using differs

/-- The cohort goes with the pool that was applied last, although the other still needs it. -/
theorem shared_cohort_deleted :
    ∃ between final,
      (applyAll plainSurroundings.weightText [cpu, gpu]).send noObjects = (.ok (), between) ∧
      (KueueClient.deletePool "gpu").send between = (.ok (), final) ∧
      ∃ entry ∈ cpu.rendered plainSurroundings.weightText,
        (between.objects.find? entry.1).isSome = true ∧
          final.objects.find? entry.1 = none := by
  have applied := send_of_isOk (applyAll plainSurroundings.weightText [cpu, gpu]) noObjects
    (by decide +kernel)
  have deleted := send_of_isOk (KueueClient.deletePool "gpu")
    ((applyAll plainSurroundings.weightText [cpu, gpu]).send noObjects).2 (by decide +kernel)
  refine ⟨_, _, applied, deleted, _, mem_cons_self, by decide +kernel, ?_⟩
  rw [← Option.isNone_iff_eq_none]
  decide +kernel

end DesiredPool

end Mobula
