import Mobula.Api.Quota
import Mobula.Provision.Demo
import Mobula.Provision.OwnedFields

/-!
# Charged and provisioned

Admission charges a project with the largest size of a cluster. What a manifest asks for is its
current size, and nothing keeps that below the largest one.
-/

namespace Mobula

open Foundation List Store Fallible

variable {key : String}

def podAmount (key cpu memory : String) (gpu : Option String) : ℚ :=
  match workerUnit ⟨"", cpu, memory, gpu, 0, 0, 0⟩ with
  | .ok unit => unit.get key
  | .error _ => 0

def WorkerGroup.amount (key : String) (group : WorkerGroup) : ℚ :=
  podAmount key group.cpu group.memory group.gpu

variable {group : WorkerGroup} {unit : ResourceMap} {spec : ClusterSpec}
  {totals : ResourceMap × ResourceMap} {groups : List WorkerGroup}

theorem WorkerGroup.amount_eq (computed : workerUnit group = .ok unit) (key : String) :
    group.amount key = unit.get key := by
  have same : workerUnit ⟨"", group.cpu, group.memory, group.gpu, 0, 0, 0⟩ = .ok unit := computed
  simp [amount, podAmount, same]

theorem podAmount_head (computed : headUnit spec = .ok unit) :
    podAmount key spec.headCpu spec.headMemory none = unit.get key := by
  apply @WorkerGroup.amount_eq ⟨"", spec.headCpu, spec.headMemory, none, 0, 0, 0⟩
  simp only [headUnit, bind_eq_ok] at computed
  rcases computed with ⟨cpu, cpuOk, memory, memoryOk, unitEq⟩
  cases unitEq
  simp only [workerUnit, bind_eq_ok]
  exact ⟨cpu, cpuOk, memory, memoryOk, 0, rfl, rfl⟩

theorem addGroup_eq_ok {after : ResourceMap × ResourceMap} :
    addGroup totals group = .ok after ↔ group.minReplicas ≤ group.maxReplicas ∧
      ∃ unit, workerUnit group = .ok unit ∧ (totals.1.add (unit.scale group.minReplicas),
        totals.2.add (unit.scale group.maxReplicas)) = after := by
  unfold addGroup
  split
  · simp
    omega
  · simp [bind_eq_ok, pure, Except.pure]
    omega

theorem foldlM_addGroup {start : ResourceMap × ResourceMap}
    (folded : groups.foldlM addGroup start = .ok totals) :
    (∀ group ∈ groups, group.minReplicas ≤ group.maxReplicas) ∧ totals.2.get key =
      start.2.get key +
        (groups.map fun group => (group.maxReplicas : ℚ) * group.amount key).sum := by
  induction groups generalizing start with
  | nil =>
    cases folded
    simp
  | cons group groups ih =>
    simp only [foldlM_cons, bind_eq_ok, addGroup_eq_ok] at folded
    rcases folded with ⟨_, ⟨ordered, unit, computed, rfl⟩, rest⟩
    refine ⟨by simpa [ordered] using (ih rest).1, ?_⟩
    rw [(ih rest).2]
    simp only [ResourceMap.get_add, ResourceMap.get_scale, WorkerGroup.amount_eq computed,
      map_cons, sum_cons]
    ring

theorem exists_foldlM_addGroup (start : ResourceMap × ResourceMap)
    (computable : ∀ group ∈ groups, group.minReplicas ≤ group.maxReplicas ∧
      ∃ unit, workerUnit group = .ok unit) :
    ∃ totals, groups.foldlM addGroup start = .ok totals := by
  induction groups generalizing start with
  | nil => exact ⟨start, rfl⟩
  | cons group groups ih =>
    simp only [forall_mem_cons] at computable
    rcases computable with ⟨⟨ordered, unit, computed⟩, others⟩
    rcases ih (start.1.add (unit.scale group.minReplicas), start.2.add
      (unit.scale group.maxReplicas)) others with ⟨totals, folded⟩
    refine ⟨totals, ?_⟩
    simp only [foldlM_cons, bind_eq_ok, addGroup_eq_ok]
    exact ⟨_, ⟨ordered, unit, computed, rfl⟩, folded⟩

theorem amount_of_known (known : Demand.Known spec) (key : String) :
    (∀ group ∈ spec.workerGroups, group.minReplicas ≤ group.maxReplicas) ∧
      Demand.amount key spec = podAmount key spec.headCpu spec.headMemory none +
        (spec.workerGroups.map fun group => (group.maxReplicas : ℚ) * group.amount key).sum := by
  rcases known with ⟨demand, computed⟩
  have folded := computed
  simp only [clusterDemand, bind_eq_ok] at folded
  rcases folded with ⟨head, headOk, folded⟩
  simp only [Demand.amount, computed, podAmount_head headOk]
  exact foldlM_addGroup folded

structure PodGroup where
  count : ℕ
  cpu : String
  memory : String
  gpu : Option String

def requested (key : String) (groups : List PodGroup) : ℚ :=
  (groups.map fun group => group.count * podAmount key group.cpu group.memory group.gpu).sum

/-- What the head and the current workers of these groups ask for. -/
def currentAmount (key : String) (spec : ClusterSpec) (groups : List WorkerGroup) : ℚ :=
  podAmount key spec.headCpu spec.headMemory none +
    (groups.map fun group => (group.replicas : ℚ) * group.amount key).sum

namespace KubeRay

def podGroup (count : ℕ) (group : Json) : Option PodGroup :=
  (containerResources group).map fun caps => ⟨count, caps.1, caps.2, containerGpu group⟩

def workerPods (group : Json) : Option PodGroup :=
  podGroup (((group.get? "replicas").bind (·.asU64?)).getD 0) group

def podGroups (manifest : Json) : List PodGroup :=
  let groups := ((manifest.index "spec").get? "workerGroupSpecs").bind (·.asArray?)
  (((manifest.index "spec").get? "headGroupSpec").bind (podGroup 1)).toList ++
    (groups.getD []).filterMap workerPods

theorem requested_toRaycluster {autoscaling : Bool} {queue : Option QueueAssignment}
    (clusterId : ClusterId) (generation : ℕ) (key : String)
    (fixed : (autoscaling || queue.any (·.elastic)) = false)
    (small : ∀ group ∈ spec.workerGroups, group.replicas < 2 ^ 32) :
    requested key (podGroups (toRaycluster clusterId spec autoscaling generation queue)) =
      currentAmount key spec spec.workerGroups := by
  have head : (headGroupSpec clusterId spec (some generation)).get? "template" = some
      (podTemplate clusterId "ray-head" spec.image spec.headCpu spec.headMemory none
        (some generation) spec.owner) := by
    simp [headGroupSpec]
  have workers : (spec.workerGroups.map fun group => workerGroupSpec clusterId group spec.image
      false (some generation) spec.owner).filterMap workerPods = spec.workerGroups.map fun group =>
        ⟨group.replicas, group.cpu, group.memory, group.gpu⟩ := by
    rw [filterMap_map, ← filterMap_eq_map]
    refine filterMap_congr ?_
    intro group groupMem
    have template : (workerGroupSpec clusterId group spec.image false (some generation)
        spec.owner).get? "template" = some (podTemplate clusterId "ray-worker" spec.image group.cpu
          group.memory group.gpu (some generation) spec.owner) := by
      simp [workerGroupSpec]
    rw [Function.comp_apply, workerPods, podGroup, containerResources_of_template template,
      containerGpu_of_template template]
    simp [workerGroupSpec, Json.asU64?_nat ((small group groupMem).trans (by decide))]
  simp [podGroups, toRaycluster, podGroup, containerResources_of_template head,
    containerGpu_of_template head, Json.asArray?, fixed, workers, requested, currentAmount,
    WorkerGroup.amount, Function.comp_def]

end KubeRay

namespace Dask

def podGroup (count : ℕ) (group : Json) : Option PodGroup := do
  let container ← firstContainer group
  let caps ← containerRequests container
  return ⟨count, caps.1, caps.2, containerGpu container⟩

def podGroups (manifest : Json) : List PodGroup :=
  (((manifest.index "spec").get? "scheduler").bind (podGroup 1)).toList ++
    (((manifest.index "spec").get? "worker").bind fun group =>
      podGroup (((group.get? "replicas").bind (·.asU64?)).getD 0) group).toList

theorem requested_toDaskcluster (clusterId : ClusterId) (generation : ℕ) (key : String)
    (small : ∀ group ∈ spec.workerGroups, group.replicas < 2 ^ 32) :
    requested key (podGroups (toDaskcluster clusterId spec generation)) =
      currentAmount key spec (spec.workerGroups.take 1) := by
  have replicas : (Json.nat ((spec.workerGroups.head?.map (·.replicas)).getD 0)).asU64? =
      some ((spec.workerGroups.head?.map (·.replicas)).getD 0) := by
    apply Json.asU64?_nat
    rcases groups : spec.workerGroups with _ | ⟨group, groups'⟩
    · decide
    · exact (small group (by simp [groups])).trans (by decide)
  rcases caps : workerCaps spec with ⟨cpu, memory, gpu⟩
  have shown : podGroups (toDaskcluster clusterId spec generation) =
      [⟨1, spec.headCpu, spec.headMemory, none⟩,
        ⟨(spec.workerGroups.head?.map (·.replicas)).getD 0, cpu, memory, gpu⟩] := by
    cases gpu <;> simp [podGroups, podGroup, toDaskcluster, schedulerSpec, workerSpec, caps,
      firstContainer, containerRequests, containerGpu, resources, optionalField, replicas,
      Json.asArray?, Json.asStr?]
  rw [shown]
  rcases groups : spec.workerGroups with _ | ⟨group, groups'⟩
  · simp [requested, currentAmount]
  · simp only [workerCaps, groups, head?_cons, Prod.mk.injEq] at caps
    simp [requested, currentAmount, WorkerGroup.amount, caps]

end Dask

theorem podAmount_nonneg {cpu memory : String} {gpu : Option String} :
    0 ≤ podAmount key cpu memory gpu := by
  unfold podAmount
  split
  · next computed => exact workerUnit_nonNeg computed key
  · rfl

/-- A creation with this specification passes every gate, that of the quota of its project among
them. -/
def AdmittedUnderQuota (spec : ClusterSpec) : Prop :=
  ∃ (store : Store) (seed : PolicyConfig) (identity : Caller) (id : ClusterId) (now : ℕ),
    (quotaFor (store.policyUnder seed) spec.project).isSome ∧
      store.createAdmits seed identity id spec now = true

/-- Admission has charged at least what the pods ask for. -/
def Covered (groups : List PodGroup) (spec : ClusterSpec) : Prop :=
  ∀ key, requested key groups ≤ Demand.amount key spec

def WorkerGroup.counts (group : WorkerGroup) : ℕ × ℕ × ℕ :=
  (group.minReplicas, group.maxReplicas, group.replicas)

variable {spec : ClusterSpec}

theorem AdmittedUnderQuota.known (admitted : AdmittedUnderQuota spec) : Demand.Known spec := by
  rcases admitted with ⟨store, seed, identity, id, now, limited, admitted⟩
  rcases Option.isSome_iff_exists.mp limited with ⟨limit, found⟩
  simp only [createAdmits, policyAdmits, found, Bool.and_eq_true, Option.all_some] at admitted
  exact (fits_of_quotaAdmits admitted.2.1).known spec (by simp)

theorem admittedUnderQuota_of_known (known : Demand.Known spec) : AdmittedUnderQuota spec := by
  rcases known with ⟨demand, computed⟩
  let policy : StoredPolicy := ⟨none, Table.empty.insert (spec.project, demand.2), .empty, false⟩
  refine ⟨{ empty with policy := some policy }, noPolicy, none, "c", 0, ?_, ?_⟩
  · simp [quotaFor, policyUnder, policy, Table.find?_insert]
  · have fits : Demand.Fits [spec] demand.2 := by
      refine ⟨by simpa using ⟨demand, computed⟩, ?_⟩
      intro key _
      simp [Demand.amount, computed]
    have fitting : quotaAdmits [] demand.2 "c" spec = true := quotaAdmits_of_fits fits
    simp [createAdmits, policyAdmits, policyUnder, policy, quotaFor, budgetFor,
      Table.find?_insert, mayWrite, permitsScoped, budgetAdmits]
    exact ⟨rfl, fitting⟩

theorem currentAmount_le (known : Demand.Known spec) (shown : groups.Sublist spec.workerGroups)
    (within : ∀ group ∈ groups, group.replicas ≤ group.maxReplicas) :
    currentAmount key spec groups ≤ Demand.amount key spec := by
  have nonneg : ∀ group : WorkerGroup, 0 ≤ (group.maxReplicas : ℚ) * group.amount key :=
    fun group => mul_nonneg (by simp) podAmount_nonneg
  rw [currentAmount, (amount_of_known known key).2]
  gcongr
  calc (groups.map fun group => (group.replicas : ℚ) * group.amount key).sum
      ≤ (groups.map fun group => (group.maxReplicas : ℚ) * group.amount key).sum := by
        apply sum_le_sum
        intro group groupMem
        gcongr
        · exact podAmount_nonneg
        · exact within group groupMem
    _ ≤ _ := by
        apply (shown.map _).sum_le_sum
        simpa using fun group _ => nonneg group

theorem podAmount_nothing : podAmount CPU "0" "0" none = 0 := by decide +kernel

theorem podAmount_core : podAmount CPU "1" "0" none = 1 := by decide +kernel

/-- The groups at other prices: one asks for a core, and the others for nothing. -/
def repriced (front : List WorkerGroup) (group : WorkerGroup) (back : List WorkerGroup) :
    List WorkerGroup :=
  let asking (cpu : String) (group : WorkerGroup) : WorkerGroup :=
    { group with cpu, memory := "0", gpu := none }
  front.map (asking "0") ++ asking "1" group :: back.map (asking "0")

theorem known_repriced {front back : List WorkerGroup}
    (ordered : ∀ other ∈ front ++ group :: back, other.minReplicas ≤ other.maxReplicas) :
    Demand.Known { spec with
      headCpu := "0", headMemory := "0", workerGroups := repriced front group back } := by
  have nothing : cpuCores "0" = .ok 0 ∧ memGib "0" = .ok 0 := by decide +kernel
  have core : cpuCores "1" = .ok 1 := by decide +kernel
  have computable : ∀ asked ∈ repriced front group back,
      asked.minReplicas ≤ asked.maxReplicas ∧ ∃ unit, workerUnit asked = .ok unit := by
    simp only [repriced, forall_mem_append, forall_mem_cons, forall_mem_map,
      workerUnit, nothing, core] at ordered ⊢
    exact ⟨fun other otherMem => ⟨ordered.1 other otherMem, _, rfl⟩, ⟨ordered.2.1, _, rfl⟩,
      fun other otherMem => ⟨ordered.2.2 other otherMem, _, rfl⟩⟩
  rcases exists_foldlM_addGroup _ computable with ⟨totals, folded⟩
  refine ⟨totals, ?_⟩
  simp only [clusterDemand, headUnit, bind_eq_ok]
  exact ⟨_, ⟨0, by simp [nothing, Except.mapError], 0, by simp [nothing, Except.mapError], rfl⟩,
    folded⟩

theorem forall_of_counts {groups' : List WorkerGroup}
    (same : groups'.map (·.counts) = groups.map (·.counts)) (holds : ℕ × ℕ × ℕ → Prop)
    (every : ∀ group ∈ groups, holds group.counts) : ∀ group ∈ groups', holds group.counts := by
  have kept : ∀ counts ∈ groups'.map (·.counts), holds counts := by
    rw [same]
    simpa using every
  simpa using kept

def ClusterSpec.Resembles (other spec : ClusterSpec) : Prop :=
  other.workerGroups.map (·.counts) = spec.workerGroups.map (·.counts)

variable {shown : ℕ}

theorem exists_split_of_mem_take (groupMem : group ∈ groups.take shown) :
    ∃ front back, groups = front ++ group :: back ∧ front.length < shown := by
  rcases append_of_mem groupMem with ⟨front, back, split⟩
  refine ⟨front, back ++ groups.drop shown, ?_, ?_⟩
  · rw [← cons_append, ← append_assoc, ← split, take_append_drop]
  · have length := congrArg length split
    simp at length
    omega

/-- What the first so many groups ask for is within the charge, whatever they ask for, exactly if
none of them has more replicas than its maximum. -/
theorem covers_iff {pods : ClusterSpec → List PodGroup}
    (asks : ∀ other : ClusterSpec, other.Resembles spec → ∀ key,
      requested key (pods other) = currentAmount key other (other.workerGroups.take shown)) :
    (∀ other : ClusterSpec, other.Resembles spec → AdmittedUnderQuota other →
        Covered (pods other) other) ↔
      ((∀ group ∈ spec.workerGroups, group.minReplicas ≤ group.maxReplicas) →
        ∀ group ∈ spec.workerGroups.take shown, group.replicas ≤ group.maxReplicas) := by
  constructor
  · intro covered ordered group groupMem
    rcases exists_split_of_mem_take groupMem with ⟨front, back, split, early⟩
    rw [split] at ordered
    have known := @known_repriced _ spec _ _ ordered
    have resembles : ClusterSpec.Resembles { spec with
        headCpu := "0", headMemory := "0", workerGroups := repriced front group back } spec := by
      simp [ClusterSpec.Resembles, split, repriced, WorkerGroup.counts, Function.comp_def]
    have bound := covered _ resembles (admittedUnderQuota_of_known known) CPU
    rw [asks _ resembles, (amount_of_known known CPU).2] at bound
    rcases Nat.exists_eq_add_of_lt early with ⟨more, rfl⟩
    simpa [currentAmount, repriced, WorkerGroup.amount, podAmount_nothing, podAmount_core,
      take_append, Function.comp_def, add_assoc] using bound
  · intro bounded other resembles admitted key
    have ordered := forall_of_counts resembles.symm (fun counts => counts.1 ≤ counts.2.1)
      (amount_of_known admitted.known key).1
    have taken : (other.workerGroups.take shown).map (·.counts) =
        (spec.workerGroups.take shown).map (·.counts) := by
      rw [map_take, map_take, resembles]
    rw [asks other resembles]
    apply currentAmount_le admitted.known (take_sublist _ _)
    exact forall_of_counts taken (fun counts => counts.2.2 ≤ counts.2.1) (bounded ordered)

/-- The manifests of all specifications with the same replica numbers ask for no more than what is
charged exactly if no group that is rendered has more replicas than its maximum. -/
theorem admission_covers_iff {autoscaling : Bool} {queue : Option QueueAssignment}
    (small : ∀ group ∈ spec.workerGroups, group.replicas < 2 ^ 32)
    (fixed : (autoscaling || queue.any (·.elastic)) = false) (id : ClusterId) (generation : ℕ) :
    ((∀ other : ClusterSpec, other.Resembles spec → AdmittedUnderQuota other →
        Covered (KubeRay.podGroups (KubeRay.toRaycluster id other autoscaling generation queue))
          other) ↔
      ((∀ group ∈ spec.workerGroups, group.minReplicas ≤ group.maxReplicas) →
        ∀ group ∈ spec.workerGroups, group.replicas ≤ group.maxReplicas)) ∧
    ((∀ other : ClusterSpec, other.Resembles spec → AdmittedUnderQuota other →
        Covered (Dask.podGroups (Dask.toDaskcluster id other generation)) other) ↔
      ((∀ group ∈ spec.workerGroups, group.minReplicas ≤ group.maxReplicas) →
        ∀ group ∈ spec.workerGroups.take 1, group.replicas ≤ group.maxReplicas)) := by
  have smallFor : ∀ other : ClusterSpec, other.Resembles spec →
      ∀ group ∈ other.workerGroups, group.replicas < 2 ^ 32 :=
    fun other resembles => forall_of_counts resembles (·.2.2 < 2 ^ 32) small
  constructor
  · have asks : ∀ other : ClusterSpec, other.Resembles spec → ∀ key,
        requested key (KubeRay.podGroups
          (KubeRay.toRaycluster id other autoscaling generation queue)) =
          currentAmount key other (other.workerGroups.take spec.workerGroups.length) := by
      intro other resembles key
      have length := congrArg length resembles
      simp only [length_map] at length
      rw [KubeRay.requested_toRaycluster id generation key fixed (smallFor other resembles),
        ← length, take_length]
    simpa using covers_iff asks
  · apply covers_iff
    intro other resembles key
    exact Dask.requested_toDaskcluster id generation key (smallFor other resembles)

/-- Three workers of at most four. -/
theorem admission_covers_scaled :
    AdmittedUnderQuota (KubeRay.scaledSpec 3) ∧
      Covered (KubeRay.podGroups (KubeRay.toRaycluster "c1" (KubeRay.scaledSpec 3) false 1 none))
        (KubeRay.scaledSpec 3) := by
  have admitted : AdmittedUnderQuota (KubeRay.scaledSpec 3) := by
    apply admittedUnderQuota_of_known
    rcases computed : clusterDemand (KubeRay.scaledSpec 3) with refused | demand
    · have known : (clusterDemand (KubeRay.scaledSpec 3)).isOk = true := by decide +kernel
      simp [computed, Except.isOk, Except.toBool] at known
    · exact ⟨demand, computed⟩
  refine ⟨admitted, ?_⟩
  apply (admission_covers_iff (by simp [KubeRay.scaledSpec]) rfl "c1" 1).1.mpr _ _ rfl admitted
  simp [KubeRay.scaledSpec]

def roomForFive : PolicyConfig :=
  ⟨none, Table.empty.insert ("p", ResourceMap.ofEntries [(CPU, 5), (MEMORY, 5)]), .empty,
    .wholeGpu⟩

/-- A hundred workers of at most four are charged as four, and asked for. -/
theorem admission_misses_replicas :
    (quotaFor (Store.empty.policyUnder roomForFive) "p").isSome ∧
      Store.empty.createAdmits roomForFive none "c1" (KubeRay.scaledSpec 100) 0 = true ∧
      Demand.amount CPU (KubeRay.scaledSpec 100) = 5 ∧
      requested CPU (KubeRay.podGroups (KubeRay.toRaycluster "c1" (KubeRay.scaledSpec 100) false 1
        none)) = 101 ∧
      requested CPU (Dask.podGroups (Dask.toDaskcluster "c1" (KubeRay.scaledSpec 100) 1)) =
        101 := by
  decide +kernel

end Mobula
