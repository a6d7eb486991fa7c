import Mobula.Controller.Alone

/-!
# The metering loop

A tick appends usage samples to the store. With Kueue they are what its queues report; without
it they are an estimate, the minimum demand of every cluster that is desired to run. Whatever
fails is logged and left out; it never fails the tick.
-/

namespace Mobula

open Foundation

variable {pool project : String}

abbrev PoolMap := Table (fun entry : String × String => entry.1)

namespace Metering

def orInsert (pool : String) (known : PoolMap) (alloc : AllocationSpec) : PoolMap :=
  match known.find? alloc.project with
  | some _ => known
  | none => known.insert (alloc.project, pool)

def projectPoolsIn : List StoredPool → PoolMap → Program PoolMap
  | [], known => return known
  | pool :: pools, known => do
      match ← Calls.listAllocations pool.name with
      | .ok allocations => projectPoolsIn pools (allocations.foldl (orInsert pool.name) known)
      | .error _ => projectPoolsIn pools known

/-- The pool of each project, from all allocations; the first match wins. -/
def projectPools : Program PoolMap := do
  match ← Calls.listPools with
  | .error _ => return .empty
  | .ok pools => projectPoolsIn pools .empty

variable (provisioner : Bool) (now : ℕ) (pools : PoolMap)

def poolOf (project : String) : String :=
  ((pools.find? project).map Prod.snd).getD ""

/-- The minimum demand of a cluster that is desired to run. -/
def clusterSamples (row : StoredCluster) : List UsageSample :=
  if row.desired = .running then
    match clusterDemand row.spec with
    | .error _ => []
    | .ok (minimum, _) =>
      minimum.rows.map fun (resource, quantity) =>
        ⟨now, row.spec.project, poolOf pools row.spec.project, resource, quantity,
          .observedSpec⟩
  else []

def collectObservedSpec : Program (List UsageSample) := do
  match ← Calls.list with
  | .error _ => return []
  | .ok rows =>
    let pools ← projectPools
    return rows.flatMap (clusterSamples now pools)

def parseOrSkip (quantity : String) : Option ℚ :=
  (parseQuantity quantity).toOption

def ledgerSamples (pool : String) (projectOf : String → String) (usage : UsageTable) :
    List UsageSample :=
  usage.flatMap fun (name, amounts) =>
    amounts.filterMap fun (resource, reported) =>
      (parseOrSkip reported).map fun quantity =>
        ⟨now, projectOf name, pool, resource, quantity, .kueueLedger⟩

def observedSamples (pool : String) (observed : PoolObservation) : List UsageSample :=
  ledgerSamples now pool (fun _ => "") observed.flavorsUsage ++
    ledgerSamples now pool id observed.queuesUsage

def collectKueueIn (now : ℕ) : List StoredPool → Program (List UsageSample)
  | [] => return []
  | pool :: pools => do
      match ← Calls.observePool pool.name with
      | .ok (some observed) =>
        let later ← collectKueueIn now pools
        return observedSamples now pool.name observed ++ later
      | _ => collectKueueIn now pools

def collectKueue : Program (List UsageSample) := do
  match ← Calls.listPools with
  | .error _ => return []
  | .ok pools => collectKueueIn now pools

/-- Whether there is a pool provisioner and the cluster serves its resources. -/
def kueue : Bool → Program Bool
  | true => Calls.kueuePresent
  | false => return false

def collect : Program (List UsageSample) := do
  if ← kueue provisioner then collectKueue now else collectObservedSpec now

def tick : Program ℕ := do
  let now ← Calls.nowUnix
  let samples ← collect provisioner now
  if samples.isEmpty then return 0
  else
    match ← Calls.recordUsageSamples samples with
    | .ok () => return samples.length
    | .error _ => return 0

end Metering

namespace Store

def poolIn (store : Store) (project : String) (pools : List StoredPool) : Option StoredPool :=
  pools.find? fun pool => (store.allocationsOf pool.name).any (·.project = project)

def projectPoolsIn (store : Store) (pools : List StoredPool) (known : PoolMap) : PoolMap :=
  pools.foldl
    (fun known pool => (store.allocationsOf pool.name).foldl (Metering.orInsert pool.name) known)
    known

def projectPools (store : Store) : PoolMap :=
  store.projectPoolsIn store.pools.rows .empty

def estimate (store : Store) (now : ℕ) : List UsageSample :=
  store.clusters.rows.flatMap (Metering.clusterSamples now store.projectPools)

end Store

section Alone

variable {Provider : Type} (platform : Platform Provider) (thread : ℕ)

theorem projectPoolsIn_runs (pools : List StoredPool) (known : PoolMap) (world : World Provider) :
    Runs platform thread (Metering.projectPoolsIn pools known) world
      (world.store.projectPoolsIn pools known) world := by
  induction pools generalizing known with
  | nil => exact .ret
  | cons pool pools ih =>
    apply Prog.Yields.invoke exec_listAllocations
    exact ih _

theorem projectPools_runs (world : World Provider) :
    Runs platform thread Metering.projectPools world world.store.projectPools world :=
  Prog.Yields.invoke exec_listPools
    (projectPoolsIn_runs platform thread world.store.pools.rows .empty world)

end Alone

theorem find?_orInsert {known : PoolMap} {alloc : AllocationSpec} :
    (Metering.orInsert pool known alloc).find? project =
      (known.find? project).or
        (if alloc.project = project then some (project, pool) else none) := by
  unfold Metering.orInsert
  cases found : known.find? alloc.project with
  | some entry =>
    by_cases same : alloc.project = project
    · rw [← same, found, Option.some_or]
    · simp [same]
  | none =>
    rw [Table.find?_insert]
    by_cases same : alloc.project = project
    · simp [← same, found]
    · simp [same, Ne.symm same]

theorem find?_foldl_orInsert {allocations : List AllocationSpec} {known : PoolMap} :
    (allocations.foldl (Metering.orInsert pool) known).find? project =
      (known.find? project).or
        (if allocations.any (·.project = project) then some (project, pool) else none) := by
  induction allocations generalizing known with
  | nil => simp
  | cons alloc allocations ih =>
    simp [ih, find?_orInsert, Option.or_assoc]
    by_cases same : alloc.project = project <;> simp [same]

theorem Store.find?_projectPoolsIn (store : Store) (project : String) (pools : List StoredPool)
    (known : PoolMap) : (store.projectPoolsIn pools known).find? project =
      (known.find? project).or
        ((store.poolIn project pools).map fun pool => (project, pool.name)) := by
  induction pools generalizing known with
  | nil => simp [Store.projectPoolsIn, Store.poolIn]
  | cons pool pools ih =>
    have rest := ih ((store.allocationsOf pool.name).foldl (Metering.orInsert pool.name) known)
    rw [Store.projectPoolsIn] at rest ⊢
    rw [List.foldl_cons, rest, find?_foldl_orInsert, Option.or_assoc]
    unfold Store.poolIn
    rw [List.find?_cons]
    by_cases allocated : (store.allocationsOf pool.name).any (·.project = project) = true <;>
      simp [allocated]

theorem Store.find?_projectPools (store : Store) (project : String) :
    store.projectPools.find? project =
      (store.poolIn project store.pools.rows).map fun pool => (project, pool.name) := by
  rw [Store.projectPools, Store.find?_projectPoolsIn]
  rfl

end Mobula
