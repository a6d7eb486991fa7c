import Mobula.Api.AllocationIntegrity
import Mobula.Controller.Metering

/-!
# The pool of a project

The GPU check of a creation, the lookup of the queue and the attribution of usage each take the
first pool of a listing that has an allocation for the project. Nothing ensures that there is
at most one such pool.
-/

namespace Mobula

open Foundation List

variable (store : Store)

/-- The pools with an allocation for the project. -/
def Store.poolsWith (project : String) : List StoredPool :=
  store.pools.rows.filter fun pool => (store.allocationsOf pool.name).any (·.project = project)

variable (seed : PolicyConfig) (spec : ClusterSpec)

/-- How the GPU check of a creation ends when it looks at the given pool. -/
def Store.gateOn : Option StoredPool → Gate
  | none => .pass
  | some pool =>
    match checkClusterGpuIsolation pool.spec seed.gpuDefaultSharing
      (store.allocationsOf pool.name).length spec with
    | .ok () => .pass
    | .error violation => .answer ⟨400, .gpuSharing violation⟩

variable {Provider : Type}

/-- The three searches for the pool of a project settle on the given one. -/
structure Resolves (platform : Platform Provider) (world : World Provider) (project : String)
    (pool : Option StoredPool) : Prop where
  gate : ∀ thread seed identity id spec, spec.project = project →
    ∃ world', Runs platform thread (gpuGate seed identity id spec) world
      (world.store.gateOn seed spec pool) world'
  queue : ∀ thread, Runs platform thread (queueAssignmentForProject project) world
    (.ok (pool.map fun pool => ⟨project, pool.spec.elastic⟩)) world
  metered : ∀ thread, ∃ pools, Runs platform thread Metering.projectPools world pools world ∧
    pools.find? project = pool.map fun pool => (project, pool.name)

theorem Store.poolIn_eq_head? (project : String) :
    store.poolIn project store.pools.rows = (store.poolsWith project).head? := by
  rw [Store.poolIn, Store.poolsWith, head?_filter]

theorem Store.gpuVerdict_eq (pools : List StoredPool) : store.gpuVerdict seed spec pools =
      match store.poolIn spec.project pools with
      | none => .ok ()
      | some pool => checkClusterGpuIsolation pool.spec seed.gpuDefaultSharing
          (store.allocationsOf pool.name).length spec := by
  induction pools with
  | nil => rfl
  | cons pool pools ih =>
    unfold Store.gpuVerdict Store.poolIn
    rw [find?_cons]
    by_cases allocated : (store.allocationsOf pool.name).any (·.project = spec.project) = true
    · simp [allocated]
    · simp only [allocated]
      exact ih

theorem Store.queueIn_eq (project : String) (pools : List StoredPool) :
    store.queueIn project pools =
      (store.poolIn project pools).map fun pool => ⟨project, pool.spec.elastic⟩ := by
  induction pools with
  | nil => rfl
  | cons pool pools ih =>
    unfold Store.queueIn Store.poolIn
    rw [find?_cons]
    cases found : (store.allocationsOf pool.name).find? (·.project = project) with
    | some allocation =>
      have owner : allocation.project = project := by simpa using find?_some found
      have allocated : (store.allocationsOf pool.name).any (·.project = project) = true :=
        any_eq_true.mpr ⟨allocation, mem_of_find?_eq_some found, by simpa using owner⟩
      simp [allocated, owner]
    | none =>
      have unallocated : (store.allocationsOf pool.name).any (·.project = project) = false := by
        rw [any_eq_false]
        exact find?_eq_none.mp found
      simp only [unallocated]
      exact ih

/-- All three searches settle on the first pool of the listing that has an allocation. -/
theorem resolves_first (platform : Platform Provider) (world : World Provider) (project : String) :
    Resolves platform world project (world.store.poolsWith project).head? := by
  rw [← Store.poolIn_eq_head?]
  constructor
  · rintro thread seed identity id spec rfl
    have verdict := world.store.gpuVerdict_eq seed spec world.store.pools.rows
    cases found : world.store.poolIn spec.project world.store.pools.rows with
    | none =>
      rw [found] at verdict
      exact ⟨world, gpuGate_passes verdict⟩
    | some pool =>
      rw [found] at verdict
      simp only [Store.gateOn]
      cases checked : checkClusterGpuIsolation pool.spec seed.gpuDefaultSharing
        (world.store.allocationsOf pool.name).length spec with
      | ok passed =>
        exact ⟨world, gpuGate_passes (verdict.trans checked)⟩
      | error violation =>
        rcases gpuGate_refuses platform thread identity id (verdict.trans checked) with
          ⟨world', refused, _⟩
        exact ⟨world', refused⟩
  · intro thread
    rw [← Store.queueIn_eq]
    exact queueAssignmentForProject_runs
  · intro thread
    exact ⟨world.store.projectPools, projectPools_runs platform thread world,
      world.store.find?_projectPools project⟩

section Orders

variable {platform : Platform Provider} {world world' : World Provider} {project : String}

theorem any_allocationsOf_drift (drifted : world.CatalogDrift world') {name : String} :
    (world'.store.allocationsOf name).any (·.project = project) =
      (world.store.allocationsOf name).any (·.project = project) := by
  have sameRows : (world.store.allocationsOf name).Perm (world'.store.allocationsOf name) :=
    drifted.allocations.filter _
  exact sameRows.any_eq.symm

theorem poolsWith_drift (drifted : world.CatalogDrift world') (project : String) :
    (world.store.poolsWith project).Perm (world'.store.poolsWith project) := by
  have samePools : (world'.store.poolsWith project) = world'.store.pools.rows.filter
      fun pool => (world.store.allocationsOf pool.name).any (·.project = project) := by
    rw [Store.poolsWith]
    congr 1
    funext pool
    exact any_allocationsOf_drift drifted
  rw [samePools]
  exact drifted.pools.filter _

theorem resolves_of_single (single : (world.store.poolsWith project).length ≤ 1)
    (drifted : world.CatalogDrift world') :
    Resolves platform world' project (world.store.poolsWith project).head? := by
  have perm := poolsWith_drift drifted project
  have same : world'.store.poolsWith project = world.store.poolsWith project := by
    rcases listed : world.store.poolsWith project with _ | ⟨pool, others⟩
    · exact nil_perm.mp (listed ▸ perm)
    have none : others = [] := by
      rw [listed, length_cons] at single
      exact length_eq_zero_iff.mp (by omega)
    rw [listed, none] at perm
    rw [none]
    exact (singleton_perm.mp perm).symm
  rw [← same]
  exact resolves_first platform world' project

theorem exists_order_with_first {pool : StoredPool}
    (poolMem : pool ∈ world.store.poolsWith project) : ∃ world', world.CatalogDrift world' ∧
      (world'.store.poolsWith project).head? = some pool := by
  rw [Store.poolsWith, mem_filter] at poolMem
  rcases Table.exists_reordered_with_head poolMem.1 with ⟨pools, rest, reordered, first⟩
  refine ⟨{ world with store := { world.store with pools := pools } }, ⟨reordered, Perm.refl _⟩, ?_⟩
  have allocated : (world.store.allocationsOf pool.name).any (·.project = project) = true :=
    poolMem.2
  have listed : Store.allocationsOf { world.store with pools := pools } pool.name =
      world.store.allocationsOf pool.name := rfl
  simp only [Store.poolsWith, first]
  rw [filter_cons_of_pos (by rw [listed]; exact allocated), head?_cons]

/-- With two pools, two orders settle on different ones. -/
theorem not_resolves_of_two {first second : StoredPool}
    (firstMem : first ∈ world.store.poolsWith project)
    (secondMem : second ∈ world.store.poolsWith project) (distinct : first ≠ second)
    (pool : Option StoredPool) :
    ¬∀ world', world.CatalogDrift world' → Resolves platform world' project pool := by
  intro resolves
  have settles {candidate : StoredPool} (candidateMem : candidate ∈ world.store.poolsWith project) :
      pool.map (fun pool => (project, pool.name)) = some (project, candidate.name) := by
    rcases exists_order_with_first candidateMem with ⟨world', drifted, head⟩
    rcases (resolves world' drifted).metered 0 with ⟨pools, ran, found⟩
    rcases (resolves_first platform world' project).metered 0 with ⟨pools', ran', found'⟩
    rw [(ran.unique ran').1, found', head] at found
    exact found.symm
  have sameName : first.name = second.name := by
    have both := (settles firstMem).symm.trans (settles secondMem)
    simpa using both
  simp [Store.poolsWith] at firstMem secondMem
  exact distinct (Table.eq_of_mem_of_key_eq firstMem.1 secondMem.1 sameName)

/--
The GPU check, the queue lookup and metering settle on one pool in every order of
the listings exactly when the project has allocations in one stored pool at most.
-/
theorem pool_resolution_iff (platform : Platform Provider) (world : World Provider)
    (project : String) :
    (∃ pool, ∀ world', world.CatalogDrift world' → Resolves platform world' project pool) ↔
      (world.store.poolsWith project).length ≤ 1 := by
  constructor
  · rintro ⟨pool, resolves⟩
    by_contra several
    have distinct : (world.store.poolsWith project).Nodup :=
      world.store.pools.nodup.of_map.filter _
    match listed : world.store.poolsWith project with
    | [] => simp [listed] at several
    | [only] => simp [listed] at several
    | first :: second :: others =>
      rw [listed, nodup_cons] at distinct
      refine @not_resolves_of_two _ _ _ _ first second ?_ ?_ ?_ pool resolves
      · simp [listed]
      · simp [listed]
      · rintro rfl
        exact distinct.1 mem_cons_self
  · intro single
    exact ⟨_, fun world' drifted => resolves_of_single single drifted⟩

end Orders

def wholePool (name : String) (elastic : Bool) : PoolSpec where
  name := name
  flavors := [⟨"a100", [("nvidia.com/gpu", "8")], [], []⟩]
  cohort := "main"
  fairSharingWeight := 1
  elastic := elastic
  gpuSharing := some .wholeGpu

/-- A project is put into a second pool. -/
def putTwice : List PoolRequest :=
  [.createPool (some administrator) (wholePool "east" false),
    .createPool (some administrator) (wholePool "west" true), putInto "east" "p",
    putInto "west" "p"]

/-- Both puts are accepted, and no pool is the one all searches settle on. -/
theorem project_in_two_pools_unresolved :
    ∃ turns final, afterPoolRequests putTwice = some (turns, final) ∧
      ¬∃ pool, ∀ world', final.CatalogDrift world' → Resolves demoPlatform world' "p" pool := by
  have outcome : (afterPoolRequests putTwice).map (fun tracked =>
      (tracked.2.store.poolsWith "p").map (·.name)) = some ["west", "east"] := by
    decide +kernel
  rcases Option.map_eq_some_iff.mp outcome with ⟨⟨turns, final⟩, tracked, names⟩
  refine ⟨turns, final, tracked, ?_⟩
  rintro ⟨pool, resolves⟩
  match listed : final.store.poolsWith "p" with
  | [] => simp [listed] at names
  | [only] => simp [listed] at names
  | first :: second :: others =>
    rw [listed] at names
    simp at names
    refine @not_resolves_of_two _ _ _ _ first second ?_ ?_ ?_ pool resolves
    · simp [listed]
    · simp [listed]
    · rintro rfl
      rw [names.1] at names
      exact absurd names.2.1 (by decide)

end Mobula
