import Mobula.Api.PoolRequests
import Mobula.Foundation.Snapshot

/-!
# Tenants of time-sliced pools

A put checks the tenants on the pool and the allocations it has read, and writes later; a
creation does not check them at all.
-/

namespace Mobula

open Foundation Table

/-- No two projects have allocations in the pool. -/
def Store.SingleTenant (store : Store) (name : String) : Prop :=
  ∀ first ∈ store.allocationsOf name, ∀ second ∈ store.allocationsOf name,
    first.project = second.project

instance (store : Store) (name : String) : Decidable (store.SingleTenant name) :=
  inferInstanceAs (Decidable (∀ first ∈ store.allocationsOf name,
    ∀ second ∈ store.allocationsOf name, first.project = second.project))

def Call.readsPool (name : String) : Call → Bool
  | .control (.getPool wanted) => wanted = name
  | _ => false

def Call.allocationPut : Call → Option AllocationSpec
  | .admin (.upsertAllocation alloc) => some alloc
  | _ => none

/-- Whether a call outdates what the put of an allocation has read. -/
def Call.overtakes (alloc : AllocationSpec) : Call → Bool
  | .admin (.upsertPool name _) => name = alloc.pool
  | .admin (.upsertAllocation other) => other.pool = alloc.pool && other.project ≠ alloc.project
  | _ => false

/-- Whether a call creates a time-sliced pool over the allocations of several projects. -/
def Call.createsShared (seed : PolicyConfig) (store : Store) : Call → Bool
  | .admin (.upsertPool name spec) =>
    effectiveGpuSharing spec seed.gpuDefaultSharing = .timeSlice && !store.SingleTenant name
  | _ => false

variable {Provider : Type}

/-- No put is overtaken between its look at the pool, the first of its readings, and its write. -/
abbrev PutsUnraced (trace : List (Step Call.Res (World Provider) PoolRequest)) : Prop :=
  ∀ alloc ∈ trace.filterMap (·.op.allocationPut),
    Foundation.Undisturbed (Call.readsPool alloc.pool) (·.allocationPut = some alloc)
      (·.op.overtakes alloc) trace

/-- No time-sliced pool is created over the allocations of several projects. -/
abbrev CreatesUnshared (seed : PolicyConfig)
    (trace : List (Step Call.Res (World Provider) PoolRequest)) : Prop :=
  ∀ step ∈ trace, step.op.createsShared seed step.before.store = false

def Unshared (seed : PolicyConfig) (world : World Provider) : Prop :=
  ∀ pool ∈ world.store.pools.rows,
    effectiveGpuSharing pool.spec seed.gpuDefaultSharing = .timeSlice →
    world.store.SingleTenant pool.name

variable {store store' : Store} {name : String} {alloc added : AllocationSpec}

theorem Store.mem_allocationsOf :
    alloc ∈ store.allocationsOf name ↔ alloc ∈ store.allocations.rows ∧ alloc.pool = name := by
  simp [Store.allocationsOf]

theorem Store.SingleTenant.of_allocationsOf (single : store.SingleTenant name)
    (fewer : ∀ alloc ∈ store'.allocationsOf name, alloc ∈ store.allocationsOf name) :
    store'.SingleTenant name := by
  intro first firstMem second secondMem
  exact single first (fewer first firstMem) second (fewer second secondMem)

theorem Store.SingleTenant.of_subset (single : store.SingleTenant name)
    (fewer : ∀ alloc ∈ store'.allocations.rows, alloc ∈ store.allocations.rows) :
    store'.SingleTenant name := by
  apply single.of_allocationsOf
  intro alloc allocMem
  rw [Store.mem_allocationsOf] at allocMem ⊢
  exact ⟨fewer alloc allocMem.1, allocMem.2⟩

theorem Store.mem_allocationsOf_insert
    (allocations : store'.allocations = store.allocations.insert added)
    (allocMem : alloc ∈ store'.allocationsOf name) :
    alloc = added ∧ added.pool = name ∨ alloc ∈ store.allocationsOf name := by
  rw [Store.mem_allocationsOf, allocations, mem_insert] at allocMem
  rcases allocMem with ⟨rfl | ⟨stored, _⟩, inside⟩
  · exact .inl ⟨rfl, inside⟩
  · exact .inr (Store.mem_allocationsOf.mpr ⟨stored, inside⟩)

theorem Store.SingleTenant.of_insert (single : store.SingleTenant name)
    (allocations : store'.allocations = store.allocations.insert added)
    (elsewhere : name ≠ added.pool) : store'.SingleTenant name := by
  apply single.of_allocationsOf
  intro alloc allocMem
  rcases Store.mem_allocationsOf_insert allocations allocMem with ⟨_, here⟩ | before
  · exact absurd here.symm elsewhere
  · exact before

theorem tenant_of_isolated {pool : PoolSpec} {default : GpuSharing}
    {existing : List AllocationSpec} {project : String}
    (isolated : checkPoolGpuIsolation pool default (tenantsWith existing project) = .ok ())
    (sliced : effectiveGpuSharing pool default = .timeSlice) :
    ∀ alloc ∈ existing, alloc.project = project := by
  intro alloc allocMem
  unfold checkPoolGpuIsolation at isolated
  split at isolated
  · cases isolated
  · next few =>
      have atMostOne : tenantsWith existing project ≤ 1 := by
        by_contra many
        exact few ⟨by omega, sliced⟩
      have held : alloc.project ∈ (existing.map (·.project) ++ [project]).toFinset := by
        rw [List.mem_toFinset, List.mem_append, List.mem_map]
        exact .inl ⟨alloc, allocMem, rfl⟩
      have own : project ∈ (existing.map (·.project) ++ [project]).toFinset := by simp
      exact Finset.card_le_one.mp atMostOne _ held _ own

/-- Whatever is stored under the name has the specification. -/
def SpecOf (name : String) (spec : PoolSpec) (world : World Provider) : Prop :=
  ∀ pool, world.store.pools.find? name = some pool → pool.spec = spec

/-- The tenants of an allocation's pool are its own project and those of the given ones. -/
def TenantsAmong (alloc : AllocationSpec) (existing : List AllocationSpec)
    (world : World Provider) : Prop :=
  ∀ held ∈ world.store.allocationsOf alloc.pool,
    held.project = alloc.project ∨ ∃ other ∈ existing, other.project = held.project

section Steps

variable {call : Call} {world world' : World Provider} {alloc : AllocationSpec}

theorem SpecOf.step {spec : PoolSpec} (same : SpecOf alloc.pool spec world)
    (step : PoolStep world.store world'.store call) (calm : call.overtakes alloc = false) :
    SpecOf alloc.pool spec world' := by
  intro pool found
  cases step with
  | quiet pools _ => exact same pool (pools ▸ found)
  | @upsertPool posted row rowName _ pools _ =>
    have other : alloc.pool ≠ row.name := by
      intro here
      simp [Call.overtakes, here, rowName] at calm
    rw [pools, find?_insert, if_neg other] at found
    exact same pool found
  | deletePool pools _ =>
    rw [pools, find?_erase] at found
    split at found
    · cases found
    · exact same pool found
  | upsertAllocation pools _ => exact same pool (pools ▸ found)
  | deleteAllocation pools _ => exact same pool (pools ▸ found)

theorem TenantsAmong.step {existing : List AllocationSpec}
    (among : TenantsAmong alloc existing world) (step : PoolStep world.store world'.store call)
    (calm : call.overtakes alloc = false) : TenantsAmong alloc existing world' := by
  intro held heldMem
  rw [Store.mem_allocationsOf] at heldMem
  have before (stored : held ∈ world.store.allocations.rows) :
      held.project = alloc.project ∨ ∃ other ∈ existing, other.project = held.project :=
    among held (Store.mem_allocationsOf.mpr ⟨stored, heldMem.2⟩)
  cases step with
  | quiet _ allocations => exact before (allocations ▸ heldMem.1)
  | upsertPool _ _ _ _ allocations => exact before (allocations ▸ heldMem.1)
  | deletePool _ allocations => exact before (allocations ▸ heldMem.1)
  | upsertAllocation _ allocations =>
    rw [allocations, mem_insert] at heldMem
    rcases heldMem with ⟨rfl | ⟨stored, _⟩, here⟩
    · have own : held.project = alloc.project := by
        simpa [Call.overtakes, here] using calm
      exact .inl own
    · exact before stored
  | deleteAllocation _ allocations =>
    rw [allocations, mem_erase] at heldMem
    exact before heldMem.1.1

theorem Unshared.step {seed : PolicyConfig} (held : Unshared seed world)
    (step : PoolStep world.store world'.store call)
    (creates : call.createsShared seed world.store = false)
    (puts : ∀ alloc, call = .admin (.upsertAllocation alloc) →
      ∀ pool, world.store.pools.find? alloc.pool = some pool →
      effectiveGpuSharing pool.spec seed.gpuDefaultSharing = .timeSlice →
      ∀ other ∈ world.store.allocationsOf alloc.pool, other.project = alloc.project) :
    Unshared seed world' := by
  intro pool poolMem sliced
  cases step with
  | quiet pools allocations =>
    rw [pools] at poolMem
    exact (held pool poolMem sliced).of_subset fun alloc allocMem => allocations ▸ allocMem
  | @upsertPool spec row rowName rowSpec pools allocations =>
    rw [pools, mem_insert] at poolMem
    have fewer : ∀ alloc ∈ world'.store.allocations.rows,
        alloc ∈ world.store.allocations.rows := fun alloc allocMem => allocations ▸ allocMem
    rcases poolMem with rfl | ⟨stored, _⟩
    · have single : world.store.SingleTenant spec.name := by
        simpa [Call.createsShared, rowSpec ▸ sliced] using creates
      exact rowName ▸ single.of_subset fewer
    · exact (held pool stored sliced).of_subset fewer
  | deletePool pools allocations =>
    rw [pools, mem_erase] at poolMem
    exact (held pool poolMem.1 sliced).of_subset fun alloc allocMem => allocations ▸ allocMem
  | @upsertAllocation added pools allocations =>
    rw [pools] at poolMem
    -- Every tenant of the pool is the old one, or all of them are the one that was put.
    by_cases here : pool.name = added.pool
    · have found : world.store.pools.find? added.pool = some pool :=
        here ▸ find?_of_mem poolMem
      have only : ∀ alloc ∈ world'.store.allocationsOf pool.name,
          alloc.project = added.project := by
        intro alloc allocMem
        rcases Store.mem_allocationsOf_insert allocations allocMem with ⟨rfl, _⟩ | before
        · rfl
        · exact puts added rfl pool found sliced alloc (here ▸ before)
      intro first firstMem second secondMem
      rw [only first firstMem, only second secondMem]
    · exact (held pool poolMem sliced).of_insert allocations here
  | deleteAllocation pools allocations =>
    rw [pools] at poolMem
    refine (held pool poolMem sliced).of_subset ?_
    intro alloc allocMem
    rw [allocations, mem_erase] at allocMem
    exact allocMem.1

end Steps

section Runs

variable {platform : Platform Provider} {seed : PolicyConfig} {origin : World Provider}
  {trace earlier later : List (Step Call.Res (World Provider) PoolRequest)}
  {config : Config Call.Res (World Provider) PoolRequest}
  {acting : Step Call.Res (World Provider) PoolRequest} {alloc : AllocationSpec}

/-- What a put has read and nobody overtook holds when it writes. -/
theorem read_holds_at_put {front middle : List (Step Call.Res (World Provider) PoolRequest)}
    {reading : Step Call.Res (World Provider) PoolRequest}
    (run : (poolPlane platform seed).Run (.start origin)
      (front ++ reading :: (middle ++ acting :: later)) config)
    (calm : ∀ inner ∈ middle, inner.op.overtakes alloc = false) {fact : World Provider → Prop}
    (drifts : ∀ before after : World Provider, before.CatalogDrift after →
      fact before → fact after)
    (steps : ∀ {call : Call} {world world' : World Provider},
      PoolStep world.store world'.store call → call.overtakes alloc = false →
      fact world → fact world')
    (holds : fact reading.before) (same : reading.after = reading.before) :
    fact acting.before := by
  refine run.upToDate calm fact drifts ?_ (same ▸ holds)
  intro inner innerMem calm _ held
  exact steps (poolStep_of_mem run (by simp [innerMem])) calm held

/-- An allocation is put into a time-sliced pool only if its project is alone there. -/
theorem sole_tenant_at_put
    (run : (poolPlane platform seed).Run (.start origin) (earlier ++ acting :: later) config)
    (unraced : PutsUnraced (earlier ++ acting :: later))
    (putting : acting.op = .admin (.upsertAllocation alloc)) {pool : StoredPool}
    (found : acting.before.store.pools.find? alloc.pool = some pool)
    (sliced : effectiveGpuSharing pool.spec seed.gpuDefaultSharing = .timeSlice) :
    ∀ other ∈ acting.before.store.allocationsOf alloc.pool, other.project = alloc.project := by
  have puts : acting.op.allocationPut = some alloc := by rw [putting, Call.allocationPut]
  have unraced := unraced alloc (List.mem_filterMap.mpr ⟨acting, by simp, puts⟩)
  have answered (step : Step Call.Res (World Provider) PoolRequest) (stepMem : step ∈ earlier) :
      exec platform step.thread step.op step.before = some (step.answer, step.after) :=
    run.exec_of_mem (List.mem_append_left _ stepMem)
  have grounded := poolGrounded_step run rfl
  rw [putting] at grounded
  cases grounded with
  | quiet impossible => cases impossible
  | @upsertAllocation _ read existing _ past isolated =>
    rcases reading_of_own answered (fun _ _ => exec_getPool) past with
      ⟨front, getting, middle, rfl, mine, gets, same, got, rest⟩
    rw [List.append_assoc, List.cons_append] at run unraced
    have calm := unraced.window mine (by simp [gets, Call.readsPool])
      (by rw [rest]; simp [Call.readsPool]) (by simp [puts])
    have sameSpec : SpecOf alloc.pool read.spec acting.before := by
      refine read_holds_at_put run calm ?_ ?_ ?_ same
      · intro before after drifted same pool found
        exact same pool (drifted.find?_eq _ ▸ found)
      · intro call world world' step calm same
        exact same.step step calm
      · intro pool found
        simp [Except.ok.inj got] at found
        rw [found]
    -- The allocations were listed after the look at the pool.
    rcases reading_of_own (fun step (stepMem : step ∈ middle) => answered step (by simp [stepMem]))
      (fun _ _ => exec_listAllocations) (rest.trans (List.nil_append _).symm) with
      ⟨between, listing, after, rfl, _, _, same, listed, _⟩
    rw [List.append_assoc, List.cons_append, ← List.cons_append, ← List.append_assoc] at run
    have tenants : TenantsAmong alloc existing acting.before := by
      refine read_holds_at_put run (fun inner innerMem => calm inner (by simp [innerMem]))
        ?_ ?_ ?_ same
      · intro before after drifted among held heldMem
        exact among held (drifted.mem_allocationsOf.mp heldMem)
      · intro call world world' step calm among
        exact among.step step calm
      · intro other otherMem
        exact .inr ⟨other, Except.ok.inj listed ▸ otherMem, rfl⟩
    rw [sameSpec pool found] at sliced
    have alone := tenant_of_isolated isolated sliced
    intro other otherMem
    rcases tenants other otherMem with same | ⟨known, knownMem, same⟩
    · exact same
    · rw [← same]
      exact alone known knownMem

/--
No stored pool that resolves to time-slicing is shared, in every run in which no
put is overtaken and no such pool is created over the allocations of several
projects.
-/
theorem time_sliced_pools_unshared
    (run : (poolPlane platform seed).Run (.start origin) trace config)
    (empty : origin.store.pools.rows = []) (unraced : PutsUnraced trace)
    (creates : CreatesUnshared seed trace) :
    ∀ pool ∈ config.state.store.pools.rows,
      effectiveGpuSharing pool.spec seed.gpuDefaultSharing = .timeSlice →
      ∀ first ∈ config.state.store.allocationsOf pool.name,
        ∀ second ∈ config.state.store.allocationsOf pool.name,
          first.project = second.project := by
  refine run.preserves (Unshared seed) ?_ ?_ ?_
  · intro before after drifted held pool poolMem sliced
    have single := held pool (drifted.pools.mem_iff.mpr poolMem) sliced
    exact single.of_subset fun alloc allocMem => drifted.allocations.mem_iff.mpr allocMem
  · intro earlier step later split answered held
    have stepMem : step ∈ trace := by simp [split]
    subst split
    refine held.step (poolStep_of_mem run stepMem) (creates step stepMem) ?_
    intro alloc putting pool found sliced
    exact sole_tenant_at_put run unraced putting found sliced
  · intro pool poolMem
    have none : pool ∈ origin.store.pools.rows := poolMem
    rw [empty] at none
    cases none

end Runs

def administrator : Identity :=
  ⟨"root", none, [.admin], []⟩

def slicedPool : PoolSpec where
  name := "gpu"
  flavors := [⟨"a100", [("nvidia.com/gpu", "8")], [], []⟩]
  cohort := "main"
  fairSharingWeight := 1
  elastic := false
  gpuSharing := some .timeSlice

def emptyPut : PutAllocation :=
  ⟨none, none, "team", [], [], []⟩

def putInto (pool project : String) : PoolRequest :=
  .putAllocation (some administrator) pool project emptyPut

/-- The second put checks the pool before the first one has written. -/
def racingPuts : List (Move PoolRequest) :=
  inTurn [(.createPool (some administrator) slicedPool, 4)] ++
    [.spawn 1 (putInto "gpu" "a"), .call 1, .call 1, .spawn 2 (putInto "gpu" "b")] ++
    List.replicate 5 (.call 2) ++ [.call 1]

/-- The same put twice in a row, and one that is refused. -/
def orderlyPuts : List (Move PoolRequest) :=
  inTurn [(.createPool (some administrator) slicedPool, 4), (putInto "gpu" "a", 5),
    (putInto "gpu" "a", 5), (putInto "gpu" "b", 4)]

def afterPuts (schedule : List (Move PoolRequest)) :
    Option (Progress Call.Res (World DemoClusters) PoolRequest) :=
  (poolPlane demoPlatform noPolicy).execute (fun _ => true) schedule (demoWorld .empty)

theorem time_sliced_pools_unshared_in_turn :
    ∃ progress, afterPuts orderlyPuts = some progress ∧
      ∀ pool ∈ progress.config.state.store.pools.rows,
        effectiveGpuSharing pool.spec noPolicy.gpuDefaultSharing = .timeSlice →
        ∀ first ∈ progress.config.state.store.allocationsOf pool.name,
          ∀ second ∈ progress.config.state.store.allocationsOf pool.name,
            first.project = second.project := by
  have outcome : ∃ progress, afterPuts orderlyPuts = some progress ∧
      PutsUnraced progress.trace ∧ CreatesUnshared noPolicy progress.trace :=
    Fallible.exists_of_checked (by decide +kernel)
  rcases outcome with ⟨progress, executed, unraced, unshared⟩
  have run := System.execute_run (fun _ _ _ => trivial) executed
  exact ⟨progress, executed, time_sliced_pools_unshared run rfl unraced unshared⟩

/-- Both projects end up in the time-sliced pool. -/
theorem racing_puts_share_pool :
    ∃ progress, afterPuts racingPuts = some progress ∧
      ∃ pool ∈ progress.config.state.store.pools.rows,
        effectiveGpuSharing pool.spec noPolicy.gpuDefaultSharing = .timeSlice ∧
        ∃ first ∈ progress.config.state.store.allocationsOf pool.name,
          ∃ second ∈ progress.config.state.store.allocationsOf pool.name,
            first.project ≠ second.project := by
  apply Fallible.exists_of_checked
  decide +kernel

end Mobula
