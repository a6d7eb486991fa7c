import Mobula.Api.PoolIsolation

/-!
# Allocations and the pools they name

Deleting a pool leaves its allocations behind, and a pool that is created later under the same
name inherits them.
-/

namespace Mobula

open Foundation Table

variable {Provider : Type}

def Store.Anchored (store : Store) : Prop :=
  ∀ alloc ∈ store.allocations.rows, ∃ pool, store.pools.find? alloc.pool = some pool

/-- The request deletes a pool that still has allocations. -/
def PoolRequest.deletesOccupied (store : Store) : PoolRequest → Bool
  | .deletePool identity name =>
    mayPool identity .delete && (store.pools.find? name).isSome &&
      !(store.allocationsOf name).isEmpty
  | _ => false

def PoolRequest.putsInto (pool : String) : PoolRequest → Bool
  | .putAllocation _ name _ _ => name = pool
  | _ => false

def createsPool (name : String) (turn : Turn (World Provider) PoolRequest) : Bool :=
  match turn.role with
  | .createPool _ spec =>
    spec.name = name && (turn.before.store.pools.find? name).isNone &&
      (turn.after.store.pools.find? name).isSome
  | _ => false

variable {name : String} {seed : PolicyConfig}

section Creation

variable {turn : Turn (World Provider) PoolRequest}

theorem absent_of_createsPool (created : createsPool name turn = true) :
    turn.before.store.pools.find? name = none := by
  unfold createsPool at created
  split at created
  · simp at created
    exact created.1.2
  · cases created

theorem not_putsInto_of_createsPool (created : createsPool name turn = true) {pool : String} :
    turn.role.putsInto pool = false := by
  unfold createsPool at created
  split at created
  · next creating =>
      rw [creating]
      rfl
  · cases created

end Creation

section Turns

variable {platform : Platform Provider} {request : PoolRequest} {before after : World Provider}

theorem Store.Anchored.does {catalog : Catalog} {store store' : Store} (anchored : store.Anchored)
    (does : request.Does seed store catalog) (settled : store'.catalog = catalog)
    (emptied : request.deletesOccupied store = false) : store'.Anchored := by
  have pools : store'.pools = catalog.pools := congrArg Catalog.pools settled
  have allocations : store'.allocations = catalog.allocations :=
    congrArg Catalog.allocations settled
  intro alloc allocMem
  rw [allocations] at allocMem
  rw [pools]
  cases does with
  | nothing => exact anchored alloc allocMem
  | @creates _ spec stamp _ _ absent =>
    rcases anchored alloc allocMem with ⟨pool, found⟩
    simp only [find?_insert]
    split
    · exact ⟨_, rfl⟩
    · exact ⟨pool, found⟩
  | @removes _ name _ permitted found =>
    rcases anchored alloc allocMem with ⟨pool, anchor⟩
    -- The pool that goes away has no allocation, so it is not the one this one names.
    have elsewhere : alloc.pool ≠ name := by
      rintro rfl
      have inside : alloc ∈ store.allocationsOf alloc.pool :=
        Store.mem_allocationsOf.mpr ⟨allocMem, rfl⟩
      have vacant : store.allocationsOf alloc.pool = [] := by
        simpa [PoolRequest.deletesOccupied, permitted, found] using emptied
      rw [vacant] at inside
      cases inside
    simp only [find?_erase, if_neg elsewhere]
    exact ⟨pool, anchor⟩
  | @puts _ name project body pool _ _ found =>
    rcases mem_insert.mp allocMem with rfl | ⟨stored, _⟩
    · exact ⟨pool, found⟩
    · exact anchored alloc stored
  | frees => exact anchored alloc (mem_erase.mp allocMem).1

/-- Only a put into a pool adds to its allocations. -/
theorem allocationsOf_eq_nil_of_does {catalog : Catalog} {store store' : Store}
    (vacant : store.allocationsOf name = []) (does : request.Does seed store catalog)
    (settled : store'.catalog = catalog) (elsewhere : request.putsInto name = false) :
    store'.allocationsOf name = [] := by
  have allocations : store'.allocations = catalog.allocations :=
    congrArg Catalog.allocations settled
  have none (alloc : AllocationSpec) (stored : alloc ∈ store.allocations.rows) :
      alloc.pool ≠ name := by
    intro inside
    have allocMem := Store.mem_allocationsOf.mpr ⟨stored, inside⟩
    rw [vacant] at allocMem
    cases allocMem
  rw [List.eq_nil_iff_forall_not_mem]
  intro alloc allocMem
  rw [Store.mem_allocationsOf, allocations] at allocMem
  cases does with
  | nothing => exact none alloc allocMem.1 allocMem.2
  | creates => exact none alloc allocMem.1 allocMem.2
  | removes => exact none alloc allocMem.1 allocMem.2
  | puts =>
    rcases mem_insert.mp allocMem.1 with rfl | ⟨stored, _⟩
    · simp [PoolRequest.putsInto] at elsewhere
      exact elsewhere allocMem.2
    · exact none alloc stored allocMem.2
  | frees => exact none alloc (mem_erase.mp allocMem.1).1 allocMem.2

end Turns

section Runs

variable {platform : Platform Provider} {origin final : World Provider}
  {turns : List (Turn (World Provider) PoolRequest)}

theorem Store.Anchored.drift {before after : World Provider} (drifted : before.CatalogDrift after)
    (anchored : before.store.Anchored) : after.store.Anchored := by
  intro alloc allocMem
  rcases anchored alloc (drifted.allocations.mem_iff.mpr allocMem) with ⟨pool, found⟩
  exact ⟨pool, (drifted.find?_eq _).trans found⟩

theorem does_of_turn {turn : Turn (World Provider) PoolRequest}
    (ran : (turn.role.program seed).Yields (exec platform 0) turn.before () turn.after) :
    ∃ catalog, turn.role.Does seed turn.before.store catalog ∧
      turn.after.store.catalog = catalog := by
  rcases PoolRequest.does_of_ran ran with ⟨catalog, does, quiet⟩
  exact ⟨catalog, does, quiet.catalog_eq⟩

theorem vacant_until_put (serial : (serialPools platform seed).Serial origin turns final)
    (vacant : origin.store.allocationsOf name = [])
    (elsewhere : ∀ turn ∈ turns, turn.role.putsInto name = false) :
    final.store.allocationsOf name = [] := by
  refine (serial.preserves (fun world => world.store.allocationsOf name = []) ?_ ?_ vacant).1
  · intro before after drifted held
    rw [List.eq_nil_iff_forall_not_mem] at held ⊢
    intro alloc allocMem
    exact held alloc (drifted.mem_allocationsOf.mp allocMem)
  · intro turn turnMem ran held
    rcases does_of_turn ran with ⟨catalog, does, settled⟩
    exact allocationsOf_eq_nil_of_does held does settled (elsewhere turn turnMem)

/--
Every allocation names a stored pool, and a created pool has no allocation until
one is put into it, in every sequential run in which no pool is deleted that
still has allocations.
-/
theorem allocations_anchored
    (serial : (serialPools platform seed).Serial origin turns final)
    (empty : origin.store.allocations.rows = [])
    (emptied : ∀ turn ∈ turns, turn.role.deletesOccupied turn.before.store = false) :
    (∀ alloc ∈ final.store.allocations.rows,
        ∃ pool, final.store.pools.find? alloc.pool = some pool) ∧
      ∀ earlier turn later name, turns = earlier ++ turn :: later →
        createsPool name turn = true →
        (∀ next ∈ later, next.role.putsInto name = false) →
        final.store.allocationsOf name = [] := by
  have always : final.store.Anchored ∧
      ∀ turn ∈ turns, turn.before.store.Anchored ∧ turn.after.store.Anchored := by
    refine serial.preserves (fun world => world.store.Anchored) ?_ ?_ ?_
    · intro before after drifted anchored
      exact anchored.drift drifted
    · intro turn turnMem ran anchored
      rcases does_of_turn ran with ⟨catalog, does, settled⟩
      exact anchored.does does settled (emptied turn turnMem)
    · intro alloc allocMem
      rw [empty] at allocMem
      cases allocMem
  refine ⟨always.1, ?_⟩
  rintro earlier turn later name rfl created elsewhere
  have turnMem : turn ∈ earlier ++ turn :: later := by simp
  have absent : turn.before.store.pools.find? name = none := absent_of_createsPool created
  -- Before the creation no allocation could name the pool.
  have vacant : turn.before.store.allocationsOf name = [] := by
    rw [List.eq_nil_iff_forall_not_mem]
    intro alloc allocMem
    rw [Store.mem_allocationsOf] at allocMem
    rcases (always.2 turn turnMem).1 alloc allocMem.1 with ⟨pool, found⟩
    rw [allocMem.2, absent] at found
    cases found
  rcases does_of_turn (serial.ran_of_mem turnMem) with ⟨catalog, does, settled⟩
  have stillVacant : turn.after.store.allocationsOf name = [] :=
    allocationsOf_eq_nil_of_does vacant does settled (not_putsInto_of_createsPool created)
  exact vacant_until_put serial.after_turn stillVacant elsewhere

end Runs

/-- A pool is created, given a tenant, deleted and created anew. -/
def recreateOccupied : List PoolRequest :=
  [.createPool (some administrator) slicedPool, putInto "gpu" "a",
    .deletePool (some administrator) "gpu", .createPool (some administrator) slicedPool]

def recreateEmptied : List PoolRequest :=
  [.createPool (some administrator) slicedPool, putInto "gpu" "a",
    .deleteAllocation (some administrator) "gpu" "a", .deletePool (some administrator) "gpu",
    .createPool (some administrator) slicedPool]

def afterPoolRequests (requests : List PoolRequest) :
    Option (List (Turn (World DemoClusters) PoolRequest) × World DemoClusters) :=
  (serialPools demoPlatform noPolicy).trackAll requests (demoWorld .empty)

theorem allocations_anchored_when_emptied :
    ∃ turns final, afterPoolRequests recreateEmptied = some (turns, final) ∧
      (∀ alloc ∈ final.store.allocations.rows,
        ∃ pool, final.store.pools.find? alloc.pool = some pool) ∧
      ∀ earlier turn later name, turns = earlier ++ turn :: later →
        createsPool name turn = true →
        (∀ next ∈ later, next.role.putsInto name = false) →
        final.store.allocationsOf name = [] := by
  have outcome : ∃ turns final, afterPoolRequests recreateEmptied = some (turns, final) ∧
      ∀ turn ∈ turns, turn.role.deletesOccupied turn.before.store = false :=
    Fallible.exists_pair_of_checked (by decide +kernel)
  rcases outcome with ⟨turns, final, tracked, emptied⟩
  exact ⟨turns, final, tracked, allocations_anchored (SerialSystem.serial_of_trackAll tracked) rfl
    emptied⟩

/-- An allocation outlives its pool, and a new pool inherits it. -/
theorem recreated_pool_inherits_allocations :
    (∃ turns final, afterPoolRequests (recreateOccupied.take 3) = some (turns, final) ∧
      ∃ alloc ∈ final.store.allocations.rows, final.store.pools.find? alloc.pool = none) ∧
    ∃ turns final, afterPoolRequests recreateOccupied = some (turns, final) ∧
      turns.getLast?.any (createsPool "gpu") = true ∧ final.store.allocationsOf "gpu" ≠ [] := by
  refine ⟨?_, ?_⟩
  · apply Fallible.exists_pair_of_checked
    decide +kernel
  · apply Fallible.exists_pair_of_checked
    decide +kernel

end Mobula
