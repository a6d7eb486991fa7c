import Mobula.Controller.IntentKeys
import Mobula.Foundation.Log
import Mobula.Foundation.Triples
import Mobula.Provision.Kueue
import Mathlib.Data.String.Basic

/-!
# What an applied pool intent says

A pass skips a pool when the outbox holds an applied intent for its generation and desired
state. The intent says that this state was applied once, not that it was applied last: a pool
that returns to an earlier set of allocations, or that is deleted and created again, finds its
old intent and is reported as converged.
-/

namespace Mobula

open Foundation List Table Prog Prog.Ensures

theorem colon_notMem_toDigits {n : ℕ} : ':' ∉ Nat.toDigits 16 n := by
  induction n using Nat.strongRecOn with
  | ind n ih =>
    have digit (d : ℕ) (small : d < 16) : ':' ≠ Nat.digitChar d := by
      revert d
      decide
    rcases Nat.lt_or_ge n 16 with small | large
    · rw [Nat.toDigits_of_lt_base small, mem_singleton]
      exact digit n small
    · rw [Nat.toDigits_of_base_le (by decide) large, mem_append, mem_singleton]
      rintro (colon | colon)
      · exact ih (n / 16) (Nat.div_lt_self (by omega) (by decide)) colon
      · exact digit (n % 16) (Nat.mod_lt n (by decide)) colon

theorem colon_notMem_digest {text : String} : ':' ∉ (digest text).toList := by
  simp [digest, colon_notMem_toDigits]

theorem poolIntentKey_toList {pool : StoredPool} {fingerprint : String} :
    (poolIntentKey pool fingerprint).toList =
      (("pool:" ++ pool.name).toList ++ '/' :: Nat.toDigits 10 pool.generation) ++
        ':' :: (digest fingerprint).toList := by
  simp [poolIntentKey]

/-- A key names one pool, whatever characters the names contain. -/
theorem name_eq_of_poolIntentKey {pool other : StoredPool} {fingerprint fingerprint' : String}
    (same : poolIntentKey pool fingerprint = poolIntentKey other fingerprint') :
    pool.name = other.name := by
  have chars := congrArg (fun key : String => key.toList.reverse) same
  simp only [poolIntentKey_toList, reverse_append, reverse_cons, append_assoc,
    cons_append, nil_append] at chars
  have digests := eq_of_append_separator (by simpa using colon_notMem_digest)
    (by simpa using colon_notMem_digest) chars
  have names := eq_of_append_separator (by simpa using slash_notMem_toDigits)
    (by simpa using slash_notMem_toDigits) digests.2
  have prefixed := reverse_injective names.2
  simpa [String.toList_inj] using prefixed

theorem desiredFingerprint_perm {weightText : ℚ → Numeral} {spec : PoolSpec}
    {allocations others : List AllocationSpec} (distinct : (allocations.map (·.project)).Nodup)
    (same : allocations.Perm others) :
    desiredFingerprint weightText spec allocations = desiredFingerprint weightText spec others := by
  have sorted := Log.sorted_perm distinct same
  simp only [Log.sorted] at sorted
  simp only [desiredFingerprint, sorted]

variable {Provider : Type}

/-- What a call to the provider says about the objects of a pool. -/
inductive PoolMark where
  | applied (spec : PoolSpec) (allocations : List AllocationSpec)
  | deleted

def poolMark (name : String) : Event Call.Res → Option PoolMark
  | ⟨.pool (.applyPool spec allocations), _⟩ =>
    if spec.name = name then some (.applied spec allocations) else none
  | ⟨.pool (.deletePool wanted), _⟩ => if wanted = name then some .deleted else none
  | _ => none

/-- The desired state of a pool is the one that was applied last. -/
def ConvergedAt (name : String) (past : EventLog) (world : World Provider) : Prop :=
  ∃ pool allocations, world.store.pools.find? name = some pool ∧
    latest (poolMark name) past = some (.applied pool.spec allocations) ∧
    allocations.Perm (world.store.allocationsOf name)

/-- The outbox holds an applied intent for the desired state of a pool. -/
def AppliedAlready (weightText : ℚ → Numeral) (pool : StoredPool) (world : World Provider) :
    Prop :=
  let fingerprint :=
    desiredFingerprint weightText pool.spec (world.store.allocationsOf pool.name)
  (world.store.intents.find? (poolIntentKey pool fingerprint)).any (fun intent =>
    intent.status = .applied && intent.paramsFingerprint = fingerprint) = true

instance (weightText : ℚ → Numeral) (pool : StoredPool) (world : World Provider) :
    Decidable (AppliedAlready weightText pool world) :=
  inferInstanceAs (Decidable (_ = true))

theorem appliedAlready_iff {weightText : ℚ → Numeral} {pool : StoredPool}
    {world : World Provider} {fingerprint : String}
    (fingerprintEq : desiredFingerprint weightText pool.spec
      (world.store.allocationsOf pool.name) = fingerprint) :
    AppliedAlready weightText pool world ↔
      ∃ record, world.store.intents.find? (poolIntentKey pool fingerprint) = some record ∧
        record.status = .applied ∧ record.paramsFingerprint = fingerprint := by
  rw [AppliedAlready, fingerprintEq]
  rcases world.store.intents.find? (poolIntentKey pool fingerprint) with _ | record <;> simp

/-- What the outbox says about a pool is true. -/
def TruthfulAt (weightText : ℚ → Numeral) (name : String) (past : EventLog)
    (world : World Provider) : Prop :=
  ∀ pool, world.store.pools.find? name = some pool → AppliedAlready weightText pool world →
    ConvergedAt name past world

/-- Others leave the pools alone and mark no intent as applied. -/
structure QuietCatalog (before seen : World Provider) : Prop where
  pools : seen.store.pools = before.store.pools
  allocations : seen.store.allocations = before.store.allocations
  quarantined : seen.store.quarantined = before.store.quarantined
  intents : ∀ key record, seen.store.intents.find? key = some record →
    record.status = .applied → before.store.intents.find? key = some record

theorem QuietCatalog.refl (world : World Provider) : QuietCatalog world world :=
  ⟨rfl, rfl, rfl, fun _ _ found _ => found⟩

/-- Two worlds in which a pool is wanted alike. -/
structure SameWish (name : String) (before after : World Provider) : Prop where
  pool : (after.store.pools.find? name).map StoredPool.wanted =
    (before.store.pools.find? name).map StoredPool.wanted
  allocations : (after.store.allocationsOf name).Perm (before.store.allocationsOf name)

variable {name : String} {thread : ℕ} {call : Call} {answer : call.Res}
  {past : EventLog} {weightText : ℚ → Numeral} {listed : Option (PoolSpec × ℕ)}
  {pool : StoredPool} {allocations : List AllocationSpec}

section

variable {before after : World Provider} (same : SameWish name before after)

include same

theorem SameWish.stored (found : after.store.pools.find? name = some pool) :
    ∃ old, before.store.pools.find? name = some old ∧ old.name = pool.name ∧
      old.spec = pool.spec ∧ old.generation = pool.generation := by
  have wanted := same.pool
  rw [found, Option.map_some, eq_comm, Option.map_eq_some_iff] at wanted
  rcases wanted with ⟨old, oldFound, equal⟩
  simp [StoredPool.wanted] at equal
  exact ⟨old, oldFound, (key_of_find? oldFound).trans (key_of_find? found).symm, equal.1, equal.2⟩

theorem SameWish.symm : SameWish name after before :=
  ⟨same.pool.symm, same.allocations.symm⟩

end

theorem ConvergedAt.transport {later : EventLog} {before after : World Provider}
    (converged : ConvergedAt name past before) (same : SameWish name before after)
    (unmarked : latest (poolMark name) later = latest (poolMark name) past) :
    ConvergedAt name later after := by
  rcases converged with ⟨pool, allocations, found, applied, listed⟩
  rcases same.symm.stored found with ⟨current, currentFound, _, specEq, _⟩
  refine ⟨current, allocations, currentFound, ?_, listed.trans same.allocations.symm⟩
  rw [unmarked, applied, specEq]

theorem AppliedAlready.before {before after : World Provider} {old : StoredPool}
    (applied : AppliedAlready weightText pool after) (same : SameWish name before after)
    (poolName : pool.name = name) (sameName : old.name = pool.name)
    (sameSpec : old.spec = pool.spec) (sameGeneration : old.generation = pool.generation)
    (intents : ∀ fingerprint record,
      after.store.intents.find? (poolIntentKey pool fingerprint) = some record →
      record.status = .applied →
      before.store.intents.find? (poolIntentKey pool fingerprint) = some record) :
    AppliedAlready weightText old before := by
  have fingerprints : desiredFingerprint weightText old.spec (before.store.allocationsOf old.name) =
      desiredFingerprint weightText pool.spec (after.store.allocationsOf pool.name) := by
    rw [sameSpec, sameName, poolName]
    exact desiredFingerprint_perm (before.store.nodup_allocationsOf name) same.allocations.symm
  have keys (fingerprint : String) :
      poolIntentKey old fingerprint = poolIntentKey pool fingerprint := by
    rw [poolIntentKey, poolIntentKey, sameName, sameGeneration]
  rcases (appliedAlready_iff rfl).mp applied with ⟨record, found, status, params⟩
  refine (appliedAlready_iff fingerprints).mpr ⟨record, ?_, status, params⟩
  rw [keys]
  exact intents _ record found status

theorem TruthfulAt.transport {later : EventLog} {before after : World Provider}
    (truthful : TruthfulAt weightText name past before) (same : SameWish name before after)
    (unmarked : latest (poolMark name) later = latest (poolMark name) past)
    (intents : ∀ pool fingerprint record, pool.name = name →
      after.store.intents.find? (poolIntentKey pool fingerprint) = some record →
      record.status = .applied →
      before.store.intents.find? (poolIntentKey pool fingerprint) = some record) :
    TruthfulAt weightText name later after := by
  intro pool found applied
  rcases same.stored found with ⟨old, oldFound, sameName, sameSpec, sameGeneration⟩
  have poolName := key_of_find? found
  have appliedBefore := applied.before same poolName sameName sameSpec sameGeneration
    fun fingerprint record => intents pool fingerprint record poolName
  exact (truthful old oldFound appliedBefore).transport same unmarked

structure SparesPool (name : String) (call : Call) : Prop where
  catalog : call.keepsCatalog = true
  unmarked : ∀ answer, poolMark name ⟨call, answer⟩ = none
  incomplete : ∀ pool fingerprint response, pool.name = name →
    call ≠ .outbox (.completeIntent (poolIntentKey pool fingerprint) response)

/-- The pass reports the pool as it should be. -/
def ReportsConverged (result : ReconcileResult PoolAction) : Prop :=
  result = .ok .noOp ∨ result = .ok .applied

/-- Where a pass stands with a pool that was listed, or was not. -/
structure PoolStanding (weightText : ℚ → Numeral) (name : String) (listed : Option (PoolSpec × ℕ))
    (past : EventLog) (world : World Provider) : Prop where
  unfenced : world.store.quarantined = false
  listed : (world.store.pools.find? name).map StoredPool.wanted = listed
  truthful : TruthfulAt weightText name past world

/-- Where a pass stands after it dealt with a pool. -/
structure Surveyed (weightText : ℚ → Numeral) (name : String) (listed : Option (PoolSpec × ℕ))
    (report : PoolReport) (past : EventLog) (world : World Provider) : Prop
    extends PoolStanding weightText name listed past world where
  converged : ∀ result, (name, result) ∈ report → ReportsConverged result →
    ConvergedAt name past world

/-- Where a pass stands with a pool whose allocations it read. -/
structure Facing (weightText : ℚ → Numeral) (pool : StoredPool) (allocations : List AllocationSpec)
    (past : EventLog) (world : World Provider) : Prop
    extends PoolStanding weightText pool.name (some pool.wanted) past world where
  allocations : world.store.allocationsOf pool.name = allocations

/-- Where a pass stands with a pool that it has just applied, or found applied. -/
structure Converging (pool : StoredPool) (past : EventLog) (world : World Provider) :
    Prop where
  unfenced : world.store.quarantined = false
  listed : (world.store.pools.find? pool.name).map StoredPool.wanted = some pool.wanted
  converged : ConvergedAt pool.name past world

/-- Where a pass may start: no quarantine, and pools stored under the names of their specs. -/
structure Ready (weightText : ℚ → Numeral) (name : String) (past : EventLog)
    (world : World Provider) : Prop where
  unfenced : world.store.quarantined = false
  named : ∀ pool ∈ world.store.pools.rows, pool.spec.name = pool.name
  truthful : TruthfulAt weightText name past world

section Calls

variable {platform : Platform Provider} {world seen after : World Provider} {report : PoolReport}

theorem sparesPool_of_passive (passive : call.passive = true) : SparesPool name call := by
  cases call with
  | row call => exact ⟨rfl, fun _ => rfl, by simp⟩
  | control call => exact ⟨rfl, fun _ => rfl, by simp⟩
  | process call => exact ⟨rfl, fun _ => rfl, by simp⟩
  | _ => cases passive

theorem PoolObserveCall.spares (made : PoolObserveCall pool call) : SparesPool name call := by
  cases made <;> exact ⟨rfl, fun _ => rfl, by simp⟩

theorem PoolRowCall.spares (made : PoolRowCall pool call)
    (differs : pool.name ≠ name) (named : pool.spec.name = pool.name) : SparesPool name call := by
  cases made with
  | observe made => exact made.spares
  | completeIntent fingerprint response =>
    refine ⟨rfl, fun _ => rfl, ?_⟩
    intro other fingerprint' response' otherName same
    simp only [Call.outbox.injEq, OutboxCall.completeIntent.injEq] at same
    exact differs ((name_eq_of_poolIntentKey same.1).trans otherName)
  | applyPool allocations =>
    refine ⟨rfl, fun _ => if_neg ?_, by simp⟩
    rw [named]
    exact differs
  | _ => exact ⟨rfl, fun _ => rfl, by simp⟩

variable (quiet : QuietCatalog world seen)
  (answered : exec platform thread call seen = some (answer, after))

include quiet answered

theorem sameWish_exec
    (keeps : call.keepsCatalog = true) (name : String) : SameWish name world after where
  pool := by rw [pools_exec answered keeps, quiet.pools]
  allocations := by
    rw [Store.allocationsOf, Store.allocationsOf, allocations_exec answered keeps,
      quiet.allocations]

theorem ConvergedAt.exec (converged : ConvergedAt name past world)
    (keeps : call.keepsCatalog = true) (unmarked : poolMark name ⟨call, answer⟩ = none) :
    ConvergedAt name (past ++ [⟨call, answer⟩]) after := by
  refine converged.transport (sameWish_exec quiet answered keeps name) ?_
  simp [latest_snoc, unmarked]

theorem TruthfulAt.exec (truthful : TruthfulAt weightText name past world)
    (spares : SparesPool name call) :
    TruthfulAt weightText name (past ++ [⟨call, answer⟩]) after := by
  refine truthful.transport (sameWish_exec quiet answered spares.catalog name) ?_ ?_
  · simp [latest_snoc, spares.unmarked]
  · intro pool fingerprint record poolName found applied
    rw [intents_exec answered] at found
    exact quiet.intents _ record (applied_of_intentsAfter found applied fun response =>
        spares.incomplete pool fingerprint response poolName) applied

theorem PoolStanding.exec (standing : PoolStanding weightText name listed past world)
    (spares : SparesPool name call) :
    PoolStanding weightText name listed (past ++ [⟨call, answer⟩]) after where
  unfenced := by
    rw [quarantined_exec answered spares.catalog, quiet.quarantined, standing.unfenced]
  listed := by rw [pools_exec answered spares.catalog, quiet.pools, standing.listed]
  truthful := standing.truthful.exec quiet answered spares

theorem Surveyed.exec (surveyed : Surveyed weightText name listed report past world)
    (spares : SparesPool name call) :
    Surveyed weightText name listed report (past ++ [⟨call, answer⟩]) after where
  toPoolStanding := surveyed.toPoolStanding.exec quiet answered spares
  converged := fun result reported converges =>
    (surveyed.converged result reported converges).exec quiet answered spares.catalog
      (spares.unmarked answer)

theorem Facing.exec (facing : Facing weightText pool allocations past world)
    (spares : SparesPool pool.name call) :
    Facing weightText pool allocations (past ++ [⟨call, answer⟩]) after where
  toPoolStanding := facing.toPoolStanding.exec quiet answered spares
  allocations := by
    rw [← facing.allocations, Store.allocationsOf, Store.allocationsOf,
      allocations_exec answered spares.catalog, quiet.allocations]

theorem Converging.exec (converging : Converging pool past world)
    (keeps : call.keepsCatalog = true) (unmarked : poolMark pool.name ⟨call, answer⟩ = none) :
    Converging pool (past ++ [⟨call, answer⟩]) after where
  unfenced := by rw [quarantined_exec answered keeps, quiet.quarantined, converging.unfenced]
  listed := by rw [pools_exec answered keeps, quiet.pools, converging.listed]
  converged := converging.converged.exec quiet answered keeps unmarked

theorem surveyed_exec_unlisted (surveyed : Surveyed weightText name none report past world)
    (keeps : call.keepsCatalog = true) :
    Surveyed weightText name none report (past ++ [⟨call, answer⟩]) after := by
  have listed : (after.store.pools.find? name).map StoredPool.wanted = none := by
    rw [pools_exec answered keeps, quiet.pools, surveyed.listed]
  refine ⟨⟨?_, listed, ?_⟩, ?_⟩
  · rw [quarantined_exec answered keeps, quiet.quarantined, surveyed.unfenced]
  · intro pool found
    rw [found] at listed
    cases listed
  · intro result reported converges
    rcases surveyed.converged result reported converges with ⟨pool, _, found, _⟩
    have impossible := surveyed.listed
    rw [found] at impossible
    cases impossible

theorem named_exec (named : ∀ pool ∈ world.store.pools.rows, pool.spec.name = pool.name)
    (keeps : call.keepsCatalog = true) :
    ∀ pool ∈ after.store.pools.rows, pool.spec.name = pool.name := by
  intro pool poolMem
  rcases (sameWish_exec quiet answered keeps pool.name).stored (find?_of_mem poolMem) with
    ⟨old, found, sameName, sameSpec, _⟩
  rw [← sameSpec, ← sameName]
  exact named old (mem_of_find? found)

theorem Ready.exec (ready : Ready weightText name past world)
    (spares : SparesPool name call) : Ready weightText name (past ++ [⟨call, answer⟩]) after where
  unfenced := by rw [quarantined_exec answered spares.catalog, quiet.quarantined, ready.unfenced]
  named := named_exec quiet answered ready.named spares.catalog
  truthful := ready.truthful.exec quiet answered spares

end Calls

section Pass

variable {platform : Platform Provider}

theorem keepsSurveyed {α : Type} {program : Program α} (spares : program.Within (SparesPool name))
    (report : PoolReport) : program.Ensures (exec platform thread) QuietCatalog
      (Surveyed weightText name listed report) fun _ => Surveyed weightText name listed report :=
  spares.ensures fun permitted surveyed quiet answered =>
    surveyed.exec quiet answered permitted

section

variable {world : World Provider} (standing : PoolStanding weightText name listed past world)

include standing

theorem PoolStanding.surveyed : Surveyed weightText name listed [] past world :=
  ⟨standing, by simp⟩

theorem PoolStanding.surveyed_of_not {result : ReconcileResult PoolAction}
    (fails : ¬ReportsConverged result) :
    Surveyed weightText name listed [(name, result)] past world := by
  refine ⟨standing, ?_⟩
  intro other reported converges
  rw [mem_singleton, Prod.mk.injEq] at reported
  rw [reported.2] at converges
  exact absurd converges fails

end

theorem not_reportsConverged_error {failure : ReconcileError} :
    ¬ReportsConverged (.error failure) := by
  rintro (impossible | impossible) <;> cases impossible

end Pass

section Rule

variable {S : Type} {exec : (call : Call) → S → Option (call.Res × S)} {interferes : S → S → Prop}

/--
What an actuation ensures follows from what its calls ensure: of the allocations
`read`, of an apply that succeeded `applied`, of an intent found or made applied `settled`.
-/
theorem actuatePool_ensures {pre : Prog.Assertion Call.Res S}
    (read fresh applied : List AllocationSpec → Prog.Assertion Call.Res S)
    (settled : PoolAction → Prog.Assertion Call.Res S)
    {post : ReconcileResult PoolAction → Prog.Assertion Call.Res S}
    (lists : (Calls.listAllocations pool.name).Ensures exec interferes pre fun answer =>
      match answer with
      | .error failure => post (.error (.store failure))
      | .ok allocations => read allocations)
    (looks : ∀ allocations, (Calls.getIntent (poolIntentKey pool
        (desiredFingerprint weightText pool.spec allocations))).Ensures exec interferes
      (read allocations) fun answer => match answer with
      | .error failure => post (.error (.store failure))
      | .ok record =>
        if record.any fun intent => intent.status = .applied &&
            intent.paramsFingerprint = desiredFingerprint weightText pool.spec allocations then
          settled .noOp
        else fresh allocations)
    (begins : ∀ allocations, (Calls.beginIntent (poolIntentKey pool
        (desiredFingerprint weightText pool.spec allocations))
        (desiredFingerprint weightText pool.spec allocations)).Ensures exec interferes
      (fresh allocations) fun answer => match answer with
      | .error failure => post (.error (.store failure))
      | .ok .paramMismatch => post (.error (.staleIntent (poolIntentKey pool
          (desiredFingerprint weightText pool.spec allocations))))
      | .ok (.proceed _) => fresh allocations)
    (applies : ∀ allocations, (Calls.applyPool pool.spec allocations).Ensures exec interferes
      (fresh allocations) fun answer => match answer with
      | .error failure => post (.error (.provision failure))
      | .ok () => applied allocations)
    (completes : ∀ allocations, (Calls.completeIntent (poolIntentKey pool
        (desiredFingerprint weightText pool.spec allocations)) "\x7b\x7d").Ensures exec interferes
      (applied allocations) fun answer => match answer with
      | .error failure => post (.error (.store failure))
      | .ok () => settled .applied)
    (remembers : ∀ action, (Calls.convergedInsert pool.name).Ensures exec interferes
      (settled action) fun _ => post (.ok action)) :
    (actuatePool weightText pool).Ensures exec interferes pre post := by
  refine lists.bind fun listed => ?_
  rcases listed with failure | allocations
  · exact .ret
  refine (looks allocations).bind fun found => ?_
  rcases found with failure | record
  · exact .ret
  simp only
  split
  · exact (remembers .noOp).bind fun _ => .ret
  · refine (begins allocations).bind fun begun => ?_
    rcases begun with failure | _ | _
    · exact .ret
    · refine (applies allocations).bind fun answer => ?_
      rcases answer with failure | done
      · exact .ret
      refine (completes allocations).bind fun completed => ?_
      rcases completed with failure | done
      · exact .ret
      exact (remembers .applied).bind fun _ => .ret
    · exact .ret

end Rule

section Row

variable {platform : Platform Provider} {world seen after : World Provider}

theorem Converging.surveyed (converging : Converging pool past world) (report : PoolReport) :
    Surveyed weightText pool.name (some pool.wanted) report past world where
  unfenced := converging.unfenced
  listed := converging.listed
  truthful := fun _ _ _ => converging.converged
  converged := fun _ _ _ => converging.converged

theorem row_of_listed
    (listed : (world.store.pools.find? pool.name).map StoredPool.wanted = some pool.wanted) :
    ∃ row, world.store.pools.find? pool.name = some row ∧ row.name = pool.name ∧
      row.spec = pool.spec ∧ row.generation = pool.generation := by
  simp at listed
  rcases listed with ⟨row, found, equal⟩
  simp [StoredPool.wanted] at equal
  exact ⟨row, found, key_of_find? found, equal.1, equal.2⟩

theorem Facing.converging (facing : Facing weightText pool allocations past world)
    (applied : (world.store.intents.find? (poolIntentKey pool
      (desiredFingerprint weightText pool.spec allocations))).any (fun intent =>
        intent.status = .applied &&
          intent.paramsFingerprint = desiredFingerprint weightText pool.spec allocations) = true) :
    Converging pool past world := by
  refine ⟨facing.unfenced, facing.listed, ?_⟩
  rcases row_of_listed facing.listed with ⟨row, found, sameName, sameSpec, sameGeneration⟩
  refine facing.truthful row found ?_
  rw [AppliedAlready, poolIntentKey, sameName, sameGeneration, sameSpec, facing.allocations,
    ← poolIntentKey]
  exact applied

theorem converging_of_applyPool (facing : Facing weightText pool allocations past world)
    (named : pool.spec.name = pool.name) (quiet : QuietCatalog world seen)
    {answer : ProvisionResult Unit}
    (answered : exec platform thread (.pool (.applyPool pool.spec allocations)) seen =
      some (answer, after)) :
    Converging pool (past ++ [⟨.pool (.applyPool pool.spec allocations), answer⟩]) after := by
  have listed : (after.store.pools.find? pool.name).map StoredPool.wanted = some pool.wanted := by
    rw [pools_exec answered rfl, quiet.pools, facing.listed]
  refine ⟨?_, listed, ?_⟩
  · rw [quarantined_exec answered rfl, quiet.quarantined, facing.unfenced]
  · rcases row_of_listed listed with ⟨row, found, _, sameSpec, _⟩
    refine ⟨row, allocations, found, ?_, ?_⟩
    · simp [latest_snoc, poolMark, if_pos named, sameSpec]
    · rw [Store.allocationsOf, allocations_exec answered rfl, quiet.allocations,
        ← Store.allocationsOf, facing.allocations]

theorem actuatePool_surveys (named : pool.spec.name = pool.name) :
    (actuatePool weightText pool).Ensures (exec platform thread) QuietCatalog
      (PoolStanding weightText pool.name (some pool.wanted)) fun result =>
        Surveyed weightText pool.name (some pool.wanted) [(pool.name, result)] := by
  refine actuatePool_ensures (Facing weightText pool) (Facing weightText pool)
    (fun _ => Converging pool) (fun _ => Converging pool) ?_ (fun allocations => ?_)
    (fun allocations => ?_) (fun allocations => ?_) (fun allocations => ?_) fun action => ?_
  · refine ensures_invoke fun standing quiet answered => ?_
    have kept := standing.exec quiet answered (sparesPool_of_passive rfl)
    cases answered
    exact ⟨kept, rfl⟩
  · refine ensures_invoke fun facing quiet answered => ?_
    have kept := facing.exec quiet answered ⟨rfl, fun _ => rfl, by simp⟩
    cases answered
    simp only
    split
    · next applied => exact kept.converging applied
    · exact kept
  · refine ensures_invoke @fun _ _ _ answer _ facing quiet answered => ?_
    have kept := facing.exec quiet answered ⟨rfl, fun _ => rfl, by simp⟩
    rcases answer with failure | _ | _
    · exact kept.toPoolStanding.surveyed_of_not not_reportsConverged_error
    · exact kept
    · exact kept.toPoolStanding.surveyed_of_not not_reportsConverged_error
  · refine ensures_invoke @fun _ _ _ answer _ facing quiet answered => ?_
    have converging := converging_of_applyPool facing named quiet answered
    rcases answer with failure | done
    · exact converging.surveyed _
    · exact converging
  · refine ensures_invoke @fun _ _ _ answer _ converging quiet answered => ?_
    have kept := converging.exec quiet answered rfl rfl
    rcases answer with failure | done
    · exact kept.surveyed _
    · exact kept
  · refine ensures_invoke fun converging quiet answered => ?_
    exact (converging.exec quiet answered rfl rfl).surveyed _

theorem reconcilePool_surveys (named : pool.spec.name = pool.name) :
    (reconcilePool weightText pool).Ensures (exec platform thread) QuietCatalog
      (PoolStanding weightText pool.name (some pool.wanted)) fun result =>
        Surveyed weightText pool.name (some pool.wanted) [(pool.name, result)] := by
  have observed : (observePoolRow pool).Ensures (exec platform thread) QuietCatalog
      (PoolStanding weightText pool.name (some pool.wanted)) fun _ =>
        PoolStanding weightText pool.name (some pool.wanted) :=
    (observePoolRow_observes pool).ensures
      fun made standing quiet answered => standing.exec quiet answered made.spares
  refine observed.bind ?_
  intro outcome
  cases outcome with
  | error failure =>
    exact ensures_ret fun _ _ standing =>
      standing.surveyed_of_not not_reportsConverged_error
  | ok done =>
    refine invoke (fun answer past world =>
      answer = .ok false ∧ PoolStanding weightText pool.name (some pool.wanted) past world) ?_ ?_
    · intro past world seen answer after standing quiet answered
      have kept := standing.exec quiet answered (sparesPool_of_passive rfl)
      simp [exec_isQuarantined, quiet.quarantined, standing.unfenced] at answered
      exact ⟨answered.1.symm, kept⟩
    rintro (failure | _ | _)
    · exact ensures_ret fun _ _ ⟨impossible, _⟩ => nomatch impossible
    · exact (actuatePool_surveys named).mono (fun _ _ reached => reached.2) fun _ _ _ done => done
    · exact ensures_ret fun _ _ ⟨impossible, _⟩ => nomatch impossible

end Row

section Loop

variable {platform : Platform Provider} {rows pools : List StoredPool} {names : List String}

theorem reconcilePoolRows_spares (named : ∀ pool ∈ rows, pool.spec.name = pool.name)
    (others : ∀ pool ∈ rows, pool.name ≠ name) :
    (reconcilePoolRows weightText rows).Within (SparesPool name) :=
  (reconcilePoolRows_rowCalls weightText rows).mono fun _ ⟨pool, poolMem, made⟩ =>
    made.spares (others pool poolMem) (named pool poolMem)

theorem reconcilePoolRows_names :
    (reconcilePoolRows weightText rows).Ensures (exec platform thread) QuietCatalog
      (fun _ _ => True) fun report _ _ => report.map (·.1) = rows.map (·.name) := by
  induction rows with
  | nil => exact ensures_ret fun _ _ _ => rfl
  | cons pool rows ih =>
    have reconciled : (reconcilePool weightText pool).Ensures (exec platform thread)
        QuietCatalog (fun _ _ => True) fun _ _ _ => True := fun _ _ _ _ _ _ _ => trivial
    refine reconciled.bind fun _ => ih.bind fun others => ensures_ret fun _ _ names => ?_
    simp [names]

/-- Every listed pool is dealt with once, and nothing after it touches it again. -/
theorem reconcilePoolRows_surveys (named : ∀ pool ∈ rows, pool.spec.name = pool.name)
    (distinct : (rows.map (·.name)).Nodup)
    (wanted : ∀ pool ∈ rows, pool.name = name → listed = some pool.wanted) :
    (reconcilePoolRows weightText rows).Ensures (exec platform thread) QuietCatalog
      (PoolStanding weightText name listed) (Surveyed weightText name listed) := by
  induction rows with
  | nil => exact ensures_ret fun _ _ standing => standing.surveyed
  | cons pool rows ih =>
    rw [map_cons, nodup_cons] at distinct
    rw [forall_mem_cons] at named wanted
    by_cases own : pool.name = name
    · subst own
      rw [wanted.1 rfl]
      refine (reconcilePool_surveys named.1).bind fun result => ?_
      have others : ∀ other ∈ rows, other.name ≠ pool.name := by
        intro other otherMem same
        exact distinct.1 (mem_map.mpr ⟨other, otherMem, same⟩)
      have rest : (reconcilePoolRows weightText rows).Ensures (exec platform thread) QuietCatalog
          (Surveyed weightText pool.name (some pool.wanted) [(pool.name, result)])
          fun report past world =>
            Surveyed weightText pool.name (some pool.wanted) [(pool.name, result)] past world ∧
              report.map (·.1) = rows.map (·.name) :=
        ((keepsSurveyed (reconcilePoolRows_spares named.2 others) _).and
          reconcilePoolRows_names).mono (fun _ _ surveyed => ⟨surveyed, trivial⟩)
            fun _ _ _ done => done
      refine rest.bind fun report => ensures_ret ?_
      rintro past world ⟨surveyed, names⟩
      refine ⟨surveyed.toPoolStanding, ?_⟩
      intro other reported converges
      rcases mem_cons.mp reported with head | tail
      · exact surveyed.converged other (by simp [head]) converges
      · have listedAgain := mem_map_of_mem (f := (·.1)) tail
        rw [names] at listedAgain
        exact absurd listedAgain distinct.1
    · have kept : (reconcilePool weightText pool).Ensures (exec platform thread) QuietCatalog
          (PoolStanding weightText name listed) fun _ => PoolStanding weightText name listed :=
        ((reconcilePool_calls weightText pool).mono fun _ made =>
          made.spares own named.1).ensures fun spares standing quiet answered =>
              standing.exec quiet answered spares
      refine kept.bind fun result => (ih named.2 distinct.2 wanted.2).bind fun report =>
        ensures_ret ?_
      intro past world surveyed
      refine ⟨surveyed.toPoolStanding, ?_⟩
      intro other reported converges
      rcases mem_cons.mp reported with head | tail
      · simp at head
        exact absurd head.1.symm own
      · exact surveyed.converged other tail converges

theorem deleteVanished_spares (kept : name ∉ names) :
    (deleteVanished names).Within (SparesPool name) := by
  refine (deleteVanished_tearsDown names).mono ?_
  intro call made
  cases made with
  | deletePool vanished =>
    refine ⟨rfl, fun _ => if_neg ?_, by simp⟩
    rintro rfl
    exact kept vanished
  | convergedRemove gone => exact ⟨rfl, fun _ => rfl, by simp⟩

theorem deleteVanished_results :
    (deleteVanished names).Ensures (exec platform thread) QuietCatalog (fun _ _ => True)
      fun report _ _ => ∀ entry ∈ report, ¬ReportsConverged entry.2 := by
  induction names with
  | nil => exact ensures_ret fun _ _ _ => by simp
  | cons name names ih =>
    refine invoke (fun _ _ _ => True) (fun _ _ _ => trivial) ?_
    intro deleted
    cases deleted with
    | error failure =>
      refine ih.bind fun _ => ensures_ret fun _ _ others => ?_
      exact forall_mem_cons.mpr ⟨not_reportsConverged_error, others⟩
    | ok done =>
      refine invoke (fun _ _ _ => True) (fun _ _ _ => trivial) ?_
      intro _
      refine ih.bind fun _ => ensures_ret fun _ _ others => ?_
      refine forall_mem_cons.mpr ⟨?_, others⟩
      rintro (impossible | impossible) <;> cases impossible

theorem deleteVanished_surveys {vanished : List String}
    (unlisted : ∀ gone ∈ vanished, gone ∉ pools.map (·.name))
    (wanted : name ∉ pools.map (·.name) → listed = none) (report : PoolReport) :
    (deleteVanished vanished).Ensures (exec platform thread) QuietCatalog
      (Surveyed weightText name listed report) fun _ => Surveyed weightText name listed report := by
  by_cases known : name ∈ pools.map (·.name)
  · exact keepsSurveyed (deleteVanished_spares fun gone => unlisted name gone known) report
  · rw [wanted known]
    exact (deleteVanished_calls vanished).ensures fun made surveyed quiet answered =>
        surveyed_exec_unlisted quiet answered surveyed made.keepsCatalog

def wantedIn (name : String) (pools : List StoredPool) : Option (PoolSpec × ℕ) :=
  (pools.find? fun pool => pool.name == name).map StoredPool.wanted

theorem wantedIn_of_mem (distinct : (pools.map (·.name)).Nodup) :
    ∀ pool ∈ pools, pool.name = name →
      wantedIn name pools = some pool.wanted := by
  rintro pool poolMem rfl
  have found : (⟨pools, distinct⟩ : Table StoredPool.name).find? pool.name = some pool :=
    find?_of_mem poolMem
  rw [Table.find?] at found
  simp [wantedIn, found]

theorem wantedIn_of_notMem (unlisted : name ∉ pools.map (·.name)) :
    wantedIn name pools = none := by
  rw [wantedIn, Option.map_eq_none_iff, find?_eq_none]
  intro pool poolMem same
  rw [beq_iff_eq] at same
  exact unlisted (mem_map.mpr ⟨pool, poolMem, same⟩)

theorem Ready.standing {world : World Provider} (ready : Ready weightText name past world) :
    PoolStanding weightText name (wantedIn name world.store.pools.rows) past world :=
  ⟨ready.unfenced, rfl, ready.truthful⟩

/-- A pass reports a pool as converged only when it is, and leaves the outbox truthful. -/
theorem reconcilePools_surveys :
    (reconcilePools weightText).Ensures (exec platform thread) QuietCatalog
      (Ready weightText name) fun report past world =>
        ∃ listed, Surveyed weightText name listed report past world := by
  refine invoke (fun _ => Ready weightText name) ?_ ?_
  · intro past world seen answer after ready quiet answered
    exact ready.exec quiet answered ⟨rfl, fun _ => rfl, by simp⟩
  rintro (_ | _)
  · exact ensures_ret fun _ _ ready => ⟨_, ready.standing.surveyed⟩
  refine invoke (fun answer past world =>
    answer = .ok world.store.pools.rows ∧ Ready weightText name past world) ?_ ?_
  · intro past world seen answer after ready quiet answered
    refine ⟨?_, ready.exec quiet answered (sparesPool_of_passive rfl)⟩
    simp [exec_listPools] at answered
    rw [← answered.1, ← answered.2]
  rintro (failure | pools)
  · exact ensures_ret fun _ _ ⟨impossible, _⟩ => nomatch impossible
  have facts : ∀ past (world : World Provider),
      (Except.ok pools : StoreResult (List StoredPool)) = .ok world.store.pools.rows ∧
        Ready weightText name past world →
      ((∀ pool ∈ pools, pool.spec.name = pool.name) ∧ (pools.map (·.name)).Nodup) ∧
        PoolStanding weightText name (wantedIn name pools) past world := by
    rintro past world ⟨⟨⟩, ready⟩
    exact ⟨⟨ready.named, world.store.pools.nodup⟩, ready.standing⟩
  refine given (fun past world reached => (facts past world reached).1) ?_
  rintro ⟨named, distinct⟩
  refine ((reconcilePoolRows_surveys named distinct (wantedIn_of_mem distinct)).mono
    (fun past world reached => (facts past world reached).2) fun _ _ _ done => done).bind
      fun report => ?_
  refine invoke (fun answer past world => answer = .ok false ∧
    Surveyed weightText name (wantedIn name pools) report past world) ?_ ?_
  · intro past world seen answer after surveyed quiet answered
    refine ⟨?_, surveyed.exec quiet answered (sparesPool_of_passive rfl)⟩
    simp [exec_isQuarantined, quiet.quarantined, surveyed.unfenced] at answered
    exact answered.1.symm
  rintro (failure | _ | _)
  · exact ensures_ret fun _ _ ⟨impossible, _⟩ => nomatch impossible
  · refine invoke (fun vanished past world =>
      (∀ gone ∈ vanished, gone ∉ pools.map (·.name)) ∧
        Surveyed weightText name (wantedIn name pools) report past world) ?_ ?_
    · rintro past world seen answer after ⟨_, surveyed⟩ quiet answered
      refine ⟨?_, surveyed.exec quiet answered ⟨rfl, fun _ => rfl, by simp⟩⟩
      cases answered
      intro gone goneMem
      simpa using (mem_filter.mp goneMem).2
    intro vanished
    refine given (fun _ _ reached => reached.1) fun unlisted => ?_
    refine (((deleteVanished_surveys unlisted wantedIn_of_notMem report).and
      deleteVanished_results).mono (fun _ _ reached => ⟨reached.2, trivial⟩)
        fun _ _ _ done => done).bind fun deletions => ensures_ret ?_
    rintro past world ⟨surveyed, results⟩
    refine ⟨_, surveyed.toPoolStanding, ?_⟩
    intro result reported converges
    rcases mem_append.mp reported with row | deletion
    · exact surveyed.converged result row converges
    · exact absurd converges (results _ deletion)
  · exact ensures_ret fun _ _ ⟨impossible, _⟩ => nomatch impossible

end Loop

inductive PoolActor where
  | pass
  | change (call : AdminCall)

def PoolActor.program (weightText : ℚ → Numeral) : PoolActor → Program PoolReport
  | .pass => reconcilePools weightText
  | .change call => do
      let _ ← Call.perform (.admin call)
      return []

def PoolActor.Named : PoolActor → Prop
  | .change (.upsertPool name spec) => spec.name = name
  | _ => True

abbrev PoolRound (Provider : Type) := Round Call.Res (World Provider) PoolActor PoolReport

/-- A pool that is found applied after a change was wanted like that before the change. -/
def Renewed (weightText : ℚ → Numeral) (before after : World Provider) : Prop :=
  ∀ pool ∈ after.store.pools.rows, AppliedAlready weightText pool after →
    SameWish pool.name before after

/-- The condition on a round: passes are not fenced, changes renew what they change. -/
structure Sincere (weightText : ℚ → Numeral) (round : PoolRound Provider) : Prop where
  unfenced : round.role = .pass → round.before.store.quarantined = false
  named : round.role.Named
  renewed : ∀ call, round.role = .change call → Renewed weightText round.before round.after

structure TruthfulOutbox (weightText : ℚ → Numeral) (past : EventLog)
    (world : World Provider) : Prop where
  named : ∀ pool ∈ world.store.pools.rows, pool.spec.name = pool.name
  truthful : ∀ name, TruthfulAt weightText name past world

section Runs

variable {platform : Platform Provider}

theorem named_change {call : AdminCall} {answer : call.Res} {world seen after : World Provider}
    (stored : ∀ pool ∈ world.store.pools.rows, pool.spec.name = pool.name)
    (quiet : QuietCatalog world seen)
    (answered : exec platform thread (.admin call) seen = some (answer, after))
    (named : (PoolActor.change call).Named) :
    ∀ pool ∈ after.store.pools.rows, pool.spec.name = pool.name := by
  rw [← quiet.pools] at stored
  cases answered
  cases call with
  | upsertPool name spec =>
    intro pool poolMem
    rcases mem_insert.mp poolMem with rfl | ⟨old, _⟩
    · exact named
    · exact stored pool old
  | deletePool name =>
    intro pool poolMem
    simp only [Store.setCatalog] at poolMem
    split at poolMem
    · exact stored pool poolMem
    · exact stored pool (mem_erase.mp poolMem).1
  | deleteAllocation name project =>
    intro pool poolMem
    simp only [Store.setCatalog] at poolMem
    split at poolMem <;> exact stored pool poolMem
  | upsertAllocation alloc => exact stored
  | setQuarantine quarantined => exact stored

theorem TruthfulOutbox.pass {events : EventLog} {world final : World Provider}
    {report : PoolReport} (truthful : TruthfulOutbox platform.weightText past world)
    (unfenced : world.store.quarantined = false)
    (ran : (reconcilePools platform.weightText).Amid (exec platform thread) QuietCatalog world
      events report final) :
    TruthfulOutbox platform.weightText (past ++ events) final where
  named := by
    have kept : (reconcilePools platform.weightText).Ensures (exec platform thread) QuietCatalog
        (fun _ world => ∀ pool ∈ world.store.pools.rows, pool.spec.name = pool.name)
        fun _ _ world => ∀ pool ∈ world.store.pools.rows, pool.spec.name = pool.name :=
      reconcilePools_calls.ensures fun made named quiet answered =>
          named_exec quiet answered named made.keepsCatalog
    exact kept past _ _ _ _ truthful.named ran
  truthful := by
    intro name
    rcases reconcilePools_surveys past _ _ _ _ ⟨unfenced, truthful.named, truthful.truthful name⟩
      ran with ⟨_, surveyed⟩
    exact surveyed.truthful

theorem TruthfulOutbox.change {call : AdminCall} {events : EventLog}
    {world final : World Provider} {report : PoolReport}
    (truthful : TruthfulOutbox platform.weightText past world)
    (named : (PoolActor.change call).Named) (renewed : Renewed platform.weightText world final)
    (ran : ((PoolActor.change call).program platform.weightText).Amid (exec platform thread)
      QuietCatalog world events report final) :
    TruthfulOutbox platform.weightText (past ++ events) final := by
  rcases ran.of_invoke with ⟨seen, answer, after, later, quiet, answered, rfl, ended⟩
  cases ended
  refine ⟨named_change truthful.named quiet answered named, ?_⟩
  intro name pool found applied
  have poolName := key_of_find? found
  have same : SameWish name world final := by
    rw [← poolName]
    exact renewed pool (mem_of_find? found) applied
  rcases same.stored found with ⟨old, oldFound, sameName, sameSpec, sameGeneration⟩
  have appliedBefore := applied.before same poolName sameName sameSpec sameGeneration ?_
  · refine (truthful.truthful name old oldFound appliedBefore).transport same ?_
    rw [latest_snoc]
    rfl
  · intro fingerprint record recordFound status
    rw [intents_exec answered] at recordFound
    exact quiet.intents _ record recordFound status

variable {origin final : World Provider} {rounds : List (PoolRound Provider)}

theorem truthfulOutbox_of_run
    (run : Rounds (exec platform thread) QuietCatalog (PoolActor.program platform.weightText)
      origin rounds final)
    (started : TruthfulOutbox platform.weightText [] origin)
    (sincere : ∀ round ∈ rounds, Sincere platform.weightText round) :
    TruthfulOutbox platform.weightText (history rounds) final := by
  induction run with
  | nil => exact started
  | snoc role earlier ran ih =>
    rw [forall_mem_append, forall_mem_singleton] at sincere
    have truthful := ih sincere.1
    rw [history_append, history_singleton]
    cases role with
    | pass => exact truthful.pass (sincere.2.unfenced rfl) ran
    | change call => exact truthful.change sincere.2.named (sincere.2.renewed call rfl) ran

/--
Whenever a pass reports a pool as applied or as unchanged, the pool was last
applied with its current specification and allocations, in every run in which
changes lead to desired states without an applied intent.
-/
theorem pool_reports_truthful
    (run : Rounds (exec platform thread) QuietCatalog (PoolActor.program platform.weightText)
      origin rounds final)
    (named : ∀ pool ∈ origin.store.pools.rows, pool.spec.name = pool.name)
    (unapplied : ∀ pool ∈ origin.store.pools.rows, ¬AppliedAlready platform.weightText pool origin)
    (sincere : ∀ round ∈ rounds, Sincere platform.weightText round) :
    ∀ earlier round later, rounds = earlier ++ round :: later → round.role = .pass →
      ∀ name result, (name, result) ∈ round.value → ReportsConverged result →
        ConvergedAt name (history (earlier ++ [round])) round.after := by
  rintro earlier round later rfl isPass name result reported converges
  have started : TruthfulOutbox platform.weightText [] origin :=
    ⟨named, fun _ pool found applied =>
      absurd applied (unapplied pool (mem_of_find? found))⟩
  rcases run.at_round with ⟨before, ran⟩
  have truthful := truthfulOutbox_of_run before started fun round roundMem =>
    sincere round (by simp [roundMem])
  have unfenced := (sincere round (by simp)).unfenced isPass
  rw [isPass] at ran
  rcases reconcilePools_surveys _ _ _ _ _ ⟨unfenced, truthful.named, truthful.truthful name⟩ ran
    with ⟨_, surveyed⟩
  rw [history_append, history_singleton]
  exact surveyed.converged result reported converges

end Runs

instance : DecidablePred PoolActor.Named := fun actor =>
  match actor with
  | .change (.upsertPool name spec) => inferInstanceAs (Decidable (spec.name = name))
  | .pass | .change (.deletePool _) | .change (.upsertAllocation _)
  | .change (.deleteAllocation _ _) | .change (.setQuarantine _) => isTrue trivial

/-- The condition on a round, where changes leave no pool that is found applied. -/
def sincerely (weightText : ℚ → Numeral) (round : PoolRound Provider) : Bool :=
  round.role.Named && !round.before.store.quarantined &&
    match round.role with
    | .pass => true
    | .change _ => round.after.store.pools.rows.all fun pool =>
      ¬AppliedAlready weightText pool round.after

theorem sincere_of_sincerely {round : PoolRound Provider}
    (checked : sincerely weightText round = true) : Sincere weightText round := by
  simp [sincerely] at checked
  refine ⟨fun _ => checked.1.2, checked.1.1, ?_⟩
  intro call role pool poolMem applied
  have fresh := checked.2
  simp [role] at fresh
  exact absurd applied (by simpa using fresh pool poolMem)

def convergedBy (actors : List PoolActor) :
    Option (List (PoolRound Kubernetes) × World Kubernetes) :=
  executeRounds (exec plainPlatform 0)
    (PoolActor.program plainSurroundings.weightText) actors queueingControlPlane

/-- Whether a round is a pass that reports the pool with an action. -/
def reportsGpu (action : PoolAction) (round : PoolRound Kubernetes) : Bool :=
  (match round.role with
    | .pass => true
    | .change _ => false) &&
    round.value.any fun entry => entry.1 = "gpu" && entry.2.toOption = some action

theorem mem_of_reportsGpu {action : PoolAction} {round : PoolRound Kubernetes}
    (reports : reportsGpu action round = true) :
    round.role = .pass ∧ ("gpu", .ok action) ∈ round.value := by
  rw [reportsGpu, Bool.and_eq_true, any_eq_true] at reports
  rcases reports with ⟨isPass, ⟨name, result⟩, entryMem, same⟩
  rw [Bool.and_eq_true, decide_eq_true_eq, decide_eq_true_eq] at same
  refine ⟨?_, ?_⟩
  · cases role : round.role with
    | pass => rfl
    | change call =>
      rw [role] at isPass
      cases isPass
  · rcases result with failure | done
    · cases same.2
    rcases same with ⟨rfl, same⟩
    simp [Except.toOption] at same
    rwa [← same]

/-- What is checked of the rounds and the last of them, if that is a pass with the report. -/
theorem last_of_convergedBy {actors : List PoolActor} {action : PoolAction}
    {check : List (PoolRound Kubernetes) → PoolRound Kubernetes → Bool}
    (outcome : (convergedBy actors).any (fun converged => converged.1.getLast?.any fun round =>
      reportsGpu action round && check converged.1 round) = true) :
    ∃ rounds final, Rounds (exec plainPlatform 0)
        QuietCatalog (PoolActor.program plainSurroundings.weightText) queueingControlPlane
        rounds final ∧
      ∃ earlier round, rounds = earlier ++ [round] ∧ round.role = .pass ∧
        ("gpu", .ok action) ∈ round.value ∧ check rounds round = true := by
  simp only [Option.any_eq_true, Bool.and_eq_true] at outcome
  rcases outcome with ⟨⟨rounds, final⟩, converged, round, last, reports, checked⟩
  rcases getLast?_eq_some_iff.mp last with ⟨earlier, split⟩
  rcases mem_of_reportsGpu reports with ⟨isPass, reported⟩
  exact ⟨rounds, final, rounds_alone QuietCatalog.refl converged, earlier, round, split, isPass,
    reported, checked⟩

theorem pool_reports_truthful_after_growth :
    ∃ rounds final, Rounds (exec plainPlatform 0)
        QuietCatalog (PoolActor.program plainSurroundings.weightText) queueingControlPlane
        rounds final ∧
      (∀ round ∈ rounds, Sincere plainSurroundings.weightText round) ∧
      ∃ earlier round, rounds = earlier ++ [round] ∧ round.role = .pass ∧
        ("gpu", .ok .applied) ∈ round.value ∧
        ConvergedAt "gpu" (history (earlier ++ [round])) round.after := by
  rcases @last_of_convergedBy [.change (.upsertPool "gpu" gpuPool), .pass,
    .change (.upsertAllocation (gpuShare "1")), .pass] .applied
    (fun rounds _ => rounds.all (sincerely plainSurroundings.weightText)) (by decide +kernel) with
    ⟨rounds, final, run, earlier, round, split, isPass, reported, checked⟩
  have sincere : ∀ round ∈ rounds, Sincere plainSurroundings.weightText round :=
    fun round roundMem => sincere_of_sincerely (all_eq_true.mp checked round roundMem)
  have truthful := pool_reports_truthful run (by simp [queueingControlPlane, freshControlPlane,
    Store.empty, empty]) (by simp [queueingControlPlane, freshControlPlane, Store.empty,
      empty]) sincere earlier _ [] split isPass "gpu" _ reported (.inr rfl)
  exact ⟨rounds, final, run, sincere, earlier, round, split, isPass, reported, truthful⟩

def appliesAllocations : Option PoolMark → Bool
  | some (.applied _ allocations) => !allocations.isEmpty
  | _ => false

/-- An allocation is added and removed again; the pool is left with the allocation. -/
theorem shrunk_pool_reported_unchanged :
    ∃ rounds final, Rounds (exec plainPlatform 0)
        QuietCatalog (PoolActor.program plainSurroundings.weightText) queueingControlPlane
        rounds final ∧
      (∀ round ∈ rounds, round.before.store.quarantined = false) ∧
      ∃ earlier round, rounds = earlier ++ [round] ∧ round.role = .pass ∧
        ("gpu", .ok .noOp) ∈ round.value ∧
        ¬ConvergedAt "gpu" (history (earlier ++ [round])) round.after := by
  rcases @last_of_convergedBy [.change (.upsertPool "gpu" gpuPool), .pass,
    .change (.upsertAllocation (gpuShare "1")), .pass, .change (.deleteAllocation "gpu" "p"), .pass]
    .noOp (fun rounds round => rounds.all (fun round => !round.before.store.quarantined) &&
      (round.after.store.allocationsOf "gpu").isEmpty &&
      appliesAllocations (latest (poolMark "gpu") (history rounds))) (by decide +kernel) with
    ⟨rounds, final, run, earlier, round, split, isPass, reported, checked⟩
  simp only [all_eq_true, Bool.not_eq_true', Bool.and_eq_true, List.isEmpty_iff] at checked
  rcases checked with ⟨⟨unfenced, unallocated⟩, allocated⟩
  refine ⟨rounds, final, run, unfenced, earlier, round, split, isPass, reported, ?_⟩
  rintro ⟨pool, allocations, _, applied, listed⟩
  rw [← split] at applied
  rw [applied] at allocated
  rw [unallocated, perm_nil] at listed
  rw [listed] at allocated
  cases allocated

end Mobula
