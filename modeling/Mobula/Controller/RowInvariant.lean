import Mobula.Controller.SqliteRefinement

/-!
# What holds of cluster rows in every run

The SQLite store goes through the same rows as the in-memory one, for all values of the argument
types: the only number that a column does not give back is an observed generation of 2⁶³ or
more, which `MAX` takes for a negative one and ignores.
-/

namespace Mobula

open Foundation List Table ClusterTable

/-- A termination time is kept exactly while the cluster is to be terminated. -/
def StoredCluster.Stamped (cluster : StoredCluster) : Prop :=
  cluster.terminatedAt.isSome ↔ cluster.desired = .terminated

def RowCall.bump (id : ClusterId) (old : StoredCluster) : RowCall → ℕ
  | .upsertDesired upserted spec => if id = upserted && specChanged old.spec spec then 1 else 0
  | _ => 0

/-- What a call can make of the row of a cluster. -/
inductive RowFate (id : ClusterId) (call : RowCall) :
    Option StoredCluster → Option StoredCluster → Prop
  | absent : RowFate id call none none
  | created {new : StoredCluster} (first : new.generation = 1) (stamped : new.Stamped) :
      RowFate id call none (some new)
  | kept {old new : StoredCluster} (generation : new.generation = old.generation + call.bump id old)
      (observedGeneration : old.observedGeneration ≤ new.observedGeneration)
      (createdAt : new.createdAt = old.createdAt) (stamped : old.Stamped → new.Stamped) :
      RowFate id call (some old) (some new)
  | removed {old : StoredCluster} (removes : call = .removeCluster id) :
      RowFate id call (some old) none

namespace RowFate

variable {id : ClusterId} {call : RowCall}

theorem mapped {change : StoredCluster → StoredCluster} (found : Option StoredCluster)
    (quiet : ∀ row, call.bump id row = 0)
    (generation : ∀ row, (change row).generation = row.generation)
    (observedGeneration : ∀ row, row.observedGeneration ≤ (change row).observedGeneration)
    (createdAt : ∀ row, (change row).createdAt = row.createdAt)
    (stamped : ∀ row, row.Stamped → (change row).Stamped) :
    RowFate id call found (found.map change) := by
  rcases found with _ | row
  · exact .absent
  exact .kept (by simp [generation, quiet]) (observedGeneration row) (createdAt row) (stamped row)

theorem same (found : Option StoredCluster) (quiet : ∀ row, call.bump id row = 0) :
    RowFate id call found found := by
  rcases found with _ | row
  · exact .absent
  · exact .kept (by simp [quiet]) le_rfl rfl fun stamped => stamped

end RowFate

theorem ClusterTable.withDesired_stamped (desired : DesiredState) (now : ℕ)
    (row : StoredCluster) : (withDesired desired now row).Stamped := by
  by_cases terminated : desired = .terminated <;>
    simp [StoredCluster.Stamped, withDesired, terminated]

theorem execRow_steps {call : RowCall} {clusters : ClusterTable} {now : ℕ} {id : ClusterId} :
    RowFate id call (clusters.find? id) ((execRow call clusters now).2.find? id) := by
  cases call with
  | upsertDesired upserted spec =>
    simp only [execRow, find?_upsertDesired]
    split
    case isTrue isUpserted =>
      subst isUpserted
      rcases found : clusters.find? id with _ | old
      · exact .created rfl (by simp [StoredCluster.Stamped, upsertedRow])
      refine .kept ?_ (by simp [upsertedRow]) rfl fun stamped => ?_
      · by_cases changed : specChanged old.spec spec <;>
          simp [upsertedRow, nextGeneration, RowCall.bump, changed]
      · simpa [StoredCluster.Stamped, upsertedRow] using stamped
    case isFalse isOther => exact .same _ fun _ => by simp [RowCall.bump, isOther]
  | setDesired changed desired =>
    simp only [execRow]
    rcases found : clusters.find? changed with _ | row
    · exact .same _ fun _ => rfl
    simp only [find?_setDesired]
    split
    · exact .mapped _ (fun _ => rfl) (fun _ => rfl) (fun _ => le_rfl) (fun _ => rfl)
        fun row _ => withDesired_stamped desired now row
    · exact .same _ fun _ => rfl
  | removeCluster removed =>
    simp only [execRow, find?_erase]
    split
    case isTrue isRemoved =>
      rcases found : clusters.find? id with _ | old
      · exact .absent
      · exact .removed (by rw [isRemoved])
    case isFalse => exact .same _ fun _ => rfl
  | recordObservation observed state generation =>
    simp only [execRow, find?_recordObservation]
    split
    · exact .mapped _ (fun _ => rfl) (fun _ => rfl) (fun _ => le_max_left _ _) (fun _ => rfl)
        fun _ stamped => stamped
    · exact .same _ fun _ => rfl
  | setCondition judged condition =>
    simp only [execRow, find?_setCondition]
    split
    · exact .mapped _ (fun _ => rfl) (fun _ => rfl) (fun _ => le_rfl) (fun _ => rfl)
        fun _ stamped => stamped
    · exact .same _ fun _ => rfl
  | recordAttempt attempted failureCount nextAttemptAt =>
    simp only [execRow, find?_recordAttempt]
    split
    · exact .mapped _ (fun _ => rfl) (fun _ => rfl) (fun _ => le_rfl) (fun _ => rfl)
        fun _ stamped => stamped
    · exact .same _ fun _ => rfl
  | get _ => exact .same _ fun _ => rfl
  | list => exact .same _ fun _ => rfl

/-- A call on the rows, and when it is made. -/
abbrev RowOp := RowCall × ℕ

def ClusterTable.machine : Machine (fun op : RowOp => op.1.Res) ClusterTable :=
  fun op clusters => execRow op.1 clusters op.2

def SqliteStore.rowMachine : Machine (fun op : RowOp => op.1.Res) SqliteStore.ClusterRows :=
  fun op rows => SqliteStore.execRow op.1 rows op.2

def rowAfter {S : Type} (machine : Machine (fun op : RowOp => op.1.Res) S) (start : S)
    (ops : List RowOp) (id : ClusterId) : StoreResult (Option StoredCluster) :=
  (machine (.get id, 0) (machine.run ops start)).1

/-- What holds of the rows after any sequence of calls. -/
structure RowDiscipline {S : Type} (machine : Machine (fun op : RowOp => op.1.Res) S) (start : S)
    (ops : List RowOp) : Prop where
  /-- Rows can be read. -/
  answered : ∀ id, ∃ found, rowAfter machine start ops id = .ok found
  stamped : ∀ id cluster, rowAfter machine start ops id = .ok (some cluster) →
    (cluster.terminatedAt.isSome ↔ cluster.desired = .terminated)
  /-- A row that is not removed stays, and never goes back. -/
  kept : ∀ before later id old, ops = before ++ later →
    rowAfter machine start before id = .ok (some old) →
    (∀ op ∈ later, op.1 ≠ .removeCluster id) →
    ∃ new, rowAfter machine start ops id = .ok (some new) ∧ old.generation ≤ new.generation ∧
      old.observedGeneration ≤ new.observedGeneration ∧ new.createdAt = old.createdAt
  upserted : ∀ before id spec now old, ops = before ++ [(.upsertDesired id spec, now)] →
    rowAfter machine start before id = .ok (some old) →
    ∃ new, rowAfter machine start ops id = .ok (some new) ∧
      new.generation = old.generation + if specChanged old.spec spec then 1 else 0

namespace ClusterTable

theorem rowAfter_eq (ops : List RowOp) (id : ClusterId) :
    rowAfter machine .empty ops id = .ok ((machine.run ops empty).find? id) := rfl

theorem machine_steps (before : List RowOp) (op : RowOp) (id : ClusterId) :
    RowFate id op.1 ((machine.run before empty).find? id)
      ((machine.run (before ++ [op]) empty).find? id) := by
  rw [Machine.run_append]
  exact execRow_steps

theorem run_stamped (ops : List RowOp) {id : ClusterId} {cluster : StoredCluster}
    (found : (machine.run ops empty).find? id = some cluster) : cluster.Stamped := by
  induction ops using reverseRecOn generalizing cluster with
  | nil => cases found
  | append_singleton before op ih =>
    have step := machine_steps before op id
    rw [found] at step
    generalize was : (machine.run before empty).find? id = old at step
    cases step with
    | created _ stamped => exact stamped
    | kept _ _ _ stamped => exact stamped (ih was)

theorem run_kept (before later : List RowOp) {id : ClusterId} {old : StoredCluster}
    (found : (machine.run before empty).find? id = some old)
    (stays : ∀ op ∈ later, op.1 ≠ .removeCluster id) :
    ∃ new, (machine.run (before ++ later) empty).find? id = some new ∧
      old.generation ≤ new.generation ∧ old.observedGeneration ≤ new.observedGeneration ∧
      new.createdAt = old.createdAt := by
  induction later using reverseRecOn with
  | nil => exact ⟨old, by simpa using found, le_rfl, le_rfl, rfl⟩
  | append_singleton later op ih =>
    rcases ih fun op member => stays op (by simp [member]) with
      ⟨middle, foundMiddle, generation, observed, createdAt⟩
    have step := machine_steps (before ++ later) op id
    simp [foundMiddle] at step
    generalize isNow : (machine.run (before ++ (later ++ [op])) empty).find? id = now at step
    cases step with
    | @kept _ new grows observes creation _ =>
      exact ⟨new, isNow ▸ rfl, by omega, observed.trans observes, creation.trans createdAt⟩
    | removed removes => exact absurd removes (stays op (by simp))

theorem discipline (ops : List RowOp) : RowDiscipline machine .empty ops where
  answered id := ⟨_, rowAfter_eq ops id⟩
  stamped id cluster found := by
    simp [rowAfter_eq] at found
    exact run_stamped ops found
  kept before later id old split found stays := by
    subst split
    simp [rowAfter_eq] at found
    rcases run_kept before later found stays with ⟨new, foundNew, facts⟩
    exact ⟨new, congrArg Except.ok foundNew, facts⟩
  upserted before id spec now old split found := by
    subst split
    simp [rowAfter_eq] at found
    have step := machine_steps before (.upsertDesired id spec, now) id
    rw [found] at step
    rw [rowAfter_eq]
    generalize (machine.run (before ++ [(.upsertDesired id spec, now)]) empty).find? id =
      new at step
    cases step with
    | @kept _ new grows _ _ _ => exact ⟨new, rfl, by simpa [RowCall.bump] using grows⟩
    | removed removes => cases removes

theorem generation_le (ops : List RowOp) {id : ClusterId} {cluster : StoredCluster}
    (found : (machine.run ops empty).find? id = some cluster) :
    cluster.generation ≤ ops.length := by
  induction ops using reverseRecOn generalizing cluster with
  | nil => cases found
  | append_singleton before op ih =>
    have step := machine_steps before op id
    rw [found] at step
    generalize was : (machine.run before empty).find? id = old at step
    simp
    cases step with
    | created first _ => omega
    | @kept old _ grows _ _ _ =>
      have small : op.1.bump id old ≤ 1 := by
        unfold RowCall.bump
        split
        · split <;> omega
        · omega
      have bounded := ih was
      omega

end ClusterTable

/-- The arguments of a call are values of their types. -/
def RowCall.Typed : RowCall → Prop
  | .upsertDesired _ spec => spec.Fits
  | .recordObservation _ _ generation => generation < 2 ^ 64
  | .recordAttempt _ failureCount nextAttemptAt => failureCount < 2 ^ 32 ∧ nextAttemptAt < 2 ^ 64
  | _ => True

/-- The call as the columns have it: as a signed number, a large generation is negative. -/
def RowCall.asStored : RowCall → RowCall
  | .recordObservation id observed generation =>
    .recordObservation id observed (if generation < 2 ^ 63 then generation else 0)
  | call => call

def RowOp.asStored (op : RowOp) : RowOp :=
  (op.1.asStored, op.2)

/-- The arguments fit the types of the source. -/
def RowOp.Typed (op : RowOp) : Prop :=
  op.1.Typed ∧ op.2 < 2 ^ 64

theorem RowCall.asStored_eq_removeCluster {call : RowCall} {id : ClusterId}
    (removes : call.asStored = .removeCluster id) : call = .removeCluster id := by
  cases call <;> simp_all [asStored]

namespace SqliteStore

variable {rows : ClusterRows} {clusters : ClusterTable} {now : ℕ}

/-- `MAX` ignores a generation that the column takes for a negative one. -/
theorem recordObservation_mirrors_zero {id : ClusterId} {observed : Option ClusterState}
    {generation : ℕ} (mirrors : MirrorsClusters rows clusters) (typed : generation < 2 ^ 64)
    (large : ¬generation < 2 ^ 63) :
    MirrorsClusters (recordObservation rows id observed generation).2
      (ClusterTable.recordObservation clusters id observed 0) := by
  apply mirrors.update_key
  · exact fun _ => rfl
  · exact fun _ => rfl
  rintro row cluster ⟨rfl, fits⟩
  have ignored : max (asI64 cluster.observedGeneration) (asI64 generation) =
      asI64 cluster.observedGeneration := by
    have negative : asI64 generation < 0 := by
      simp only [asI64]
      omega
    rw [asI64_of_lt fits.observedGeneration]
    omega
  have unchanged : max cluster.observedGeneration 0 < 2 ^ 63 := by
    rw [Nat.max_zero]
    exact fits.observedGeneration
  refine ⟨?_, { fits with observedGeneration := unchanged }⟩
  simp [StoredCluster.columns, ClusterTable.withObservation, ignored]

theorem execRow_mirrors (mirrors : MirrorsClusters rows clusters) {call : RowCall}
    (typed : call.Typed) (small : now < 2 ^ 64)
    (bounded : ∀ id cluster, clusters.find? id = some cluster → cluster.generation + 1 < 2 ^ 64) :
    MirrorsClusters (execRow call rows now).2 (Mobula.execRow call.asStored clusters now).2 := by
  have kept (stored : RowCall) (storable : stored.Below (2 ^ 64) clusters) :
      MirrorsClusters (execRow stored rows now).2 (Mobula.execRow stored clusters now).2 :=
    (execRow_simulates mirrors small storable).2
  cases call with
  | upsertDesired id spec =>
    refine kept (.upsertDesired id spec) ⟨typed, ?_⟩
    unfold ClusterTable.nextGeneration
    rcases found : clusters.find? id with _ | cluster
    · exact (by decide : 1 < 2 ^ 64)
    have below := bounded id cluster found
    dsimp only
    split <;> omega
  | recordObservation id observed generation =>
    by_cases fits : generation < 2 ^ 63
    · have stored : (RowCall.recordObservation id observed generation).asStored =
          .recordObservation id observed generation := by
        rw [RowCall.asStored, if_pos fits]
      rw [stored]
      exact kept (.recordObservation id observed generation) fits
    · have stored : (RowCall.recordObservation id observed generation).asStored =
          .recordObservation id observed 0 := by
        rw [RowCall.asStored, if_neg fits]
      rw [stored]
      exact recordObservation_mirrors_zero mirrors typed fits
  | recordAttempt id failureCount nextAttemptAt =>
    exact kept (.recordAttempt id failureCount nextAttemptAt) typed
  | get id => exact mirrors
  | list => exact mirrors
  | setDesired id desired => exact kept (.setDesired id desired) trivial
  | removeCluster id => exact kept (.removeCluster id) trivial
  | setCondition id condition => exact kept (.setCondition id condition) trivial

variable (ops : List RowOp) (typed : ∀ op ∈ ops, op.Typed) (short : ops.length < 2 ^ 64)

include ops typed short

theorem run_mirrors : MirrorsClusters (rowMachine.run ops .empty)
      (ClusterTable.machine.run (ops.map RowOp.asStored) .empty) := by
  induction ops using reverseRecOn with
  | nil => exact Mirrors.empty
  | append_singleton before op ih =>
    simp at short
    have mirrors := ih (fun op member => typed op (by simp [member])) (by omega)
    have opTyped := typed op (by simp)
    simp [Machine.run_append]
    refine execRow_mirrors mirrors opTyped.1 opTyped.2 fun id cluster found => ?_
    have counted := ClusterTable.generation_le _ found
    rw [length_map] at counted
    omega

theorem rowAfter_eq (id : ClusterId) : rowAfter rowMachine .empty ops id =
      rowAfter ClusterTable.machine .empty (ops.map RowOp.asStored) id :=
  get_eq (run_mirrors ops typed short) id

theorem discipline : RowDiscipline rowMachine .empty ops := by
  have same (part : List RowOp) (isPart : part <+: ops) (id : ClusterId) :
      rowAfter rowMachine .empty part id =
        rowAfter ClusterTable.machine .empty (part.map RowOp.asStored) id :=
    rowAfter_eq part (fun op member => typed op (isPart.subset member))
      (isPart.length_le.trans_lt short) id
  have inMemory := ClusterTable.discipline (ops.map RowOp.asStored)
  constructor
  · intro id
    rw [same ops prefix_rfl]
    exact inMemory.answered id
  · intro id cluster found
    rw [same ops prefix_rfl] at found
    exact inMemory.stamped id cluster found
  · intro before later id old split found stays
    rw [same before ⟨later, split.symm⟩] at found
    rw [same ops prefix_rfl]
    refine inMemory.kept _ (later.map RowOp.asStored) id old (by simp [split]) found ?_
    rw [forall_mem_map]
    exact fun op member removes =>
      stays op member (RowCall.asStored_eq_removeCluster removes)
  · intro before id spec now old split found
    rw [same before ⟨_, split.symm⟩] at found
    rw [same ops prefix_rfl]
    exact inMemory.upserted _ id spec now old (by simp [split, RowOp.asStored, RowCall.asStored])
      found

end SqliteStore

/-- The rows of both stores, after every run from an empty store; those of the SQLite store for
arguments of their types, and for as many operations as a 64-bit generation can count. -/
theorem cluster_rows_disciplined (ops : List RowOp) :
    RowDiscipline machine .empty ops ∧
      ((∀ op ∈ ops, op.Typed) → ops.length < 2 ^ 64 →
        RowDiscipline SqliteStore.rowMachine .empty ops) :=
  ⟨discipline ops, SqliteStore.discipline ops⟩

/-- A cluster is created, terminated and posted again; an observation has a generation that no
signed column holds. -/
theorem cluster_rows_disciplined_lifetime :
    RowDiscipline SqliteStore.rowMachine .empty
      [(.upsertDesired "c1" (headOnly "p"), 5), (.recordObservation "c1" none (2 ^ 64 - 1), 6),
        (.setDesired "c1" .terminated, 7), (.upsertDesired "c1" (headOnly "q"), 8)] := by
  apply (cluster_rows_disciplined _).2
  · intro op member
    simp at member
    rcases member with rfl | rfl | rfl | rfl
    · exact ⟨headOnly_fits, by decide⟩
    · exact ⟨show 2 ^ 64 - 1 < 2 ^ 64 by decide, by decide⟩
    · exact ⟨trivial, by decide⟩
    · exact ⟨headOnly_fits, by decide⟩
  · decide

end Mobula
