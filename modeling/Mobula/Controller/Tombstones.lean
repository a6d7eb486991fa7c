import Mobula.Grounds

/-!
# Only tombstones are removed

A purge and the tombstone sweep check the row they read and then remove whatever is stored under
its id.
-/

namespace Mobula

open Foundation

variable {Provider : Type} {id : ClusterId}

def Buried (id : ClusterId) (world : World Provider) : Prop :=
  ∀ row, world.store.clusters.find? id = some row → row.isTombstone = true

/-- Whether a call puts a live row in the place of a tombstone or of none. -/
def rouses (id : ClusterId) (call : Call) (world : World Provider) : Bool :=
  match call with
  | .row (.upsertDesired wanted _) => wanted = id && (world.store.clusters.find? id).isNone
  | .row (.setDesired wanted desired) => wanted = id && desired ≠ .terminated
  | .row (.recordObservation wanted state _) => wanted = id && !observedGone state
  | _ => false

/-- No row is roused between the last reading and the removal of a purge or a sweep. -/
abbrev RemovesUnroused (id : ClusterId) (trace : PlaneTrace Provider) : Prop :=
  Foundation.Undisturbed (Call.readsRow id) (Call.removes id)
    (fun step => rouses id step.op step.before) trace

theorem StoredCluster.isTombstone_iff {row : StoredCluster} : row.isTombstone = true ↔
      row.desired = .terminated ∧
        (row.observedState = none ∨ row.observedState = some .terminated) := by
  have gone : observedGone row.observedState = true ↔
      row.observedState = none ∨ row.observedState = some .terminated := by
    rcases row.observedState with _ | state
    · simp [observedGone]
    · cases state <;> simp [observedGone]
  simp [StoredCluster.isTombstone, gone]

theorem Buried.exec {platform : Platform Provider} {thread : ℕ} {call : Call}
    {before after : World Provider} {answer : call.Res} (buried : Buried id before)
    (answered : exec platform thread call before = some (answer, after))
    (unroused : rouses id call before = false) : Buried id after := by
  intro row found
  cases rowStep_exec answered found with
  | posted spec =>
    rcases stored : before.store.clusters.find? id with _ | previous
    · simp [rouses, stored] at unroused
    · exact buried previous stored
  | @flipped previous desired stored =>
    have dead : desired = .terminated := by simpa [rouses] using unroused
    have tombstone := buried previous stored
    rw [StoredCluster.isTombstone_iff] at tombstone ⊢
    exact ⟨dead, tombstone.2⟩
  | @observed previous state generation stored =>
    have gone : observedGone state = true := by simpa [rouses] using unroused
    have tombstone := buried previous stored
    simp [StoredCluster.isTombstone] at tombstone ⊢
    exact ⟨tombstone.1, gone⟩
  | kept stored _ _ desired observedState =>
    simpa [StoredCluster.isTombstone, desired, observedState] using buried _ stored

section Runs

variable {platform : Platform Provider} {seed : PolicyConfig} {origin : World Provider}
  {admits : PlaneConfig Provider → Actor → Prop}
  {trace : PlaneTrace Provider}
  {config : PlaneConfig Provider}

/--
A row that is removed is terminated and observed gone, in every run in which no
row is roused under a removal that has read it already.
-/
theorem only_tombstones_removed
    (run : (controlPlane platform seed admits).Run (.start origin) trace config)
    (unraced : RemovesUnroused id trace) :
    ∀ step ∈ trace, step.op = .row (.removeCluster id) →
      ∀ row, step.before.store.clusters.find? id = some row →
        row.desired = .terminated ∧
          (row.observedState = none ∨ row.observedState = some .terminated) := by
  intro step stepMem removing row found
  rcases List.append_of_mem stepMem with ⟨earlier, later, split⟩
  have grounds := grounded_step run split
  rw [removing] at grounds
  rcases grounds with ⟨seen, sees, dead⟩
  rw [← StoredCluster.isTombstone_iff]
  refine holds_since_reading run split sees unraced (by simp [removing, Call.removes])
    (Buried id) ?_ ?_ ?_ row found
  · intro before after drifted buried row found
    rw [drifted.find?_eq id] at found
    exact buried row found
  · intro inner unroused answered buried
    exact buried.exec answered unroused
  · intro reading _ _ read stored storedFound
    simp [read] at storedFound
    rw [← storedFound]
    exact dead

end Runs

/-- A purge has read the tombstone when it is purged and the cluster created anew. -/
def purgeAcrossRecreation : List (Move Actor) :=
  [.spawn 0 (.delete none "c1" true), .call 0, .spawn 1 (.delete none "c1" true)] ++
    List.replicate 4 (.call 1) ++ [.spawn 2 (.create none ⟨"c1", headOnly "p"⟩)] ++
    List.replicate 6 (.call 2) ++ [.call 0]

def purgeAlone : List (Move Actor) :=
  inTurn [(.delete none "c1" true, 4)]

theorem only_tombstones_removed_by_single_purge :
    ∃ progress, demoTraffic demoPlatform purgeAlone (storeOf deadRow) = some progress ∧
      ∀ step ∈ progress.trace, step.op = .row (.removeCluster "c1") →
        ∀ row, step.before.store.clusters.find? "c1" = some row →
          row.desired = .terminated ∧
            (row.observedState = none ∨ row.observedState = some .terminated) := by
  have outcome : ∃ progress, demoTraffic demoPlatform purgeAlone (storeOf deadRow) = some progress ∧
      RemovesUnroused "c1" progress.trace := Fallible.exists_of_checked (by decide +kernel)
  rcases outcome with ⟨progress, executed, unraced⟩
  have run := System.execute_run (fun _ _ _ => trivial) executed
  exact ⟨progress, executed, only_tombstones_removed run unraced⟩

/-- The purge that waited removes a row that is desired to run. -/
theorem purge_removes_running_row :
    ∃ progress, demoTraffic demoPlatform purgeAcrossRecreation (storeOf deadRow) = some progress ∧
      ∃ step ∈ progress.trace, step.op.removes "c1" = true ∧
        (step.before.store.clusters.find? "c1").map (·.desired) = some .running := by
  apply Fallible.exists_of_checked
  decide +kernel

end Mobula
