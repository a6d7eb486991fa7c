import Mobula.Grounds

/-!
# Termination is final

A lifecycle command checks the row it read and then writes the desired state unconditionally. A
row that is terminated in between is revived.
-/

namespace Mobula

open Foundation ClusterTable

variable {Provider : Type} {id : ClusterId}

/-- The row of the cluster is terminated. -/
def Terminated (id : ClusterId) (world : World Provider) : Prop :=
  ∃ row, world.store.clusters.find? id = some row ∧ row.desired = .terminated

instance (id : ClusterId) (world : World Provider) : Decidable (Terminated id world) :=
  decidable_of_iff ((world.store.clusters.find? id).any (·.desired = .terminated) = true) (by
    simp [Terminated, Option.any_eq_true])

def Unterminated (id : ClusterId) (world : World Provider) : Prop :=
  ∀ row, world.store.clusters.find? id = some row → row.desired ≠ .terminated

def Call.terminates (id : ClusterId) : Call → Bool
  | .row (.setDesired wanted desired) => wanted = id && desired = .terminated
  | _ => false

def Call.revives (id : ClusterId) : Call → Bool
  | .row (.setDesired wanted desired) => wanted = id && desired ≠ .terminated
  | _ => false

/-- No row is terminated between the reading and the writing of a lifecycle command on it. -/
abbrev RevivesUnterminated (id : ClusterId) (trace : PlaneTrace Provider) : Prop :=
  Foundation.Undisturbed (Call.readsRow id) (Call.revives id) (·.op.terminates id) trace

section Calls

variable {platform : Platform Provider} {thread : ℕ} {call : Call} {before after : World Provider}
  {answer : call.Res}

theorem Unterminated.exec (live : Unterminated id before)
    (answered : exec platform thread call before = some (answer, after))
    (spares : call.terminates id = false) : Unterminated id after := by
  intro row found
  cases rowStep_exec answered found with
  | posted spec =>
    rcases stored : before.store.clusters.find? id with _ | previous
    · simp [upsertedRow]
    · simpa [upsertedRow] using live previous stored
  | flipped desired stored => simpa [Call.terminates, withDesired] using spares
  | @observed previous state generation stored => exact live previous stored
  | kept stored _ _ desired =>
    rw [desired]
    exact live _ stored

theorem Terminated.exec (dead : Terminated id before)
    (answered : exec platform thread call before = some (answer, after))
    (unrevived : call.revives id = false) (unremoved : call.removes id = false) :
    Terminated id after := by
  rcases dead with ⟨previous, stored, terminated⟩
  have stays := stored_exec answered (by rw [stored]; rfl) (ne_removeCluster unremoved)
  rcases Option.isSome_iff_exists.mp stays with ⟨row, found⟩
  refine ⟨row, found, ?_⟩
  cases rowStep_exec answered found with
  | posted spec => simpa [upsertedRow, stored] using terminated
  | flipped desired _ => simpa [Call.revives, withDesired] using unrevived
  | observed state generation stored' =>
    simp [stored] at stored'
    subst stored'
    exact terminated
  | kept stored' _ _ desired =>
    simp [stored] at stored'
    subst stored'
    rw [desired]
    exact terminated

end Calls

section Runs

variable {platform : Platform Provider} {seed : PolicyConfig} {origin : World Provider}
  {admits : PlaneConfig Provider → Actor → Prop}
  {trace earlier later : PlaneTrace Provider}
  {config : PlaneConfig Provider} {step : PlaneStep Provider}

section

variable (run : (controlPlane platform seed admits).Run (.start origin) trace config)
  (unraced : RevivesUnterminated id trace) (split : trace = earlier ++ step :: later)

include run unraced split

theorem unterminated_when_revived
    (reviving : step.op.revives id = true) : Unterminated id step.before := by
  have grounds := grounded_step run split
  have writes : ∃ desired, desired ≠ .terminated ∧ step.op = .row (.setDesired id desired) := by
    unfold Call.revives at reviving
    split at reviving
    · next wanted desired opEq =>
        simp at reviving
        exact ⟨desired, reviving.2, by rw [opEq, reviving.1]⟩
    · cases reviving
  rcases writes with ⟨desired, lively, opEq⟩
  rw [opEq] at grounds
  rcases grounds with impossible | ⟨row, sees, alive⟩
  · exact absurd impossible lively
  · refine holds_since_reading run split sees unraced reviving (Unterminated id) ?_ ?_ ?_
    · intro before after drifted live row found
      rw [drifted.find?_eq id] at found
      exact live row found
    · intro inner spares answered live
      exact live.exec answered spares
    · intro reading _ _ found stored storedFound
      simp [found] at storedFound
      rw [← storedFound]
      exact alive

theorem terminated_step
    (unremoved : step.op.removes id = false) (dead : Terminated id step.before) :
    Terminated id step.after := by
  refine dead.exec (run.exec_of_mem (by simp [split])) ?_ unremoved
  rw [← Bool.not_eq_true]
  intro reviving
  rcases dead with ⟨row, found, terminated⟩
  exact unterminated_when_revived run unraced split reviving row found terminated

end

/--
Once a row is terminated it stays so until it is removed, in every run in which
no row is terminated under a lifecycle command that has read it already.
-/
theorem termination_final
    (run : (controlPlane platform seed admits).Run (.start origin) trace config)
    (unraced : RevivesUnterminated id trace) (split : trace = earlier ++ step :: later)
    (dead : Terminated id step.before)
    (unremoved : ∀ inner ∈ step :: later, inner.op.removes id = false) :
    Terminated id config.state := by
  rcases run.at_step split with ⟨_, _, _, _, _, _, rest⟩
  refine rest.preserves (Terminated id) ?_ ?_
    (terminated_step run unraced split (unremoved step (by simp)) dead)
  · rintro before after drifted ⟨row, found, terminated⟩
    exact ⟨row, (drifted.find?_eq id).trans found, terminated⟩
  · intro front inner back window _ dead
    have innerSplit : trace = (earlier ++ step :: front) ++ inner :: back := by
      simp [split, window]
    exact terminated_step run unraced innerSplit (unremoved inner (by simp [window])) dead

end Runs

def runningRow : StoredCluster :=
  { postedHead with observedState := some .running, observedGeneration := 1 }

/-- A suspension has read the row when the cluster is deleted. -/
def suspendAcrossDelete : List (Move Actor) :=
  [.spawn 0 (.lifecycle none "c1" .suspend), .call 0, .call 0,
    .spawn 1 (.delete none "c1" false), .call 1, .call 1, .call 1, .call 1, .call 0]

def deleteThenSuspend : List (Move Actor) :=
  inTurn [(.delete none "c1" false, 4), (.lifecycle none "c1" .suspend, 4)]

theorem termination_final_without_race :
    ∃ progress, demoTraffic demoPlatform deleteThenSuspend (storeOf runningRow) = some progress ∧
      Terminated "c1" progress.config.state := by
  have outcome : ∃ progress,
      demoTraffic demoPlatform deleteThenSuspend (storeOf runningRow) = some progress ∧
      RevivesUnterminated "c1" progress.trace ∧
      (∃ step ∈ progress.trace, Terminated "c1" step.before) ∧
      ∀ step ∈ progress.trace, step.op.removes "c1" = false :=
    Fallible.exists_of_checked (by decide +kernel)
  rcases outcome with ⟨progress, executed, unraced, ⟨step, stepMem, dead⟩, unremoved⟩
  rcases List.append_of_mem stepMem with ⟨earlier, later, split⟩
  have run := System.execute_run (fun _ _ _ => trivial) executed
  refine ⟨progress, executed, termination_final run unraced split dead ?_⟩
  intro inner innerMem
  exact unremoved inner (by rw [split]; exact List.mem_append_right _ innerMem)

/-- A row that was terminated is suspended at the end, and was never removed. -/
theorem suspend_revives_terminated :
    ∃ progress, demoTraffic demoPlatform suspendAcrossDelete (storeOf runningRow) = some progress ∧
      (∃ step ∈ progress.trace, Terminated "c1" step.before) ∧
      (∀ step ∈ progress.trace, step.op.removes "c1" = false) ∧
      ¬Terminated "c1" progress.config.state := by
  apply Fallible.exists_of_checked
  decide +kernel

end Mobula
