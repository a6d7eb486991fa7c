import Mobula.Controller.IntentKeys
import Mobula.Controller.OutboxOrder
import Mobula.Controller.StaleRestore

/-!
# One set of parameters per intent key

Several passes may actuate a row at once, and the row may change or be removed and posted again
in between. A pass first opens the intent of what it applies, and a record admits one set of
parameters.
-/

namespace Mobula

open Foundation IntentTable List Prog

/-- The key of an apply, and what is applied under it. -/
def Call.actuation : Call → Option (String × ClusterId × ℕ × String)
  | .backend (.apply id spec generation key _) =>
    some (key, id, generation, paramsFingerprint spec)
  | _ => none

/-- An apply comes after the intent of what is applied was opened. -/
def Begun (past : EventLog) (call : Call) : Prop :=
  ∀ key id generation fingerprint,
    call.actuation = some (key, id, generation, fingerprint) → key = intentKeyOf id generation ∧
      ∃ replay, (⟨.outbox (.beginIntent key fingerprint), .ok (.proceed replay)⟩ :
        Event Call.Res) ∈ past

abbrev OpensFirst {α : Type} (past : EventLog) (program : Program α) : Prop :=
  program.Obeys (fun _ _ _ => True) Begun (fun _ _ => True) past

section Discipline

variable {past : EventLog} {call : Call} {now : ℕ}

theorem begun_of_inert (inert : call.actuates = false) : Begun past call := by
  intro key id generation fingerprint applied
  unfold Call.actuation at applied
  split at applied
  · cases inert
  · cases applied

theorem opensFirst_of_inert {α : Type} {program : Program α}
    (inert : program.Within fun call => call.actuates = false) : OpensFirst past program :=
  (inert.obeys fun _ _ _ => begun_of_inert).mono fun _ _ _ => trivial

theorem begun_of_ordered (earlier : EventLog) (ordered : OutboxOrder past call) :
    Begun (earlier ++ past) call := by
  intro key id generation fingerprint applied
  unfold Call.actuation at applied
  split at applied
  · cases applied
    obtain ⟨named, ⟨replay, begun⟩, _⟩ := ordered
    exact ⟨named, replay, mem_append_right _ begun⟩
  · cases applied

theorem reconcileAllAt_opensFirst : OpensFirst past (reconcileAllAt now) := by
  have passes (rows : List StoredCluster) : ∀ past, OpensFirst past (reconcileRows now rows) := by
    induction rows with
    | nil => exact fun _ => trivial
    | cons row rows ih =>
      intro past
      have first : OpensFirst past (reconcileOne row now) := by
        simpa using (reconcileOne_ordered row now).extend fun _ _ => begun_of_ordered past
      exact first.bind fun past _ _ => (ih past).bind fun _ _ _ => trivial
  refine Obeys.invoke (begun_of_inert rfl) ?_
  rintro (failure | rows) _
  · trivial
  · exact passes rows _

theorem tick_opensFirst {retention : ℕ} : OpensFirst past (tick retention) := by
  have early : reapBeforeSweep.Within fun call => call.actuates = false := by
    refine Within.invoke rfl fun now => ((reapExpired_calls now).mono ?_).bind fun _ =>
      Within.invoke rfl fun _ => Within.invoke rfl fun _ => trivial
    rintro _ (reads | _)
    · exact actuates_of_not_mutates (mutates_of_passive reads)
    · rfl
  refine (opensFirst_of_inert early).bind fun past _ _ => ?_
  refine (opensFirst_of_inert (sweepTombstones_spares retention)).bind fun past _ _ => ?_
  have pass : OpensFirst past reconcileAll :=
    Obeys.invoke (begun_of_inert rfl) fun _ _ => reconcileAllAt_opensFirst
  exact pass.bind fun _ _ _ => trivial

theorem Actor.opensFirst (seed : PolicyConfig) (actor : Actor) :
    OpensFirst [] (actor.program seed) := by
  cases actor with
  | reconcileAll now => exact discard_obeys reconcileAllAt_opensFirst
  | tick retention => exact tick_opensFirst
  | _ =>
    refine opensFirst_of_inert ((Actor.program_calls seed _).mono fun call made => ?_)
    -- the other threads never apply anything
    cases made <;> first
    | exact actuates_of_not_mutates (mutates_of_passive ‹_›)
    | rfl
    | (next made => cases made <;> rfl)

end Discipline

section Runs

variable {Provider : Type} {platform : Platform Provider} {seed : PolicyConfig}
  {origin : World Provider} {trace : PlaneTrace Provider}
  {config : PlaneConfig Provider} {key : String}
  {step first second : PlaneStep Provider}

/-- The record of the key says what it said before. -/
def KeepsRecord (key : String) (before after : World Provider) : Prop :=
  ∀ fingerprint, fingerprintAt before.store.intents key = some fingerprint →
    fingerprintAt after.store.intents key = some fingerprint

variable
  (run : (controlPlane platform seed fun _ _ => True).Run (.start origin) trace config)
  (unreaped : ∀ step ∈ trace, fingerprintAt step.before.store.intents key ≠ none →
    fingerprintAt step.after.store.intents key ≠ none)

include run unreaped

theorem keepsRecord_of_step (stepMem : step ∈ trace) : KeepsRecord key step.before step.after := by
  intro fingerprint held
  have answered := run.exec_of_mem stepMem
  obtain ⟨kept, held'⟩ := Option.ne_none_iff_exists'.mp (unreaped step stepMem (by simp [held]))
  rw [intents_exec answered] at held' ⊢
  rcases fingerprintAt_intentsAfter held' with old | opened
  · rw [held', ← old, held]
  · refine fingerprintAt_kept (fun time sweeping => ?_) held
    rw [sweeping] at opened
    cases opened

theorem recorded_at_apply {id : ClusterId} {generation : ℕ} {fingerprint : String}
    (stepMem : step ∈ trace)
    (applied : step.op.actuation = some (key, id, generation, fingerprint)) :
    key = intentKeyOf id generation ∧
      fingerprintAt step.before.store.intents key = some fingerprint := by
  obtain ⟨earlier, later, rfl⟩ := append_of_mem stepMem
  obtain ⟨named, replay, begun⟩ := run.allowed_step (fun _ _ _ => True) (fun _ => Begun)
    (fun _ _ => trivial) (fun _ actor _ => actor.opensFirst seed) rfl _ _ _ _ applied
  obtain ⟨⟨_, _, _, _, _, _⟩, openingMem, _, event⟩ := mem_own.mp begun
  cases event
  have answered := run.exec_of_mem (mem_append_left _ openingMem)
  obtain ⟨front, middle, rfl⟩ := append_of_mem openingMem
  rw [append_assoc, cons_append] at run unreaped
  refine ⟨named, run.between (fun world : World Provider =>
    fingerprintAt world.store.intents key = some fingerprint) ?_ ?_ ?_⟩
  · intro before after drifted held
    rwa [drifted.intents]
  · intro _ _ _ window _
    exact keepsRecord_of_step run unreaped (by simp [window]) _
  · simp [controlPlane, exec, execOutbox] at answered
    rw [← answered.2]
    exact fingerprintAt_of_proceed answered.1

/--
Whatever runs in parallel, two applies under one key concern the same cluster and
generation and have the same parameters, unless the record was reaped in between.
-/
theorem one_actuation_per_key (firstMem : first ∈ trace) (secondMem : second ∈ trace)
    (firstKey : first.op.actuation.map Prod.fst = some key)
    (secondKey : second.op.actuation.map Prod.fst = some key) :
    first.op.actuation = second.op.actuation := by
  obtain ⟨⟨_, id, generation, fingerprint⟩, applied, rfl⟩ := Option.map_eq_some_iff.mp firstKey
  obtain ⟨⟨_, id', generation', fingerprint'⟩, applied', rfl⟩ := Option.map_eq_some_iff.mp secondKey
  obtain ⟨named, recorded⟩ := recorded_at_apply run unreaped firstMem applied
  obtain ⟨named', recorded'⟩ := recorded_at_apply run unreaped secondMem applied'
  obtain ⟨rfl, rfl⟩ := intentKeyOf_injective (named.symm.trans named')
  rw [applied, applied']
  rcases run.comparable (KeepsRecord _) (fun _ _ held => held)
      (fun early late _ held => late _ (early _ held))
      (fun _ _ drifted _ held => by rwa [drifted.intents])
      (fun _ innerMem => keepsRecord_of_step run unreaped innerMem) firstMem secondMem
    with forward | backward
  · rw [Option.some.inj ((forward _ recorded).symm.trans recorded')]
  · rw [Option.some.inj ((backward _ recorded').symm.trans recorded)]

end Runs

def bothPasses : Option (Progress Call.Res (World DemoClusters) Actor) :=
  demoTraffic unavailablePlatform (inTurn [(.reconcileAll 0, 8), (.reconcileAll 0, 8)])
    (storeOf postedHead)

theorem one_actuation_per_key_for_two_passes :
    ∃ progress, bothPasses = some progress ∧
      ∃ first ∈ progress.trace, ∃ second ∈ progress.trace, first.thread ≠ second.thread ∧
        first.op.actuation = second.op.actuation ∧ first.op.actuation ≠ none := by
  have outcome : ∃ progress, bothPasses = some progress ∧
      (∀ step ∈ progress.trace, fingerprintAt step.before.store.intents "c1/1" ≠ none →
        fingerprintAt step.after.store.intents "c1/1" ≠ none) ∧
      ∃ first ∈ progress.trace, ∃ second ∈ progress.trace, first.thread ≠ second.thread ∧
        first.op.actuation.map Prod.fst = some "c1/1" ∧
        second.op.actuation.map Prod.fst = some "c1/1" :=
    Fallible.exists_of_checked (by decide +kernel)
  obtain ⟨progress, executed, unreaped, first, firstMem, second, secondMem, differ, key, key'⟩ :=
    outcome
  have run := System.execute_run (fun _ _ _ => trivial) executed
  refine ⟨progress, executed, first, firstMem, second, secondMem, differ,
    one_actuation_per_key run unreaped firstMem secondMem key key', ?_⟩
  intro absent
  simp [absent] at key

end Mobula
