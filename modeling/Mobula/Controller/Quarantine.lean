import Mobula.Controller.Reach
import Mobula.Foundation.Interference
import Mobula.Provision.Demo

/-!
# Quarantine blocks actuation

While the quarantine flag is set, passes over clusters and pools observe and record only. The
tombstone sweep of a tick does not look at the flag: it removes the network policies of every
tombstone it finds.
-/

namespace Mobula

open Foundation List

variable {Provider : Type} {platform : Platform Provider} {thread : ℕ}

/-- The store stays quarantined. -/
def UnderQuarantine (_ world : World Provider) : Prop :=
  world.store.quarantined = true

def flagSet (_ : EventLog) : (call : Call) → call.Res → Prop
  | .control .isQuarantined, answer => answer = .ok true
  | _, _ => True

theorem flagSet_of_exec (past : EventLog) (call : Call) (before seen : World Provider)
    (answer : call.Res) (after : World Provider) (quarantined : UnderQuarantine before seen)
    (answered : exec platform thread call seen = some (answer, after)) :
    flagSet past call answer := by
  cases call with
  | control call =>
    cases call with
    | isQuarantined =>
      simp [exec_isQuarantined] at answered
      rw [flagSet, ← answered.1, quarantined]
    | _ => trivial
  | _ => trivial

/-- A program that never actuates when the flag is set. -/
abbrev Observing {α : Type} (program : Program α) : Prop :=
  ∀ past, program.Obeys flagSet (fun _ call => call.mutates = false) (fun _ _ => True) past

variable {α : Type} {program : Program α} {world final : World Provider}
  {events : EventLog} {now retention : ℕ} {rows : List StoredCluster}

theorem Observing.quiet (observing : Observing program) {value : α}
    (ran : program.Amid (exec platform thread) UnderQuarantine world events value final) :
    ∀ event ∈ events, event.op.mutates = false := by
  intro event eventMem
  rcases append_of_mem eventMem with ⟨earlier, later, split⟩
  exact (observing []).amid ran flagSet_of_exec split

theorem Observing.bind {β : Type} {rest : α → Program β} (first : Observing program)
    (second : ∀ value, Observing (rest value)) : Observing (program >>= rest) :=
  fun past => (first past).bind fun later value _ => second value later

theorem Observing.invoke {call : Call} {rest : call.Res → Program α}
    (harmless : call.mutates = false) (next : ∀ answer, Observing (rest answer)) :
    Observing (Prog.invoke call >>= rest) :=
  fun _ => Prog.Obeys.invoke harmless fun answer _ => next answer _

theorem observing_ret {value : α} : Observing (Prog.ret value : Program α) :=
  fun _ => trivial

theorem observing_of_within {permitted : Call → Prop} (within : program.Within permitted)
    (harmless : ∀ call, permitted call → call.mutates = false) : Observing program :=
  fun _ => (within.obeys fun _ call _ made => harmless call made).mono fun _ _ _ => trivial

theorem Observing.flagged {rest : StoreResult Bool → Program α}
    (quarantined : Observing (rest (.ok true))) : Observing (Calls.isQuarantined >>= rest) := by
  intro past
  refine Prog.Obeys.invoke rfl ?_
  intro answer isSet
  have quarantine : answer = .ok true := isSet
  subst quarantine
  exact quarantined _

theorem reconcileOne_observing (row : StoredCluster) (now : ℕ) :
    Observing (reconcileOne row now) := by
  unfold reconcileOne
  split
  · exact observing_ret
  · refine .invoke rfl ?_
    intro reported
    split
    · exact observing_ret
    · refine .flagged ?_
      refine .invoke rfl ?_
      intro recorded
      cases recorded <;> exact observing_ret

theorem reconcileRows_observing : Observing (reconcileRows now rows) := by
  induction rows with
  | nil => exact observing_ret
  | cons row rows ih =>
    exact (reconcileOne_observing row now).bind fun _ => ih.bind fun _ => observing_ret

theorem reconcileAll_observing : Observing reconcileAll := by
  refine .invoke rfl fun now => ?_
  refine .invoke rfl ?_
  rintro (failure | rows)
  · exact observing_ret
  · exact reconcileRows_observing

theorem reapBeforeSweep_observing : Observing reapBeforeSweep := by
  refine .invoke rfl fun now => ?_
  refine Observing.bind (observing_of_within (reapExpired_calls now) ?_) fun _ => ?_
  · intro call made
    cases made with
    | passive passive => exact mutates_of_passive passive
    | expire id => rfl
  · refine .invoke rfl fun later => ?_
    exact .invoke rfl fun _ => observing_ret

theorem reconcilePool_observing (weightText : ℚ → Numeral) (pool : StoredPool) :
    Observing (reconcilePool weightText pool) := by
  refine (observing_of_within (observePoolRow_observes pool)
    fun _ => PoolObserveCall.harmless).bind ?_
  rintro (failure | done)
  · exact observing_ret
  · exact .flagged observing_ret

theorem reconcilePools_observing (weightText : ℚ → Numeral) :
    Observing (reconcilePools weightText) := by
  have rows (pools : List StoredPool) : Observing (reconcilePoolRows weightText pools) := by
    induction pools with
    | nil => exact observing_ret
    | cons pool pools ih =>
      exact (reconcilePool_observing weightText pool).bind fun _ =>
        ih.bind fun _ => observing_ret
  refine .invoke rfl ?_
  rintro (_ | _)
  · exact observing_ret
  refine .invoke rfl ?_
  rintro (failure | pools)
  · exact observing_ret
  · exact (rows pools).bind fun _ => .flagged observing_ret

theorem reapTerminatedRows_rests
    (alive : ∀ row ∈ rows, isPurgeableTombstone row now retention = false) :
    reapTerminatedRows now retention rows = .ret (.ok []) := by
  induction rows with
  | nil => rfl
  | cons row rows ih =>
    have spared := alive row mem_cons_self
    rw [reapTerminatedRows, if_neg (by simp [spared])]
    exact ih fun other otherMem => alive other (mem_cons_of_mem _ otherMem)

theorem reapTerminatedRows_actuates {value : ReconcileResult (List String)}
    (ran : (reapTerminatedRows now retention rows).Amid (exec platform thread) UnderQuarantine
      world events value final) {row : StoredCluster} (rowMem : row ∈ rows)
    (dead : isPurgeableTombstone row now retention = true) :
    ∃ event ∈ events, event.op.mutates = true := by
  induction rows generalizing world with
  | nil => cases rowMem
  | cons head rows ih =>
    rw [reapTerminatedRows] at ran
    by_cases first : isPurgeableTombstone head now retention = true
    · rw [if_pos first] at ran
      rcases ran.of_invoke with ⟨_, answer, _, later, _, _, rfl, _⟩
      exact ⟨⟨.backend (.reapNetworkPolicies head.id), answer⟩, mem_cons_self, rfl⟩
    · rw [if_neg first] at ran
      rcases mem_cons.mp rowMem with rfl | later
      · exact absurd dead first
      · exact ih ran later

/-- The clock reading and the listing that a sweep starts with, unless the listing fails. -/
def sweepStart : EventLog → Option (ℕ × List StoredCluster)
  | ⟨.process .nowUnix, now⟩ :: ⟨.row .list, .ok rows⟩ :: _ => some (now, rows)
  | _ => none

def Call.reapsIntents : Call → Bool
  | .outbox (.reapIntents _) => true
  | _ => false

/-- What the tombstone sweep of a tick reads, right after the tick has reaped the intents. -/
def sweepReading (events : EventLog) : Option (ℕ × List StoredCluster) :=
  sweepStart (events.dropWhile fun event => !event.op.reapsIntents).tail

theorem ExpireCall.spares {call : Call} (made : ExpireCall call) : call.reapsIntents = false := by
  cases made with
  | passive passive =>
    cases call with
    | outbox call => cases passive
    | _ => rfl
  | expire id => rfl

theorem reapBeforeSweep_ends {interferes : World Provider → World Provider → Prop}
    (ran : reapBeforeSweep.Amid (exec platform thread) interferes world events () final) :
    ∃ expired cut answer, events = expired ++ [⟨.outbox (.reapIntents cut), answer⟩] ∧
      ∀ event ∈ expired, event.op.reapsIntents = false := by
  rcases ran.of_invoke with ⟨_, now, _, _, _, _, rfl, reaping⟩
  rcases reaping.of_bind with ⟨expired, _, _, _, rfl, reaped, stamping⟩
  rcases stamping.of_invoke with ⟨_, later, _, _, _, _, rfl, dropping⟩
  rcases dropping.of_invoke with ⟨_, answer, _, _, _, _, rfl, finished⟩
  cases finished
  refine ⟨⟨.process .nowUnix, now⟩ :: expired ++ [⟨.process .nowUnix, later⟩], _, answer,
    by simp, ?_⟩
  rw [cons_append, forall_mem_cons, forall_mem_append, forall_mem_singleton]
  exact ⟨rfl, fun event eventMem => ((reapExpired_calls now).amid reaped event eventMem).spares,
    rfl⟩

theorem sweepTombstones_quiet_iff (late : EventLog)
    (ran : (sweepTombstones retention).Amid (exec platform thread) UnderQuarantine world events ()
      final) :
    (∀ event ∈ events, event.op.mutates = false) ↔
      ∀ now rows, sweepStart (events ++ late) = some (now, rows) →
        ∀ row ∈ rows, isPurgeableTombstone row now retention = false := by
  rcases ran.of_invoke with ⟨_, now, _, swept, _, _, rfl, rest⟩
  rcases rest.of_bind with ⟨sweep, result, _, after, rfl, reaped, finished⟩
  cases finished
  rcases reaped.of_invoke with ⟨_, listed, _, later, _, _, rfl, reaping⟩
  cases listed with
  | error failure =>
    cases reaping
    constructor
    · rintro _ _ _ impossible
      cases impossible
    · intro _ event eventMem
      simp at eventMem
      rcases eventMem with rfl | rfl <;> rfl
  | ok rows =>
    constructor
    · rintro quiet _ _ same row rowMem
      cases same
      rw [← Bool.not_eq_true]
      intro dead
      rcases reapTerminatedRows_actuates reaping rowMem dead with ⟨event, eventMem, actuates⟩
      rw [quiet event (by simp [eventMem])] at actuates
      cases actuates
    · intro alive event eventMem
      have rests := reapTerminatedRows_rests (alive now rows rfl)
      have nothing : later = [] := by
        simp only [rests] at reaping
        cases reaping
        rfl
      subst nothing
      simp at eventMem
      rcases eventMem with rfl | rfl <;> rfl

/--
Under quarantine, a tick actuates nothing exactly when its sweep lists no
tombstone past the retention window; a pass over the pools never does.
-/
theorem quarantine_blocks_iff {retention : ℕ} {world final world' final' : World Provider}
    {events poolEvents : EventLog} {weightText : ℚ → Numeral} {report : PoolReport}
    (ticked : (tick retention).Amid (exec platform thread) UnderQuarantine world events () final)
    (passed : (reconcilePools weightText).Amid (exec platform thread) UnderQuarantine world'
      poolEvents report final') :
    ((∀ event ∈ events, event.op.mutates = false) ↔
      ∀ now rows, sweepReading events = some (now, rows) →
        ∀ row ∈ rows, isPurgeableTombstone row now retention = false) ∧
    ∀ event ∈ poolEvents, event.op.mutates = false := by
  refine ⟨?_, (reconcilePools_observing weightText).quiet passed⟩
  rcases ticked.of_bind with ⟨early, _, start, rest, rfl, reaped, continued⟩
  rcases continued.of_bind with ⟨sweep, _, stop, late, rfl, swept, reconciled⟩
  rcases reconciled.of_bind with ⟨passEvents, _, _, nothing, rfl, passing, finished⟩
  cases finished
  have before := reapBeforeSweep_observing.quiet reaped
  have after := reconcileAll_observing.quiet passing
  have reading : sweepReading (early ++ (sweep ++ (passEvents ++ []))) =
      sweepStart (sweep ++ passEvents) := by
    rcases reapBeforeSweep_ends reaped with ⟨expired, cut, answer, rfl, spared⟩
    rw [sweepReading, append_assoc, dropWhile_append_of_pos (by simpa using spared)]
    simp [Call.reapsIntents]
  rw [reading, ← sweepTombstones_quiet_iff passEvents swept]
  simp
  constructor
  · intro quiet event eventMem
    exact quiet event (.inr (.inl eventMem))
  · rintro quiet event (early | swept | late)
    · exact before event early
    · exact quiet event swept
    · exact after event late

theorem amid_of_quarantined {outcome : Prog.Outcome Call.Res (World Provider) α}
    (keeps : program.Within fun call => call.keepsCatalog = true)
    (quarantined : world.store.quarantined = true)
    (ran : program.eval (exec platform thread) world = some outcome) :
    program.Amid (exec platform thread) UnderQuarantine world outcome.events outcome.value
      outcome.state := by
  refine (Prog.Amid.mono keeps (fun world => world.store.quarantined = true) ?_ ?_ quarantined
    (Prog.amid_of_eval (fun _ => rfl) ran)).1
  · rintro before _ isSet rfl
    exact ⟨isSet, isSet⟩
  · intro call before answer after keeps answered isSet
    rw [quarantined_exec answered keeps, isSet]

theorem tick_keepsCatalog : (tick retention).Within fun call => call.keepsCatalog = true :=
  (tick_calls retention).mono fun _ => TickCall.keepsCatalog

def quarantinedWorld (row : StoredCluster) : World DemoClusters :=
  demoWorld { storeOf row with quarantined := true }

theorem quarantine_blocks_for_posted_row :
    ∃ ticked passed,
      (tick 0).eval (exec demoPlatform 0) (quarantinedWorld postedHead) =
        some ticked ∧
      (reconcilePools demoPlatform.weightText).eval (exec demoPlatform 0)
        (quarantinedWorld postedHead) = some passed ∧
      (∀ event ∈ ticked.events, event.op.mutates = false) ∧
      ∀ event ∈ passed.events, event.op.mutates = false := by
  have outcome : ((tick 0).eval (exec demoPlatform 0)
      (quarantinedWorld postedHead)).map
        (fun ticked => (sweepReading ticked.events).all fun reading =>
          reading.2.all fun row => !isPurgeableTombstone row reading.1 0) = some true := by
    decide +kernel
  have finishes : ((reconcilePools demoPlatform.weightText).eval (exec demoPlatform 0)
      (quarantinedWorld postedHead)).isSome = true := by
    decide +kernel
  rcases Option.map_eq_some_iff.mp outcome with ⟨ticked, evaluated, alive⟩
  rcases Option.isSome_iff_exists.mp finishes with ⟨passed, poolsEvaluated⟩
  have keeps :
      (reconcilePools demoPlatform.weightText).Within fun call => call.keepsCatalog = true :=
    reconcilePools_calls.mono fun _ => PoolLoopCall.keepsCatalog
  rcases quarantine_blocks_iff (amid_of_quarantined tick_keepsCatalog rfl evaluated)
    (amid_of_quarantined keeps rfl poolsEvaluated) with
    ⟨quiet, poolsQuiet⟩
  refine ⟨ticked, passed, evaluated, poolsEvaluated, quiet.mpr ?_, poolsQuiet⟩
  intro now rows reading row rowMem
  rw [reading] at alive
  simpa using all_eq_true.mp alive row rowMem

/-- The sweep of a quarantined tick removes the network policies of a tombstone. -/
theorem quarantined_sweep_actuates :
    ∃ events final, (tick 0).Amid (exec demoPlatform 0) UnderQuarantine
        (quarantinedWorld deadRow) events () final ∧
      ∃ event ∈ events, event.op.mutates = true := by
  have outcome : ∃ ran, (tick 0).eval (exec demoPlatform 0) (quarantinedWorld deadRow) = some ran ∧
      ∃ event ∈ ran.events, event.op.mutates = true :=
    Fallible.exists_of_checked (by decide +kernel)
  rcases outcome with ⟨ran, evaluated, actuated⟩
  exact ⟨ran.events, ran.state, amid_of_quarantined tick_keepsCatalog rfl evaluated, actuated⟩

end Mobula
