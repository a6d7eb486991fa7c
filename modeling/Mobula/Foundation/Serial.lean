import Mobula.Foundation.Program

/-!
# Programs one after the other

A serial run lets every program finish before the next one starts. Between two
of them the environment may change the state. What one turn does is given by
running its program alone.
-/

namespace Foundation

open List

/-- A whole activity, with the states around it. -/
structure Turn (S ρ : Type) where
  role : ρ
  before : S
  after : S

variable {Op : Type} {Res : Op → Type} {S ρ : Type}

/-- A machine, the program of every role, and what may change between two programs. -/
structure SerialSystem {Op : Type} (Res : Op → Type) (S ρ : Type) where
  exec : (op : Op) → S → Option (Res op × S)
  behaviour : ρ → Prog Res Unit
  drift : S → S → Prop

namespace SerialSystem

variable (sys : SerialSystem Res S ρ)

/-- The states a serial run leads to, with the turns taken. -/
inductive Serial (origin : S) : List (Turn S ρ) → S → Prop
  | refl : Serial origin [] origin
  | drift {turns state state'} (serial : Serial origin turns state)
      (moved : sys.drift state state') : Serial origin turns state'
  | turn {turns state state'} (role : ρ) (serial : Serial origin turns state)
      (ran : (sys.behaviour role).Yields sys.exec state () state') :
      Serial origin (turns ++ [⟨role, state, state'⟩]) state'

def runAll : List ρ → S → Option S
  | [], state => some state
  | role :: roles, state =>
    ((sys.behaviour role).eval sys.exec state).bind fun outcome => runAll roles outcome.state

/-- Run programs in order and keep the turns. -/
def trackAll : List ρ → S → Option (List (Turn S ρ) × S)
  | [], state => some ([], state)
  | role :: roles, state =>
    ((sys.behaviour role).eval sys.exec state).bind fun outcome =>
      (trackAll roles outcome.state).map fun later =>
        (⟨role, state, outcome.state⟩ :: later.1, later.2)

variable {sys} {origin final : S} {roles : List ρ} {turns : List (Turn S ρ)} {turn : Turn S ρ}

theorem Serial.trans {middle : S} {first second : List (Turn S ρ)}
    (earlier : sys.Serial origin first middle) (later : sys.Serial middle second final) :
    sys.Serial origin (first ++ second) final := by
  induction later with
  | refl => simpa using earlier
  | drift _ moved ih => exact .drift ih moved
  | turn role _ ran ih =>
    rw [← append_assoc]
    exact .turn role ih ran

theorem serial_of_runAll (ran : sys.runAll roles origin = some final) :
    ∃ turns, sys.Serial origin turns final ∧ turns.map Turn.role = roles := by
  induction roles generalizing origin with
  | nil =>
    cases ran
    exact ⟨[], .refl, rfl⟩
  | cons role roles ih =>
    rw [runAll, Option.bind_eq_some_iff] at ran
    rcases ran with ⟨outcome, evaluated, rest⟩
    rcases ih rest with ⟨turns, serial, rolesEq⟩
    have first : sys.Serial origin [⟨role, origin, outcome.state⟩] outcome.state :=
      .turn role .refl ⟨outcome.events, evaluated⟩
    refine ⟨⟨role, origin, outcome.state⟩ :: turns, first.trans serial, ?_⟩
    simp [rolesEq]

theorem serial_of_trackAll {tracked : List (Turn S ρ) × S}
    (ran : sys.trackAll roles origin = some tracked) : sys.Serial origin tracked.1 tracked.2 := by
  induction roles generalizing origin tracked with
  | nil =>
    cases ran
    exact .refl
  | cons role roles ih =>
    rw [trackAll, Option.bind_eq_some_iff] at ran
    rcases ran with ⟨outcome, evaluated, rest⟩
    rcases Option.map_eq_some_iff.mp rest with ⟨later, continued, rfl⟩
    have first : sys.Serial origin [⟨role, origin, outcome.state⟩] outcome.state :=
      .turn role .refl ⟨outcome.events, evaluated⟩
    exact first.trans (ih continued)

/-- A property kept by the environment and by every turn holds at the end and after every turn. -/
theorem Serial.preserves (serial : sys.Serial origin turns final) (invariant : S → Prop)
    (drifts : ∀ before after, sys.drift before after → invariant before → invariant after)
    (steps : ∀ turn ∈ turns, (sys.behaviour turn.role).Yields sys.exec turn.before () turn.after →
      invariant turn.before → invariant turn.after) (holds : invariant origin) :
    invariant final ∧ ∀ turn ∈ turns, invariant turn.before ∧ invariant turn.after := by
  induction serial with
  | refl => exact ⟨holds, by simp⟩
  | drift _ moved ih =>
    rcases ih steps with ⟨now, always⟩
    exact ⟨drifts _ _ moved now, always⟩
  | @turn turns state state' role _ ran ih =>
    rcases ih fun turn turnMem => steps turn (mem_append_left _ turnMem) with ⟨now, always⟩
    have next := steps ⟨role, state, state'⟩ (by simp) ran now
    refine ⟨next, ?_⟩
    intro turn turnMem
    rcases mem_append.mp turnMem with old | new
    · exact always turn old
    · rcases mem_singleton.mp new with rfl
      exact ⟨now, next⟩

theorem Serial.ran_of_mem (serial : sys.Serial origin turns final) (turnMem : turn ∈ turns) :
    (sys.behaviour turn.role).Yields sys.exec turn.before () turn.after := by
  induction serial with
  | refl => cases turnMem
  | drift _ _ ih => exact ih turnMem
  | turn role _ ran ih =>
    rcases mem_append.mp turnMem with old | new
    · exact ih old
    · rcases mem_singleton.mp new with rfl
      exact ran

/-- What follows a turn is a serial run from where the turn ended. -/
theorem Serial.after_turn {earlier later : List (Turn S ρ)}
    (serial : sys.Serial origin (earlier ++ turn :: later) final) :
    sys.Serial turn.after later final := by
  generalize whole : earlier ++ turn :: later = turns at serial
  induction serial generalizing later with
  | refl => simp at whole
  | drift _ moved ih => exact .drift (ih whole) moved
  | turn role _ ran ih =>
    rcases eq_nil_or_concat later with rfl | ⟨inner, last, rfl⟩
    · have lastEq := (append_inj' whole rfl).2
      rw [singleton_inj] at lastEq
      rw [lastEq]
      exact .refl
    · rw [concat_eq_append, ← cons_append, ← append_assoc] at whole
      rcases append_inj' whole rfl with ⟨front, lastEq⟩
      rw [singleton_inj] at lastEq
      simp [lastEq]
      exact .turn role (ih front) ran

end SerialSystem

end Foundation
