import Mobula.Foundation.Program

/-!
# Running a program amid interference

Before each of its calls, others may replace the state a program runs on by any state that a
relation permits. Running alone is the case of no interference.
-/

namespace Foundation

namespace Prog

variable {Op : Type} {Res : Op → Type} {S α β : Type}

/-- A program ran to its end while others changed the state before each of its calls. -/
inductive Amid (exec : (op : Op) → S → Option (Res op × S)) (interferes : S → S → Prop) :
    Prog Res α → S → List (Event Res) → α → S → Prop
  | ret (value : α) (state : S) : Amid exec interferes (.ret value) state [] value state
  | call {op next state seen state' answer events value final} (moved : interferes state seen)
      (answered : exec op seen = some (answer, state'))
      (rest : Amid exec interferes (next answer) state' events value final) :
      Amid exec interferes (.call op next) state (⟨op, answer⟩ :: events) value final

variable {exec : (op : Op) → S → Option (Res op × S)} {interferes : S → S → Prop} {state final : S}
  {events : List (Event Res)} {value : α} {program : Prog Res α} {permitted : Op → Prop}

theorem Amid.of_invoke {op : Op} {rest : Res op → Prog Res α}
    (ran : (Prog.invoke op >>= rest).Amid exec interferes state events value final) :
    ∃ seen answer state' later, interferes state seen ∧ exec op seen = some (answer, state') ∧
      events = ⟨op, answer⟩ :: later ∧
      (rest answer).Amid exec interferes state' later value final := by
  rw [invoke_bind] at ran
  cases ran with
  | call moved answered rest => exact ⟨_, _, _, _, moved, answered, rfl, rest⟩

theorem Amid.of_bind {rest : α → Prog Res β} {result : β}
    (ran : (program >>= rest).Amid exec interferes state events result final) :
    ∃ earlier value middle later, events = earlier ++ later ∧
      program.Amid exec interferes state earlier value middle ∧
      (rest value).Amid exec interferes middle later result final := by
  induction program generalizing state events with
  | ret value => exact ⟨[], value, state, events, rfl, .ret value state, ran⟩
  | call op next ih =>
    rw [call_bind] at ran
    cases ran with
    | call moved answered continued =>
      rcases ih _ continued with ⟨earlier, value, middle, later, rfl, first, second⟩
      exact ⟨_ :: earlier, value, middle, later, rfl, .call moved answered first, second⟩

/-- A program that obeys a discipline makes allowed calls only, when answers are as assumed. -/
theorem Obeys.amid {assumed : List (Event Res) → (op : Op) → Res op → Prop}
    {allowed : List (Event Res) → Op → Prop} {post : List (Event Res) → α → Prop}
    {past : List (Event Res)} (obeys : program.Obeys assumed allowed post past)
    (ran : program.Amid exec interferes state events value final)
    (answers : ∀ past op before seen answer after, interferes before seen →
      exec op seen = some (answer, after) → assumed past op answer)
    {earlier later : List (Event Res)} {event : Event Res}
    (split : events = earlier ++ event :: later) : allowed (past ++ earlier) event.op := by
  induction ran generalizing past earlier with
  | ret value state => simp at split
  | @call op next before seen after answer events value final moved answered rest ih =>
    cases earlier with
    | nil =>
      simp at split
      rw [← split.1, List.append_nil]
      exact obeys.1
    | cons first others =>
      simp at split
      rcases split with ⟨rfl, split⟩
      have admitted := answers past op before seen answer after moved answered
      simpa using ih (obeys.2 answer admitted) split

theorem Within.amid (within : program.Within permitted)
    (ran : program.Amid exec interferes state events value final) :
    ∀ event ∈ events, permitted event.op := by
  induction ran with
  | ret value state => simp
  | call moved answered rest ih =>
    intro event eventMem
    rcases List.mem_cons.mp eventMem with rfl | later
    · exact within.1
    · exact ih (within.2 _) event later

/-- A program that ran alone ran amid any interference that may also do nothing. -/
theorem amid_of_eval {outcome : Outcome Res S α} (still : ∀ state, interferes state state)
    (ran : program.eval exec state = some outcome) :
    program.Amid exec interferes state outcome.events outcome.value outcome.state := by
  induction program generalizing state outcome with
  | ret value =>
    simp [eval_ret] at ran
    subst ran
    exact .ret value state
  | call op next ih =>
    rcases answered : exec op state with _ | result
    · simp [eval, answered] at ran
    rcases result with ⟨answer, after⟩
    simp [eval_call answered] at ran
    rcases ran with ⟨later, continued, rfl⟩
    exact .call (still state) answered (ih answer continued)

/-- Interference before a program that makes a call is interference before its first call. -/
theorem Amid.after {between : S} (ran : program.Amid exec interferes between events value final)
    (called : events ≠ []) (moved : interferes state between)
    (transitive : ∀ {first second third : S}, interferes first second →
      interferes second third → interferes first third) :
    program.Amid exec interferes state events value final := by
  cases ran with
  | ret => exact absurd rfl called
  | call seen answered rest => exact .call (transitive moved seen) answered rest

/--
Interference that is permitted where an invariant holds may be taken as permitted
throughout a program whose calls keep the invariant.
-/
theorem Amid.mono {wider : S → S → Prop} (within : program.Within permitted) (invariant : S → Prop)
    (moves : ∀ before seen, invariant before → interferes before seen →
      wider before seen ∧ invariant seen)
    (kept : ∀ op before answer after, permitted op → exec op before = some (answer, after) →
      invariant before → invariant after) (holds : invariant state)
    (ran : program.Amid exec interferes state events value final) :
    program.Amid exec wider state events value final ∧ invariant final := by
  induction ran with
  | ret value state => exact ⟨.ret value state, holds⟩
  | @call op next before seen after answer events value final moved answered rest ih =>
    rcases moves before seen holds moved with ⟨widened, seenHolds⟩
    have later := ih (within.2 answer) (kept op seen answer after within.1 answered seenHolds)
    exact ⟨.call widened answered later.1, later.2⟩

end Prog

end Foundation
