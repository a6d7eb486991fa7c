import Mathlib.Logic.Basic

/-!
# Programs over an interface of calls

A program is a tree of calls: a node names the operation it invokes and continues with whatever
answer it receives. `Prog.eval` runs it alone against a machine, `Prog.Obeys` states what it
may do next after a given history of its own calls, and `Prog.Within` bounds the operations
that occur anywhere in it.
-/

namespace Foundation

/-- A program that calls operations and is resumed with their answers. -/
inductive Prog {Op : Type} (Res : Op → Type) (α : Type) : Type where
  | ret (value : α)
  | call (op : Op) (next : Res op → Prog Res α)

/-- A call with its answer. -/
structure Event {Op : Type} (Res : Op → Type) where
  op : Op
  answer : Res op

namespace Prog

variable {Op : Type} {Res : Op → Type} {α β γ : Type}

def bind (program : Prog Res α) (rest : α → Prog Res β) : Prog Res β :=
  match program with
  | .ret value => rest value
  | .call op next => .call op (fun answer => (next answer).bind rest)

instance : Monad (Prog Res) where
  pure := Prog.ret
  bind := Prog.bind

def invoke (op : Op) : Prog Res (Res op) :=
  .call op .ret

@[simp]
theorem pure_eq_ret (value : α) : (pure value : Prog Res α) = .ret value := rfl

@[simp]
theorem ret_bind (value : α) (rest : α → Prog Res β) :
    ((Prog.ret value : Prog Res α) >>= rest) = rest value := rfl

@[simp]
theorem call_bind (op : Op) (next : Res op → Prog Res α) (rest : α → Prog Res β) :
    (Prog.call op next >>= rest) = .call op (fun answer => next answer >>= rest) := rfl

@[simp]
theorem invoke_bind (op : Op) (rest : Res op → Prog Res β) :
    (Prog.invoke op >>= rest) = .call op rest := rfl

theorem bind_ret (program : Prog Res α) : program >>= Prog.ret = program := by
  induction program with
  | ret value => rfl
  | call op next ih =>
    rw [call_bind]
    exact congrArg (Prog.call op) (funext ih)

theorem bind_assoc (program : Prog Res α) (first : α → Prog Res β) (second : β → Prog Res γ) :
    (program >>= first) >>= second = program >>= fun value => first value >>= second := by
  induction program with
  | ret value => rfl
  | call op next ih =>
    simp only [call_bind]
    exact congrArg (Prog.call op) (funext ih)

instance : LawfulMonad (Prog Res) :=
  LawfulMonad.mk' (Prog Res) bind_ret (fun _ _ => rfl) bind_assoc

structure Outcome (Res : Op → Type) (S α : Type) where
  value : α
  state : S
  events : List (Event Res)

variable {S : Type}

def eval (exec : (op : Op) → S → Option (Res op × S)) :
    Prog Res α → S → Option (Outcome Res S α)
  | .ret value, state => some ⟨value, state, []⟩
  | .call op next, state =>
    (exec op state).bind fun answered =>
      ((next answered.1).eval exec answered.2).map fun outcome =>
        ⟨outcome.value, outcome.state, ⟨op, answered.1⟩ :: outcome.events⟩

variable {exec : (op : Op) → S → Option (Res op × S)}

@[simp]
theorem eval_ret (value : α) (state : S) :
    (Prog.ret value : Prog Res α).eval exec state = some ⟨value, state, []⟩ := rfl

variable {op : Op} {state state' middle final : S} {answer : Res op} {rest : Res op → Prog Res α}
  {program : Prog Res α} {value : α} {result : β} {next : Res op → Prog Res α}

theorem eval_call (answered : exec op state = some (answer, state')) :
    (Prog.call op next).eval exec state =
      ((next answer).eval exec state').map fun outcome =>
        ⟨outcome.value, outcome.state, ⟨op, answer⟩ :: outcome.events⟩ := by
  simp [eval, answered]

/-- A program that starts with a call runs as the one that knows the answer already. -/
theorem eval_invoke (answered : exec op state = some (answer, state')) :
    (Prog.invoke op >>= rest).eval exec state =
      (Prog.invoke op >>= fun _ => rest answer).eval exec state := by
  simp [invoke_bind, eval, answered]

theorem eval_bind (program : Prog Res α) (rest : α → Prog Res β) (state : S) :
    (program >>= rest).eval exec state =
      (program.eval exec state).bind fun first =>
        ((rest first.value).eval exec first.state).map fun second =>
          ⟨second.value, second.state, first.events ++ second.events⟩ := by
  induction program generalizing state with
  | ret value => simp
  | call op next ih =>
    simp only [call_bind, eval, ih]
    rcases exec op state with _ | answered
    · rfl
    simp
    rcases (next answered.1).eval exec answered.2 with _ | first
    · rfl
    · simp [Function.comp_def]

theorem eval_bind_eq_some {rest : α → Prog Res β} {outcome : Outcome Res S β} :
    (program >>= rest).eval exec state = some outcome ↔
      ∃ first second, program.eval exec state = some first ∧
        (rest first.value).eval exec first.state = some second ∧
        outcome = ⟨second.value, second.state, first.events ++ second.events⟩ := by
  rw [eval_bind]
  constructor
  · intro finished
    rcases ran : program.eval exec state with _ | first
    · simp [ran] at finished
    rcases continued : (rest first.value).eval exec first.state with _ | second
    · simp [ran, continued] at finished
    refine ⟨first, second, rfl, continued, ?_⟩
    simpa [ran, continued] using finished.symm
  · rintro ⟨first, second, ran, continued, rfl⟩
    simp [ran, continued]

/-- Running alone, the program returns a value and leaves a state. -/
def Yields (exec : (op : Op) → S → Option (Res op × S)) (program : Prog Res α) (state : S)
    (value : α) (final : S) : Prop :=
  ∃ events, program.eval exec state = some ⟨value, final, events⟩

theorem Yields.ret :
    (Prog.ret value : Prog Res α).Yields exec state value state :=
  ⟨[], rfl⟩

theorem Yields.call (answered : exec op state = some (answer, middle))
    (rest : (next answer).Yields exec middle value final) :
    (Prog.call op next).Yields exec state value final := by
  rcases rest with ⟨events, ran⟩
  refine ⟨⟨op, answer⟩ :: events, ?_⟩
  simp [eval_call answered, ran]

theorem Yields.invoke (answered : exec op state = some (answer, middle))
    (continued : (rest answer).Yields exec middle value final) :
    (Prog.invoke op >>= rest).Yields exec state value final :=
  Yields.call answered continued

theorem yields_invoke (answered : exec op state = some (answer, final)) :
    (Prog.invoke op : Prog Res (Res op)).Yields exec state answer final :=
  Yields.call answered .ret

theorem Yields.bind {rest : α → Prog Res β} (first : program.Yields exec state value middle)
    (second : (rest value).Yields exec middle result final) :
    (program >>= rest).Yields exec state result final := by
  rcases first with ⟨before, ran⟩
  rcases second with ⟨after, continued⟩
  refine ⟨before ++ after, ?_⟩
  rw [eval_bind_eq_some]
  exact ⟨_, _, ran, continued, rfl⟩

theorem Yields.of_bind {rest : α → Prog Res β}
    (ran : (program >>= rest).Yields exec state result final) :
    ∃ value middle, program.Yields exec state value middle ∧
      (rest value).Yields exec middle result final := by
  rcases ran with ⟨events, evaluated⟩
  rcases eval_bind_eq_some.mp evaluated with ⟨first, second, ran, continued, outcome⟩
  cases outcome
  exact ⟨first.value, first.state, ⟨first.events, ran⟩, ⟨second.events, continued⟩⟩

theorem Yields.of_invoke (ran : (Prog.invoke op >>= rest).Yields exec state value final) :
    ∃ answer middle, exec op state = some (answer, middle) ∧
      (rest answer).Yields exec middle value final := by
  rcases ran with ⟨events, evaluated⟩
  rw [invoke_bind, eval, Option.bind_eq_some_iff] at evaluated
  rcases evaluated with ⟨⟨answer, middle⟩, answered, continued⟩
  rcases Option.map_eq_some_iff.mp continued with ⟨outcome, rest, outcomeEq⟩
  cases outcomeEq
  exact ⟨answer, middle, answered, outcome.events, rest⟩

theorem Yields.unique {final' : S} {value' : α} (first : program.Yields exec state value final)
    (second : program.Yields exec state value' final') : value = value' ∧ final = final' := by
  rcases first with ⟨events, ran⟩
  rcases second with ⟨events', ran'⟩
  rw [ran] at ran'
  cases ran'
  exact ⟨rfl, rfl⟩

theorem Yields.of_ret {result : α}
    (ran : (Prog.ret value : Prog Res α).Yields exec state result final) :
    result = value ∧ final = state :=
  ran.unique .ret

/-- Every call anywhere in the program is on a permitted operation. -/
def Within (permitted : Op → Prop) : Prog Res α → Prop
  | .ret _ => True
  | .call op next => permitted op ∧ ∀ answer, (next answer).Within permitted

variable {permitted : Op → Prop}

theorem Within.invoke (reachable : permitted op) (next : ∀ answer, (rest answer).Within permitted) :
    (Prog.invoke op >>= rest).Within permitted :=
  ⟨reachable, next⟩

theorem within_invoke (reachable : permitted op) :
    (Prog.invoke op : Prog Res (Res op)).Within permitted :=
  ⟨reachable, fun _ => trivial⟩

theorem Within.bind {rest : α → Prog Res β} (first : program.Within permitted)
    (second : ∀ value, (rest value).Within permitted) : (program >>= rest).Within permitted := by
  induction program with
  | ret value => exact second value
  | call op next ih => exact ⟨first.1, fun answer => ih answer (first.2 answer)⟩

theorem Within.mono {wider : Op → Prop} (within : program.Within permitted)
    (widen : ∀ op, permitted op → wider op) : program.Within wider := by
  induction program with
  | ret value => trivial
  | call op next ih => exact ⟨widen op within.1, fun answer => ih answer (within.2 answer)⟩

variable {outcome : Outcome Res S α}

theorem Within.yields_invariant (within : program.Within permitted) (invariant : S → Prop)
    (kept : ∀ op before answer after, permitted op →
      exec op before = some (answer, after) → invariant before → invariant after)
    (ran : program.Yields exec state value final) (holds : invariant state) : invariant final := by
  induction program generalizing state with
  | ret result =>
    rcases ran.of_ret with ⟨_, rfl⟩
    exact holds
  | call op next ih =>
    rcases ran.of_invoke with ⟨answer, after, answered, continued⟩
    exact ih answer (within.2 answer) continued (kept op state answer after within.1 answered holds)

/-- A program whose permitted calls are always answered finishes. -/
theorem Within.finishes (within : program.Within permitted)
    (answers : ∀ op state, permitted op → ∃ answer after, exec op state = some (answer, after))
    (state : S) : ∃ value final, program.Yields exec state value final := by
  induction program generalizing state with
  | ret value => exact ⟨value, state, .ret⟩
  | call op next ih =>
    rcases answers op state within.1 with ⟨answer, after, answered⟩
    rcases ih answer (within.2 answer) after with ⟨value, final, continued⟩
    exact ⟨value, final, Yields.call answered continued⟩

theorem Within.eval_events (within : program.Within permitted)
    (ran : program.eval exec state = some outcome) :
    ∀ event ∈ outcome.events, permitted event.op := by
  induction program generalizing state outcome with
  | ret value =>
    simp [eval_ret] at ran
    simp [← ran]
  | call op next ih =>
    rcases answered : exec op state with _ | result
    · simp [eval, answered] at ran
    obtain ⟨answer, after⟩ := result
    simp [eval_call answered] at ran
    obtain ⟨later, continued, rfl⟩ := ran
    intro event eventMem
    simp at eventMem
    rcases eventMem with rfl | laterMem
    · exact within.1
    · exact ih answer (within.2 answer) continued event laterMem

/--
Every call is allowed after the program's own earlier calls, provided each
answer satisfied `assumed` where it was given, and every result satisfies `post`.
-/
def Obeys (assumed : List (Event Res) → (op : Op) → Res op → Prop)
    (allowed : List (Event Res) → Op → Prop) (post : List (Event Res) → α → Prop) :
    List (Event Res) → Prog Res α → Prop
  | past, .ret value => post past value
  | past, .call op next =>
    allowed past op ∧ ∀ answer, assumed past op answer →
      (next answer).Obeys assumed allowed post (past ++ [⟨op, answer⟩])

section Obeys

variable {assumed : List (Event Res) → (op : Op) → Res op → Prop}
  {allowed : List (Event Res) → Op → Prop} {past : List (Event Res)}
  {post : List (Event Res) → α → Prop}

theorem Obeys.invoke (fair : allowed past op) (next : ∀ answer, assumed past op answer →
      (rest answer).Obeys assumed allowed post (past ++ [⟨op, answer⟩])) :
    (Prog.invoke op >>= rest).Obeys assumed allowed post past :=
  ⟨fair, next⟩

theorem Obeys.bind {middle : List (Event Res) → α → Prop} {post : List (Event Res) → β → Prop}
    {rest : α → Prog Res β} (first : program.Obeys assumed allowed middle past)
    (second : ∀ later value, middle later value →
      (rest value).Obeys assumed allowed post later) :
    (program >>= rest).Obeys assumed allowed post past := by
  induction program generalizing past with
  | ret value => exact second past value first
  | call op next ih =>
    exact ⟨first.1, fun answer admitted => ih answer (first.2 answer admitted)⟩

theorem Obeys.mono {weaker : List (Event Res) → α → Prop}
    (obeys : program.Obeys assumed allowed post past)
    (weaken : ∀ later value, post later value → weaker later value) :
    program.Obeys assumed allowed weaker past := by
  induction program generalizing past with
  | ret value => exact weaken past value obeys
  | call op next ih =>
    exact ⟨obeys.1, fun answer admitted => ih answer (obeys.2 answer admitted)⟩

/-- A discipline that only grows with the history is obeyed after any history. -/
theorem Obeys.extend {wider : List (Event Res) → Op → Prop} {before : List (Event Res)}
    (obeys : program.Obeys (fun _ _ _ => True) allowed (fun _ _ => True) past)
    (grows : ∀ past op, allowed past op → wider (before ++ past) op) :
    program.Obeys (fun _ _ _ => True) wider (fun _ _ => True) (before ++ past) := by
  induction program generalizing past with
  | ret value => trivial
  | call op next ih =>
    refine ⟨grows past op obeys.1, fun answer _ => ?_⟩
    simpa using ih answer (obeys.2 answer trivial)

/-- Given these answers, the program returns the value. -/
inductive Along : Prog Res α → List (Event Res) → α → Prop
  | ret (value : α) : Along (.ret value) [] value
  | call {op : Op} {next : Res op → Prog Res α} {answer : Res op} {events : List (Event Res)}
      {value : α} (rest : Along (next answer) events value) :
      Along (.call op next) (⟨op, answer⟩ :: events) value

theorem Within.along (within : program.Within permitted) {events : List (Event Res)}
    (ended : program.Along events value) : ∀ event ∈ events, permitted event.op := by
  induction ended with
  | ret value => simp
  | call rest ih => simpa using ⟨within.1, ih (within.2 _)⟩

variable (within : program.Within permitted)
  (free : ∀ added op, (∀ event ∈ added, permitted event.op) → permitted op →
    allowed (past ++ added) op)

include within free

/-- A program confined to calls that are allowed from here on ends after its own events. -/
theorem Within.obeys_along : program.Obeys assumed allowed
      (fun later value => ∃ added, later = past ++ added ∧ program.Along added value) past := by
  induction program generalizing past with
  | ret value => exact ⟨[], by simp, .ret value⟩
  | call op next ih =>
    refine ⟨by simpa using free [] op (by simp) within.1, fun answer _ => ?_⟩
    have freeNext : ∀ added later, (∀ event ∈ added, permitted event.op) → permitted later →
        allowed (past ++ [⟨op, answer⟩] ++ added) later := by
      intro added later confined
      rw [List.append_assoc]
      exact free _ later (List.forall_mem_cons.mpr ⟨within.1, confined⟩)
    refine (ih answer (within.2 answer) freeNext).mono ?_
    rintro later value ⟨added, rfl, ended⟩
    exact ⟨⟨op, answer⟩ :: added, by simp, .call ended⟩

/-- Such a program only adds calls to the history that it is confined to. -/
theorem Within.obeys : program.Obeys assumed allowed
      (fun later _ => ∃ added, later = past ++ added ∧ ∀ event ∈ added, permitted event.op)
      past := by
  refine (within.obeys_along free).mono ?_
  rintro later value ⟨added, rfl, ended⟩
  exact ⟨added, rfl, within.along ended⟩

end Obeys

end Prog

end Foundation
