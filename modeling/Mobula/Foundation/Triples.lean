import Mobula.Foundation.Interference
import Mathlib.Data.List.Basic

/-!
# Pre- and postconditions amid interference

A triple says where a program ends, given where it starts. Assertions speak of the state and of
the history of calls made so far. Others may change the state before each call, as the
interference relation permits.
-/

namespace Foundation

open List

variable {Op S α : Type} {Res : Op → Type} {interferes : S → S → Prop}

namespace Prog

variable {β : Type}

/-- What is said about the calls made so far and the state they led to. -/
abbrev Assertion (Res : Op → Type) (S : Type) := List (Event Res) → S → Prop

/-- Started where `pre` holds, a program that ends does so where `post` holds of its value. -/
def Ensures (exec : (op : Op) → S → Option (Res op × S)) (interferes : S → S → Prop)
    (pre : Assertion Res S) (program : Prog Res α) (post : α → Assertion Res S) : Prop :=
  ∀ past state events value final, pre past state →
    program.Amid exec interferes state events value final → post value (past ++ events) final

variable {exec : (op : Op) → S → Option (Res op × S)} {pre : Assertion Res S}
  {post : α → Assertion Res S} {op : Op} {program : Prog Res α}

theorem ensures_ret {value : α} (holds : ∀ past state, pre past state → post value past state) :
    Ensures exec interferes pre (.ret value) post := by
  intro past state events result final started ran
  cases ran
  simpa using holds past state started

theorem Ensures.ret {value : α} : Ensures exec interferes (post value) (.ret value) post :=
  ensures_ret fun _ _ holds => holds

theorem Ensures.done {value : α} : Ensures exec interferes pre (.ret value) fun _ => pre :=
  ensures_ret fun _ _ holds => holds

/-- A call leads wherever its answer leads, from every state that interference permits. -/
theorem Ensures.invoke {rest : Res op → Prog Res α} (middle : Res op → Assertion Res S)
    (answers : ∀ {past state seen answer after}, pre past state → interferes state seen →
      exec op seen = some (answer, after) → middle answer (past ++ [⟨op, answer⟩]) after)
    (next : ∀ answer, Ensures exec interferes (middle answer) (rest answer) post) :
    Ensures exec interferes pre (Prog.invoke op >>= rest) post := by
  intro past state events value final started ran
  rcases ran.of_invoke with ⟨seen, answer, after, later, moved, answered, rfl, continued⟩
  have reached := answers started moved answered
  simpa using next answer _ _ _ _ _ reached continued

theorem ensures_invoke {post : Res op → Assertion Res S}
    (answers : ∀ {past state seen answer after}, pre past state → interferes state seen →
      exec op seen = some (answer, after) → post answer (past ++ [⟨op, answer⟩]) after) :
    Ensures exec interferes pre (Prog.invoke op) post := by
  intro past state events value final started ran
  cases ran with
  | call moved answered rest =>
    cases rest
    exact answers started moved answered

theorem Ensures.bind {rest : α → Prog Res β} {post : β → Assertion Res S}
    {middle : α → Assertion Res S} (first : Ensures exec interferes pre program middle)
    (second : ∀ value, Ensures exec interferes (middle value) (rest value) post) :
    Ensures exec interferes pre (program >>= rest) post := by
  intro past state events result final started ran
  rcases ran.of_bind with ⟨earlier, value, between, later, rfl, began, continued⟩
  rw [← append_assoc]
  exact second value _ _ _ _ _ (first _ _ _ _ _ started began) continued

theorem Ensures.mono {stronger : Assertion Res S} {weaker : α → Assertion Res S}
    (ensures : Ensures exec interferes pre program post)
    (strengthen : ∀ past state, stronger past state → pre past state)
    (weaken : ∀ value past state, post value past state → weaker value past state) :
    Ensures exec interferes stronger program weaker := by
  intro past state events value final started ran
  exact weaken _ _ _ (ensures _ _ _ _ _ (strengthen _ _ started) ran)

theorem Ensures.and {other : Assertion Res S} {further : α → Assertion Res S}
    (first : Ensures exec interferes pre program post)
    (second : Ensures exec interferes other program further) :
    Ensures exec interferes (fun past state => pre past state ∧ other past state) program
      fun value past state => post value past state ∧ further value past state := by
  intro past state events value final started ran
  exact ⟨first _ _ _ _ _ started.1 ran, second _ _ _ _ _ started.2 ran⟩

/-- What is known of the precondition may be used to prove the triple. -/
theorem Ensures.given {fact : Prop} (known : ∀ past state, pre past state → fact)
    (ensures : fact → Ensures exec interferes pre program post) :
    Ensures exec interferes pre program post := by
  intro past state events value final started ran
  exact ensures (known past state started) _ _ _ _ _ started ran

/-- An assertion that every permitted call keeps is kept by the program. -/
theorem Within.ensures {permitted : Op → Prop} (within : program.Within permitted)
    {invariant : Assertion Res S}
    (kept : ∀ {op past state seen answer after}, permitted op → invariant past state →
      interferes state seen → exec op seen = some (answer, after) →
      invariant (past ++ [⟨op, answer⟩]) after) :
    Ensures exec interferes invariant program fun _ => invariant := by
  intro past state events value final started ran
  induction ran generalizing past with
  | ret value state => simpa using started
  | call moved answered rest ih =>
    have held := kept within.1 started moved answered
    simpa using ih (within.2 _) _ held

end Prog

def latest {Op μ : Type} {Res : Op → Type} (marks : Event Res → Option μ)
    (past : List (Event Res)) : Option μ :=
  (past.filterMap marks).getLast?

variable {μ : Type} {marks : Event Res → Option μ} {past : List (Event Res)}

theorem latest_snoc {event : Event Res} :
    latest marks (past ++ [event]) = (marks event).or (latest marks past) := by
  rcases marked : marks event with _ | mark <;> simp [latest, marked]

theorem latest_append {later : List (Event Res)} :
    latest marks (past ++ later) = (latest marks later).or (latest marks past) := by
  simp [latest]

theorem latest_eq_none_iff : latest marks past = none ↔ ∀ event ∈ past, marks event = none := by
  rw [latest, getLast?_eq_none_iff, filterMap_eq_nil_iff]

theorem latest_append_of_unmarked {later : List (Event Res)}
    (unmarked : ∀ event ∈ later, marks event = none) :
    latest marks (past ++ later) = latest marks past := by
  simp [latest_append, latest_eq_none_iff.mpr unmarked]

theorem mem_of_latest {mark : μ} (last : latest marks past = some mark) :
    ∃ event ∈ past, marks event = some mark :=
  mem_filterMap.mp (mem_of_getLast? last)

/-- One program that ran as part of a longer run. -/
structure Round {Op : Type} (Res : Op → Type) (S ρ α : Type) where
  role : ρ
  before : S
  events : List (Event Res)
  value : α
  after : S

/-- The events of all the rounds, in order. -/
def history {Op : Type} {Res : Op → Type} {S ρ α : Type} (rounds : List (Round Res S ρ α)) :
    List (Event Res) :=
  rounds.flatMap (·.events)

section Rounds

variable {ρ : Type}

@[simp]
theorem history_append {earlier later : List (Round Res S ρ α)} :
    history (earlier ++ later) = history earlier ++ history later := by
  simp [history]

@[simp]
theorem history_singleton {round : Round Res S ρ α} : history [round] = round.events := by
  simp [history]

/-- Programs ran one after the other, each of them amid interference. -/
inductive Rounds (exec : (op : Op) → S → Option (Res op × S)) (interferes : S → S → Prop)
    (program : ρ → Prog Res α) (origin : S) : List (Round Res S ρ α) → S → Prop
  | nil : Rounds exec interferes program origin [] origin
  | snoc {rounds state events value final} (role : ρ)
      (earlier : Rounds exec interferes program origin rounds state)
      (ran : (program role).Amid exec interferes state events value final) :
      Rounds exec interferes program origin (rounds ++ [⟨role, state, events, value, final⟩]) final

variable {exec : (op : Op) → S → Option (Res op × S)} {program : ρ → Prog Res α} {origin final : S}
  {rounds : List (Round Res S ρ α)}

theorem Rounds.invariant (run : Rounds exec interferes program origin rounds final)
    {invariant : Prog.Assertion Res S} (holds : invariant [] origin)
    (kept : ∀ role, Prog.Ensures exec interferes invariant (program role) fun _ => invariant) :
    invariant (history rounds) final := by
  induction run with
  | nil => exact holds
  | snoc role earlier ran ih =>
    rw [history_append, history_singleton]
    exact kept role _ _ _ _ _ ih ran

variable {later earlier : List (Round Res S ρ α)} {round : Round Res S ρ α}

theorem Rounds.trans {between : S} (first : Rounds exec interferes program origin rounds between)
    (second : Rounds exec interferes program between later final) :
    Rounds exec interferes program origin (rounds ++ later) final := by
  induction second with
  | nil => simpa using first
  | snoc role _ ran ih =>
    rw [← append_assoc]
    exact .snoc role ih ran

theorem Rounds.at_round
    (run : Rounds exec interferes program origin (earlier ++ round :: later) final) :
    Rounds exec interferes program origin earlier round.before ∧
      (program round.role).Amid exec interferes round.before round.events round.value
        round.after := by
  generalize whole : earlier ++ round :: later = rounds at run
  induction run generalizing later with
  | nil => simp at whole
  | snoc role before ran ih =>
    rcases eq_nil_or_concat later with rfl | ⟨inner, last, rfl⟩
    · rcases append_inj' whole rfl with ⟨rfl, lastEq⟩
      rw [singleton_inj] at lastEq
      subst lastEq
      exact ⟨before, ran⟩
    · rw [concat_eq_append, ← cons_append, ← append_assoc] at whole
      exact ih (append_inj' whole rfl).1

theorem Rounds.of_append (run : Rounds exec interferes program origin (earlier ++ later) final) :
    ∃ between, Rounds exec interferes program origin earlier between ∧
      Rounds exec interferes program between later final := by
  generalize whole : earlier ++ later = rounds at run
  induction run generalizing later with
  | nil =>
    rcases append_eq_nil_iff.mp whole with ⟨rfl, rfl⟩
    exact ⟨origin, .nil, .nil⟩
  | @snoc rounds state events value final role before ran ih =>
    rcases eq_nil_or_concat later with rfl | ⟨inner, last, rfl⟩
    · simp at whole
      exact ⟨final, whole ▸ .snoc role before ran, .nil⟩
    · rw [concat_eq_append, ← append_assoc] at whole
      rcases append_inj' whole rfl with ⟨same, lastEq⟩
      rcases ih same with ⟨between, first, second⟩
      rw [singleton_inj] at lastEq
      subst lastEq
      simp
      exact ⟨between, first, .snoc role second ran⟩

theorem Rounds.of_nil (run : Rounds exec interferes program origin [] final) : final = origin := by
  generalize empty : [] = rounds at run
  cases run with
  | nil => rfl
  | snoc => simp at empty

theorem Rounds.from_round
    (run : Rounds exec interferes program origin (earlier ++ round :: later) final) :
    Rounds exec interferes program origin earlier round.before ∧
      Rounds exec interferes program round.before (round :: later) final := by
  rcases run.of_append with ⟨between, first, second⟩
  have restart : Rounds exec interferes program between ([] ++ round :: later) final := second
  rw [restart.at_round.1.of_nil]
  exact ⟨first, second⟩

def executeRounds (exec : (op : Op) → S → Option (Res op × S)) (program : ρ → Prog Res α) :
    List ρ → S → Option (List (Round Res S ρ α) × S)
  | [], state => some ([], state)
  | role :: roles, state =>
    ((program role).eval exec state).bind fun outcome =>
      (executeRounds exec program roles outcome.state).map fun later =>
        (⟨role, state, outcome.events, outcome.value, outcome.state⟩ :: later.1, later.2)

theorem rounds_of_execute (invariant : S → Prop)
    (amid : ∀ role state outcome, invariant state → (program role).eval exec state = some outcome →
      (program role).Amid exec interferes state outcome.events outcome.value outcome.state ∧
        invariant outcome.state)
    {roles : List ρ} (holds : invariant origin)
    (executed : executeRounds exec program roles origin = some (rounds, final)) :
    Rounds exec interferes program origin rounds final := by
  induction roles generalizing origin rounds with
  | nil =>
    cases executed
    exact .nil
  | cons role roles ih =>
    simp only [executeRounds, Option.bind_eq_some_iff, Option.map_eq_some_iff] at executed
    rcases executed with ⟨outcome, ran, ⟨later, last⟩, continued, same⟩
    simp at same
    rcases same with ⟨rfl, rfl⟩
    rcases amid role origin outcome holds ran with ⟨amidst, held⟩
    exact (Rounds.snoc role .nil amidst).trans (ih held continued)

theorem rounds_alone (still : ∀ state, interferes state state) {roles : List ρ}
    (executed : executeRounds exec program roles origin = some (rounds, final)) :
    Rounds exec interferes program origin rounds final :=
  rounds_of_execute (fun _ => True)
    (fun _ _ _ _ ran => ⟨Prog.amid_of_eval still ran, trivial⟩) trivial executed

end Rounds

end Foundation
