import Mathlib.Data.List.DropRight
import Mathlib.Data.List.Infix
import Mobula.Foundation.Interleaving

/-!
# Acting on an earlier reading

A thread that reads the shared state, decides, and acts on its decision later
acts on a reading that may be out of date by then. What its last reading
established still holds when it acts, provided nothing in between disturbs it.
-/

namespace Foundation

open List

variable {Op : Type} {Res : Op → Type} {S ρ : Type}

/-- The steps since the last reading of a thread. -/
def sinceReading (reads : Op → Bool) (thread : ℕ) (trace : List (Step Res S ρ)) :
    List (Step Res S ρ) :=
  trace.rtakeWhile fun step => step.thread ≠ thread || !reads step.op

/-- No step between the last reading of a thread and its action disturbs the reading. -/
def Undisturbed (reads acts : Op → Bool) (disturbs : Step Res S ρ → Bool)
    (trace : List (Step Res S ρ)) : Prop :=
  ∀ earlier acting, earlier ++ [acting] <+: trace → acts acting.op = true →
    ∀ inner ∈ sinceReading reads acting.thread earlier, disturbs inner = false

section Windows

variable {reads acts : Op → Bool} {disturbs : Step Res S ρ → Bool}
  {reading acting : Step Res S ρ} {trace front middle later : List (Step Res S ρ)}

instance : Decidable (Undisturbed reads acts disturbs trace) :=
  decidable_of_iff (∀ initial ∈ trace.inits, ∀ acting ∈ initial.getLast?, acts acting.op = true →
      ∀ inner ∈ sinceReading reads acting.thread initial.dropLast, disturbs inner = false) (by
    constructor
    · intro checked earlier acting isInitial
      simpa using checked (earlier ++ [acting]) (mem_inits _ _ |>.mpr isInitial) acting (by simp)
    · intro undisturbed initial initialMem acting isLast
      refine undisturbed initial.dropLast acting ?_
      rw [dropLast_append_getLast? acting isLast]
      exact (mem_inits _ _).mp initialMem)

theorem Undisturbed.of_append (undisturbed : Undisturbed reads acts disturbs (trace ++ later)) :
    Undisturbed reads acts disturbs trace := by
  intro earlier acting isInitial
  exact undisturbed earlier acting (isInitial.trans (prefix_append trace later))

theorem sinceReading_eq (isRead : reads reading.op = true)
    (last : ∀ event ∈ own reading.thread middle, reads event.op = false) :
    sinceReading reads reading.thread (front ++ reading :: middle) = middle := by
  have others : ∀ step ∈ middle.reverse,
      (step.thread ≠ reading.thread || !reads step.op) = true := by
    intro step stepMem
    by_cases mine : step.thread = reading.thread
    · simp [mine, last _ (mem_own.mpr ⟨step, mem_reverse.mp stepMem, mine, rfl⟩)]
    · simp [mine]
  simp only [sinceReading, rtakeWhile, reverse_append, reverse_cons, append_assoc, cons_append,
    nil_append, takeWhile_append_of_pos others]
  simp [isRead]

theorem Undisturbed.window (undisturbed : Undisturbed reads acts disturbs
      (front ++ reading :: (middle ++ acting :: later)))
    (mine : reading.thread = acting.thread) (isRead : reads reading.op = true)
    (last : ∀ event ∈ own acting.thread middle, reads event.op = false)
    (isAction : acts acting.op = true) : ∀ inner ∈ middle, disturbs inner = false := by
  have window := undisturbed (front ++ reading :: middle) acting ⟨later, by simp⟩ isAction
  rw [← mine] at last window
  rwa [sinceReading_eq isRead last] at window

/-- An operation that only reads was answered with what the state held at its step. -/
theorem reading_of_own {exec : ℕ → (op : Op) → S → Option (Res op × S)}
    (answered : ∀ step ∈ trace,
      exec step.thread step.op step.before = some (step.answer, step.after))
    {op : Op} {value : S → Res op} (reads : ∀ i state, exec i op state = some (value state, state))
    {i : ℕ} {answer : Res op} {before after : List (Event Res)}
    (split : own i trace = before ++ ⟨op, answer⟩ :: after) :
    ∃ front reading middle, trace = front ++ reading :: middle ∧ reading.thread = i ∧
      reading.op = op ∧ reading.after = reading.before ∧ value reading.before = answer ∧
      own i middle = after := by
  rcases own_eq_append_cons split with ⟨front, reading, middle, rfl, mine, eventEq, _, rest⟩
  have found := answered reading (by simp)
  refine ⟨front, reading, middle, rfl, mine, ?_⟩
  rcases reading with ⟨thread, role, state, op', answer', state'⟩
  cases eventEq
  rw [reads, Option.some.injEq, Prod.mk.injEq] at found
  exact ⟨rfl, found.2.symm, found.1, rest⟩

/-- What a reading established holds when the thread acts on it. -/
theorem System.Run.upToDate {sys : System Res S ρ} {start config : Config Res S ρ}
    (run : sys.Run start (front ++ reading :: (middle ++ acting :: later)) config)
    (calm : ∀ inner ∈ middle, disturbs inner = false) (fact : S → Prop)
    (drifts : ∀ before after, sys.drift before after → fact before → fact after)
    (steps : ∀ inner ∈ middle, disturbs inner = false →
      sys.exec inner.thread inner.op inner.before = some (inner.answer, inner.after) →
      fact inner.before → fact inner.after)
    (holds : fact reading.after) : fact acting.before := by
  refine run.between fact drifts ?_ holds
  intro before inner after window
  have innerMem : inner ∈ middle := by simp [window]
  exact steps inner innerMem (calm inner innerMem)

end Windows

end Foundation
