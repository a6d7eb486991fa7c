import Mathlib.Data.List.Forall2

/-!
# Computations that may fail

Inversion rules for `Except`: a computation that succeeded went through
successful parts only, and a loop that succeeded carried its invariant through
every iteration.
-/

namespace Foundation.Fallible

open List

variable {ε ε' α β : Type} {result : β} {computation : Except ε α} {convert : α → Except ε β}
  {items : List α}

theorem bind_eq_ok {first : Except ε α} {rest : α → Except ε β} :
    (first >>= rest) = .ok result ↔ ∃ value, first = .ok value ∧ rest value = .ok result := by
  rcases first with failure | value <;> simp [bind, Except.bind]

theorem mapError_eq_ok {convert : ε → ε'} {result : α} :
    computation.mapError convert = .ok result ↔ computation = .ok result := by
  cases computation <;> simp [Except.mapError]

theorem map_eq_ok {convert : α → β} : computation.map convert = .ok result ↔
      ∃ value, computation = .ok value ∧ convert value = result := by
  cases computation <;> simp [Except.map]

def reject (wrong : Bool) (failure : ε) : Except ε Unit :=
  if wrong then .error failure else .ok ()

@[simp]
theorem reject_eq_ok {wrong : Bool} {failure : ε} {result : Unit} :
    reject wrong failure = .ok result ↔ wrong = false := by
  cases wrong <;> simp [reject]

theorem mapM_eq_ok {results : List β} : items.mapM convert = .ok results ↔
      Forall₂ (fun item result => convert item = .ok result) items results := by
  induction items generalizing results with
  | nil => cases results <;> simp [pure, Except.pure]
  | cons item items ih =>
    simp only [mapM_cons, bind_eq_ok, pure, Except.pure, Except.ok.injEq, forall₂_cons_left_iff, ih]
    constructor
    · rintro ⟨result, converted, rest, others, rfl⟩
      exact ⟨result, rest, converted, others, rfl⟩
    · rintro ⟨result, rest, converted, others, rfl⟩
      exact ⟨result, converted, rest, others, rfl⟩

theorem exists_mapM_eq_ok : (∃ results, items.mapM convert = .ok results) ↔
      ∀ item ∈ items, ∃ result, convert item = .ok result := by
  induction items with
  | nil => simp [pure, Except.pure]
  | cons item items ih =>
    simp only [mapM_cons, bind_eq_ok, pure, Except.pure, forall_mem_cons, ← ih]
    constructor
    · rintro ⟨_, result, converted, rest, others, _⟩
      exact ⟨⟨result, converted⟩, rest, others⟩
    · rintro ⟨⟨result, converted⟩, rest, others⟩
      exact ⟨_, result, converted, rest, others, rfl⟩

theorem forM_eq_ok {body : α → Except ε Unit} :
    items.forM body = .ok () ↔ ∀ item ∈ items, body item = .ok () := by
  induction items with
  | nil => simp [pure, Except.pure]
  | cons item items ih =>
    rw [forM_eq_forM, forM_cons, bind_eq_ok, forall_mem_cons]
    constructor
    · rintro ⟨done, first, rest⟩
      exact ⟨first, ih.mp rest⟩
    · rintro ⟨first, rest⟩
      exact ⟨(), first, ih.mpr rest⟩

/-- What was checked of the value of a computation holds of it. -/
theorem exists_of_checked {o : Option α} {p : α → Prop} [DecidablePred p]
    (checked : o.any (fun value => p value) = true) : ∃ value, o = some value ∧ p value := by
  simpa [Option.any_eq_true] using checked

theorem exists_pair_of_checked {o : Option (α × β)} {p : α → β → Prop}
    [∀ first second, Decidable (p first second)]
    (checked : o.any (fun value => p value.1 value.2) = true) :
    ∃ first second, o = some (first, second) ∧ p first second := by
  rcases exists_of_checked checked with ⟨⟨first, second⟩, same, holds⟩
  exact ⟨first, second, same, holds⟩

/-- A loop that succeeds keeps what every successful iteration keeps. -/
theorem foldlM_invariant (invariant : β → Prop) {body : β → α → Except ε β} {start : β}
    (ran : items.foldlM body start = .ok result)
    (kept : ∀ before item after, item ∈ items → body before item = .ok after →
      invariant before → invariant after) (holds : invariant start) : invariant result := by
  induction items generalizing start with
  | nil =>
    simp [foldlM_nil, pure, Except.pure] at ran
    rwa [← ran]
  | cons item items ih =>
    simp only [foldlM_cons, bind_eq_ok] at ran
    rcases ran with ⟨middle, stepped, continued⟩
    apply ih continued
    · intro before later after laterMem
      exact kept before later after (mem_cons_of_mem item laterMem)
    · exact kept start item middle mem_cons_self stepped holds

end Foundation.Fallible
