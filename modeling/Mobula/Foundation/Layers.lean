import Mobula.Foundation.Program
import Mathlib.Data.Sum.Basic

/-!
# Programs over two layers of calls

A component that uses the calls of a lower layer, and has calls of its own, is a
program over the sum of the two interfaces. Programs of the lower layer are used
in it as they are: they run on the lower part of the state and leave the rest.
-/

namespace Foundation

namespace Prog

variable {Op Op' : Type} {Res : Op → Type} {Res' : Op' → Type} {S T α β : Type}

/-- A program of the lower layer, over both interfaces. -/
def lowered : Prog Res α → Prog (Sum.elim Res Res') α
  | .ret value => .ret value
  | .call op next => .call (.inl op) fun answer => (next answer).lowered

/-- A machine for both layers: lower calls see the lower part of the state only. -/
def layered (lower : (op : Op) → S → Option (Res op × S))
    (upper : (op : Op') → S × T → Option (Res' op × (S × T))) :
    (op : Op ⊕ Op') → S × T → Option (Sum.elim Res Res' op × (S × T))
  | .inl op, (state, rest) =>
    (lower op state).map fun answered => (answered.1, (answered.2, rest))
  | .inr op, both => upper op both

variable {lower : (op : Op) → S → Option (Res op × S)}
  {upper : (op : Op') → S × T → Option (Res' op × (S × T))} {program : Prog Res α} {state : S}
  {value : α}

theorem Yields.lowered {final : S} (ran : program.Yields lower state value final) (rest : T) :
    (program.lowered : Prog (Sum.elim Res Res') α).Yields (layered lower upper) (state, rest) value
      (final, rest) := by
  induction program generalizing state with
  | ret result =>
    rcases ran.of_ret with ⟨rfl, rfl⟩
    exact .ret
  | call op next ih =>
    rcases ran.of_invoke with ⟨answer, middle, answered, continued⟩
    have both : layered lower upper (.inl op) (state, rest) = some (answer, (middle, rest)) := by
      simp [layered, answered]
    exact Yields.call both (ih answer continued)

theorem Yields.of_lowered {rest : T} {final : S × T}
    (ran : (program.lowered : Prog (Sum.elim Res Res') α).Yields (layered lower upper) (state, rest)
      value final) :
    ∃ middle, program.Yields lower state value middle ∧ final = (middle, rest) := by
  induction program generalizing state with
  | ret result =>
    rcases ran.of_ret with ⟨rfl, rfl⟩
    exact ⟨state, .ret, rfl⟩
  | call op next ih =>
    rcases ran.of_invoke with ⟨answer, middle, answered, continued⟩
    rw [layered, Option.map_eq_some_iff] at answered
    rcases answered with ⟨⟨given, after⟩, executed, same⟩
    cases same
    rcases ih given continued with ⟨last, ended, rfl⟩
    exact ⟨last, Yields.call executed ended, rfl⟩

theorem within_lowered {permitted : Op ⊕ Op' → Prop} (lower : ∀ op, permitted (.inl op)) :
    (program.lowered : Prog (Sum.elim Res Res') α).Within permitted := by
  induction program with
  | ret value => trivial
  | call op next ih => exact ⟨lower op, ih⟩

end Prog

end Foundation
