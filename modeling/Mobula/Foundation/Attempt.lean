import Mobula.Foundation.Layers

/-!
# Programs that stop at the first failure

`ExceptT` over programs: a failure ends the program with that failure, and what
was called before it stays done. The rules take a finished attempt apart at its
sequencing points.
-/

namespace Foundation

abbrev Attempt {Op : Type} (Res : Op → Type) (ε α : Type) := ExceptT ε (Prog Res) α

namespace Attempt

variable {Op : Type} {Res : Op → Type} {S ε α β : Type}
  {exec : (op : Op) → S → Option (Res op × S)} {state final : S}

theorem of_bind {first : Attempt Res ε α} {rest : α → Attempt Res ε β} {result : Except ε β}
    (ran : (first >>= rest).run.Yields exec state result final) :
    (∃ failure, first.run.Yields exec state (.error failure) final ∧ result = .error failure) ∨
      ∃ value middle, first.run.Yields exec state (.ok value) middle ∧
        (rest value).run.Yields exec middle result final := by
  rcases Prog.Yields.of_bind ran with ⟨attempted, middle, began, continued⟩
  cases attempted with
  | error failure =>
    rcases continued.of_ret with ⟨rfl, rfl⟩
    exact .inl ⟨failure, began, rfl⟩
  | ok value => exact .inr ⟨value, middle, began, continued⟩

/-- A program without failures is followed by the rest of the attempt. -/
theorem of_lift {first : Prog Res α} {rest : α → Attempt Res ε β} {result : Except ε β}
    (ran : ((liftM first : Attempt Res ε α) >>= rest).run.Yields exec state result final) :
    ∃ value middle, first.Yields exec state value middle ∧
      (rest value).run.Yields exec middle result final := by
  rcases of_bind ran with ⟨failure, began, _⟩ | ⟨value, middle, began, continued⟩
  · rcases Prog.Yields.of_bind began with ⟨value, middle, _, ended⟩
    cases ended.of_ret.1
  · rcases Prog.Yields.of_bind began with ⟨returned, _, began, ended⟩
    rcases ended.of_ret with ⟨same, rfl⟩
    cases same
    exact ⟨value, _, began, continued⟩

end Attempt

end Foundation
