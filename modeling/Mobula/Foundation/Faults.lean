import Mobula.Foundation.Program

/-!
# Executions amid faults

Where calls may fail, a call in one state can be answered in several ways. What
holds of every call of every execution, wherever the execution is cut off, follows
from the discipline of the program and an invariant that ties the state to the history.
-/

namespace Foundation

namespace Prog

variable {Op : Type} {Res : Op → Type} {S α : Type}

/-- Every call that is made, answered in any way that is possible, passes the check. -/
def Always (answers : (op : Op) → S → Res op → S → Prop)
    (check : List (Event Res) → (op : Op) → S → S → Prop) :
    List (Event Res) → S → Prog Res α → Prop
  | _, _, .ret _ => True
  | past, state, .call op next => ∀ answer after, answers op state answer after →
    check past op state after ∧ Always answers check (past ++ [⟨op, answer⟩]) after (next answer)

theorem Obeys.always {answers : (op : Op) → S → Res op → S → Prop}
    {check : List (Event Res) → (op : Op) → S → S → Prop} {program : Prog Res α}
    {allowed : List (Event Res) → Op → Prop} {post : List (Event Res) → α → Prop}
    {past : List (Event Res)} {state : S}
    (obeys : program.Obeys (fun _ _ _ => True) allowed post past)
    (invariant : List (Event Res) → S → Prop) (holds : invariant past state)
    (step : ∀ past op state answer after, allowed past op → invariant past state →
      answers op state answer after →
      check past op state after ∧ invariant (past ++ [⟨op, answer⟩]) after) :
    program.Always answers check past state := by
  induction program generalizing past state with
  | ret value => trivial
  | call op next ih =>
    intro answer after answered
    rcases step past op state answer after obeys.1 holds answered with ⟨checked, kept⟩
    exact ⟨checked, ih answer (obeys.2 answer trivial) kept⟩

end Prog

end Foundation
