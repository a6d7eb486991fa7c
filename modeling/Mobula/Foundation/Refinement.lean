import Mathlib.Data.List.Defs

/-!
# Refinement between two machines

Two machines agree on a sequence of operations if all answers along it are the same, in the
sense each operation has of that. A relation between their states that every admissible
operation keeps makes them agree; what is admissible may depend on the state of the second
machine, the one that says what is right.
-/

namespace Foundation

abbrev Machine {Op : Type} (Res : Op → Type) (S : Type) := (op : Op) → S → Res op × S

variable {Op : Type} {Res : Op → Type} {S T : Type}

namespace Machine

def run (machine : Machine Res S) (ops : List Op) (state : S) : S :=
  ops.foldl (fun current op => (machine op current).2) state

theorem run_append (machine : Machine Res S) (before later : List Op) (state : S) :
    machine.run (before ++ later) state = machine.run later (machine.run before state) :=
  List.foldl_append

/-- All answers along a sequence of operations are the same. -/
def Agree (same : (op : Op) → Res op → Res op → Prop) (first : Machine Res S)
    (second : Machine Res T) : List Op → S → T → Prop
  | [], _, _ => True
  | op :: ops, state, model =>
    same op (first op state).1 (second op model).1 ∧
      Agree same first second ops (first op state).2 (second op model).2

/-- Every operation of a sequence is admissible when its turn comes. -/
def Admits (machine : Machine Res T) (admissible : Op → T → Prop) : List Op → T → Prop
  | [], _ => True
  | op :: ops, model => admissible op model ∧ machine.Admits admissible ops (machine op model).2

theorem agree_of_simulation {same : (op : Op) → Res op → Res op → Prop} {first : Machine Res S}
    {second : Machine Res T} {related : S → T → Prop} {admissible : Op → T → Prop}
    (step : ∀ op state model, related state model → admissible op model →
      same op (first op state).1 (second op model).1 ∧
        related (first op state).2 (second op model).2)
    {ops : List Op} {state : S} {model : T} (start : related state model)
    (admitted : second.Admits admissible ops model) : Agree same first second ops state model := by
  induction ops generalizing state model with
  | nil => trivial
  | cons op ops ih =>
    rcases step op state model start admitted.1 with ⟨answers, still⟩
    exact ⟨answers, ih still admitted.2⟩

end Machine

end Foundation
