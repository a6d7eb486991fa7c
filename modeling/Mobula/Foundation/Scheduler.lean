import Mobula.Foundation.Interleaving

/-!
# Executing a schedule

A schedule says which thread starts or calls next. Executing it yields
one particular run of the system, so that a run with a certain outcome can be
exhibited by computation.
-/

namespace Foundation

inductive Move (ρ : Type) where
  | spawn (thread : ℕ) (role : ρ)
  | call (thread : ℕ)

/-- Threads one after the other, each with the number of calls it makes. -/
def inTurn {ρ : Type} (roles : List (ρ × ℕ)) : List (Move ρ) :=
  roles.zipIdx.flatMap fun turn =>
    .spawn turn.2 turn.1.1 :: List.replicate turn.1.2 (.call turn.2)

variable {Op : Type} {Res : Op → Type} {S ρ : Type}

structure Progress {Op : Type} (Res : Op → Type) (S ρ : Type) where
  config : Config Res S ρ
  trace : List (Step Res S ρ)

namespace System

variable (sys : System Res S ρ)

def advance (thread : ℕ) (progress : Progress Res S ρ) : Option (Progress Res S ρ) :=
  match progress.config.threads thread with
  | some ⟨role, .call op next⟩ =>
    match sys.exec thread op progress.config.state with
    | some (answer, state) =>
      some ⟨{ progress.config with state := state }.setThread thread ⟨role, next answer⟩,
        progress.trace ++ [⟨thread, role, progress.config.state, op, answer, state⟩]⟩
    | none => none
  | _ => none

def perform (permits : ρ → Bool) (progress : Progress Res S ρ) :
    Move ρ → Option (Progress Res S ρ)
  | .spawn thread role =>
    if (progress.config.threads thread).isNone && permits role then
      some { progress with
        config := progress.config.setThread thread ⟨role, sys.behaviour role⟩ }
    else none
  | .call thread => sys.advance thread progress

def execute (permits : ρ → Bool) (schedule : List (Move ρ)) (state : S) :
    Option (Progress Res S ρ) :=
  schedule.foldlM (sys.perform permits) ⟨.start state, []⟩

variable {sys} {progress progress' : Progress Res S ρ} {origin : Config Res S ρ}
  {permits : ρ → Bool}

theorem advance_run {thread : ℕ} (advanced : sys.advance thread progress = some progress')
    (run : sys.Run origin progress.trace progress.config) :
    sys.Run origin progress'.trace progress'.config := by
  unfold advance at advanced
  split at advanced
  · next role op next ready =>
      split at advanced
      · next answer state answered =>
          simp at advanced
          subst advanced
          exact .step thread role op next answer state run ready answered
      · cases advanced
  · cases advanced

variable (admits : ∀ config role, permits role = true → sys.admits config role)

include admits

theorem perform_run {move : Move ρ} (performed : sys.perform permits progress move = some progress')
    (run : sys.Run origin progress.trace progress.config) :
    sys.Run origin progress'.trace progress'.config := by
  cases move with
  | spawn thread role =>
    simp [perform] at performed
    rcases performed with ⟨⟨fresh, permitted⟩, rfl⟩
    exact .spawn thread role run fresh (admits _ _ permitted)
  | call thread => exact advance_run performed run

theorem execute_run {schedule : List (Move ρ)} {state : S}
    (executed : sys.execute permits schedule state = some progress) :
    sys.Run (.start state) progress.trace progress.config := by
  have general : ∀ (schedule : List (Move ρ)) (before after : Progress Res S ρ),
      schedule.foldlM (sys.perform permits) before = some after →
      sys.Run (.start state) before.trace before.config →
      sys.Run (.start state) after.trace after.config := by
    intro schedule
    induction schedule with
    | nil =>
      intro before after done run
      cases done
      exact run
    | cons move rest ih =>
      intro before after done run
      rw [List.foldlM_cons, Option.bind_eq_bind, Option.bind_eq_some_iff] at done
      rcases done with ⟨between, performed, continued⟩
      exact ih between after continued (perform_run admits performed run)
  exact general schedule _ _ executed .refl

end System

end Foundation
