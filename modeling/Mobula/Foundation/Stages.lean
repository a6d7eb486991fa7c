import Mobula.Foundation.Interleaving

/-!
# Where each thread stands

A rule for invariants that mention, next to the shared state, how far every
thread has come with its program. A step has to keep the invariant, take its own
thread to its next stage and leave the stages of all others true.
-/

namespace Foundation

namespace System

variable {Op : Type} {Res : Op → Type} {S ρ : Type}

/-- The stages of the threads, and an invariant of the state, are kept by all that happens. -/
structure Staged (sys : System Res S ρ) (invariant : S → Prop)
    (stage : S → ℕ → ρ → Prog Res Unit → Prop) : Prop where
  spawned : ∀ {config : Config Res S ρ} {i role}, sys.admits config role →
    invariant config.state → stage config.state i role (sys.behaviour role)
  drifted : ∀ {before after}, sys.drift before after → invariant before →
    invariant after ∧ ∀ {i role program}, stage before i role program → stage after i role program
  stopped : ∀ {state i role program}, sys.stoppable role → stage state i role program →
    stage state i role (.ret ())
  stepped : ∀ {i role op next before answer after}, invariant before →
    stage before i role (.call op next) → sys.exec i op before = some (answer, after) →
    invariant after ∧ stage after i role (next answer) ∧
      ∀ {j other program}, j ≠ i → stage before j other program → stage after j other program

variable {sys : System Res S ρ} {invariant : S → Prop}
  {stage : S → ℕ → ρ → Prog Res Unit → Prop} {state : S} {trace : List (Step Res S ρ)}
  {config : Config Res S ρ}

theorem Run.staged (run : sys.Run (.start state) trace config)
    (rule : sys.Staged invariant stage) (initial : invariant state) :
    invariant config.state ∧ ∀ i thread, config.threads i = some thread →
      stage config.state i thread.role thread.program := by
  induction run with
  | refl => exact ⟨initial, fun _ _ started => by cases started⟩
  | @spawn _ prior i role _ fresh admitted ih =>
    have standing {j : ℕ} : stage prior.state j role (sys.behaviour role) :=
      rule.spawned admitted ih.1
    refine ⟨ih.1, ?_⟩
    intro j thread started
    rw [Config.setThread_threads] at started
    split at started
    case isTrue same =>
      cases started
      exact standing
    case isFalse => exact ih.2 j thread started
  | drift after _ moved ih =>
    rcases rule.drifted moved ih.1 with ⟨kept, stages⟩
    exact ⟨kept, fun i thread started => stages (ih.2 i thread started)⟩
  | stop i thread _ halting stoppable ih =>
    refine ⟨ih.1, ?_⟩
    intro j other started
    rw [Config.setThread_threads] at started
    split at started
    case isTrue same =>
      cases started
      rw [same]
      exact rule.stopped stoppable (ih.2 i thread halting)
    case isFalse => exact ih.2 j other started
  | step i role op next answer after _ ready answered ih =>
    rcases rule.stepped ih.1 (ih.2 i _ ready) answered with ⟨kept, own, others⟩
    refine ⟨kept, ?_⟩
    intro j thread started
    rw [Config.setThread_threads] at started
    split at started
    case isTrue same =>
      cases started
      rw [same]
      exact own
    case isFalse differs => exact others differs (ih.2 j thread started)

end System

end Foundation
