import Mobula.Foundation.Program
import Mathlib.Data.Nat.Notation
import Mathlib.Logic.Function.Basic

/-!
# Interleaved runs of programs

A system runs any number of threads against one shared state; the role of a thread determines
its program. If every role's program obeys a discipline, then every step of every run is
allowed by what the stepping thread itself did before (`Run.allowed_step`). Facts about the
shared state are invariants over a part of a trace (`Run.preserves`).
-/

namespace Foundation

open List

structure Thread {Op : Type} (Res : Op → Type) (ρ : Type) where
  role : ρ
  program : Prog Res Unit

structure Config {Op : Type} (Res : Op → Type) (S ρ : Type) where
  state : S
  threads : ℕ → Option (Thread Res ρ)

structure Step {Op : Type} (Res : Op → Type) (S ρ : Type) where
  thread : ℕ
  role : ρ
  before : S
  op : Op
  answer : Res op
  after : S

/-- How calls are answered, which threads may exist, and what else may change the state. -/
structure System {Op : Type} (Res : Op → Type) (S ρ : Type) where
  exec : ℕ → (op : Op) → S → Option (Res op × S)
  behaviour : ρ → Prog Res Unit
  admits : Config Res S ρ → ρ → Prop
  stoppable : ρ → Prop
  drift : S → S → Prop

variable {Op : Type} {Res : Op → Type} {S ρ : Type} {i : ℕ}

namespace Config

/-- Nothing has been spawned yet. -/
def start (state : S) : Config Res S ρ :=
  ⟨state, fun _ => none⟩

def setThread (config : Config Res S ρ) (i : ℕ) (thread : Thread Res ρ) : Config Res S ρ :=
  { config with threads := Function.update config.threads i (some thread) }

@[simp]
theorem setThread_state (config : Config Res S ρ) (i : ℕ) (thread : Thread Res ρ) :
    (config.setThread i thread).state = config.state := rfl

theorem setThread_threads (config : Config Res S ρ) (i j : ℕ) (thread : Thread Res ρ) :
    (config.setThread i thread).threads j = if j = i then some thread else config.threads j := by
  simp [setThread, Function.update_apply]

end Config

/-- The events of one thread in a trace, in order. -/
def own (i : ℕ) (trace : List (Step Res S ρ)) : List (Event Res) :=
  trace.filterMap fun step => if step.thread = i then some ⟨step.op, step.answer⟩ else none

@[simp]
theorem own_nil : own i ([] : List (Step Res S ρ)) = [] := rfl

@[simp]
theorem own_append {first second : List (Step Res S ρ)} :
    own i (first ++ second) = own i first ++ own i second := by
  simp [own]

theorem own_cons {step : Step Res S ρ} {rest : List (Step Res S ρ)} : own i (step :: rest) =
      if step.thread = i then ⟨step.op, step.answer⟩ :: own i rest else own i rest := by
  by_cases same : step.thread = i <;> simp [own, same]

variable {trace : List (Step Res S ρ)} {event : Event Res}

/-- An event in the middle of a thread's history is a step in the middle of the trace. -/
theorem own_eq_append_cons {earlier later : List (Event Res)}
    (split : own i trace = earlier ++ event :: later) :
    ∃ before step after, trace = before ++ step :: after ∧ step.thread = i ∧
      (⟨step.op, step.answer⟩ : Event Res) = event ∧ own i before = earlier ∧
      own i after = later := by
  induction trace generalizing earlier with
  | nil => simp at split
  | cons head rest ih =>
    rw [own_cons] at split
    by_cases mine : head.thread = i
    · rw [if_pos mine] at split
      cases earlier with
      | nil =>
        simp at split
        exact ⟨[], head, rest, rfl, mine, split.1, rfl, split.2⟩
      | cons first others =>
        simp at split
        obtain ⟨before, step, after, rfl, owner, event_eq, earlier_eq, later_eq⟩ := ih split.2
        refine ⟨head :: before, step, after, rfl, owner, event_eq, ?_, later_eq⟩
        rw [own_cons, if_pos mine, split.1, earlier_eq]
    · rw [if_neg mine] at split
      obtain ⟨before, step, after, rfl, owner, event_eq, earlier_eq, later_eq⟩ := ih split
      refine ⟨head :: before, step, after, rfl, owner, event_eq, ?_, later_eq⟩
      rw [own_cons, if_neg mine, earlier_eq]

theorem mem_own : event ∈ own i trace ↔
      ∃ step ∈ trace, step.thread = i ∧ (⟨step.op, step.answer⟩ : Event Res) = event := by
  simp only [own, mem_filterMap]
  constructor
  · rintro ⟨step, stepMem, selected⟩
    by_cases mine : step.thread = i
    · exact ⟨step, stepMem, mine, by simpa [mine] using selected⟩
    · simp [mine] at selected
  · rintro ⟨step, stepMem, mine, rfl⟩
    exact ⟨step, stepMem, by simp [mine]⟩

namespace System

/-- Every way the system can get from one configuration to another, with the calls made. -/
inductive Run (sys : System Res S ρ) (origin : Config Res S ρ) :
    List (Step Res S ρ) → Config Res S ρ → Prop
  | refl : Run sys origin [] origin
  | spawn {trace config} (i : ℕ) (role : ρ) (run : Run sys origin trace config)
      (fresh : config.threads i = none) (admitted : sys.admits config role) :
      Run sys origin trace (config.setThread i ⟨role, sys.behaviour role⟩)
  | drift {trace config} (state : S) (run : Run sys origin trace config)
      (moved : sys.drift config.state state) :
      Run sys origin trace { config with state := state }
  | stop {trace config} (i : ℕ) (thread : Thread Res ρ) (run : Run sys origin trace config)
      (started : config.threads i = some thread) (stoppable : sys.stoppable thread.role) :
      Run sys origin trace (config.setThread i ⟨thread.role, .ret ()⟩)
  | step {trace config} (i : ℕ) (role : ρ) (op : Op) (next : Res op → Prog Res Unit)
      (answer : Res op) (state : S) (run : Run sys origin trace config)
      (ready : config.threads i = some ⟨role, .call op next⟩)
      (answered : sys.exec i op config.state = some (answer, state)) :
      Run sys origin (trace ++ [⟨i, role, config.state, op, answer, state⟩])
        ({ config with state := state }.setThread i ⟨role, next answer⟩)

namespace Run

variable {sys : System Res S ρ} {origin config : Config Res S ρ}
  {trace earlier later : List (Step Res S ρ)} {step : Step Res S ρ}

theorem trans {middle : Config Res S ρ} (first : sys.Run origin earlier middle)
    (second : sys.Run middle later config) : sys.Run origin (earlier ++ later) config := by
  induction second with
  | refl => simpa using first
  | spawn i role _ fresh admitted ih => exact .spawn i role ih fresh admitted
  | drift state _ moved ih => exact .drift state ih moved
  | stop i thread _ started stoppable ih => exact .stop i thread ih started stoppable
  | step i role op next answer state _ ready answered ih =>
    rw [← append_assoc]
    exact .step i role op next answer state ih ready answered

/-- Where a run has come to, another one starts. -/
theorem resumed (_ : sys.Run origin trace config) : sys.Run config [] config :=
  .refl

/-- A run seen from one of its steps: up to the call, the call itself, and what follows. -/
theorem at_step (run : sys.Run origin trace config) (split : trace = earlier ++ step :: later) :
    ∃ (prior : Config Res S ρ) (next : Res step.op → Prog Res Unit),
      sys.Run origin earlier prior ∧ prior.state = step.before ∧
      prior.threads step.thread = some ⟨step.role, .call step.op next⟩ ∧
      sys.exec step.thread step.op step.before = some (step.answer, step.after) ∧
      sys.Run ({ prior with state := step.after }.setThread step.thread
        ⟨step.role, next step.answer⟩) later config := by
  induction run generalizing later with
  | refl => simp at split
  | spawn i role _ fresh admitted ih =>
    obtain ⟨prior, next, reached, state_eq, ready, answered, rest⟩ := ih split
    exact ⟨prior, next, reached, state_eq, ready, answered, .spawn i role rest fresh admitted⟩
  | drift state _ moved ih =>
    obtain ⟨prior, next, reached, state_eq, ready, answered, rest⟩ := ih split
    exact ⟨prior, next, reached, state_eq, ready, answered, .drift state rest moved⟩
  | stop i thread _ started stoppable ih =>
    obtain ⟨prior, next, reached, state_eq, ready, answered, rest⟩ := ih split
    exact ⟨prior, next, reached, state_eq, ready, answered, .stop i thread rest started stoppable⟩
  | @step trace prior i role op next answer state reached ready answered ih =>
    rcases eq_nil_or_concat later with rfl | ⟨front, last, rfl⟩
    · obtain ⟨rfl, last_eq⟩ := append_inj' split rfl
      obtain rfl := singleton_inj.mp last_eq
      exact ⟨prior, next, reached, rfl, ready, answered, .refl⟩
    · rw [concat_eq_append, ← cons_append, ← append_assoc] at split
      obtain ⟨trace_eq, last_eq⟩ := append_inj' split rfl
      obtain rfl := singleton_inj.mp last_eq
      obtain ⟨first, resume, before, state_eq, started, replied, rest⟩ := ih trace_eq
      rw [concat_eq_append]
      exact ⟨first, resume, before, state_eq, started, replied,
        .step i role op next answer state rest ready answered⟩

theorem exec_of_mem (run : sys.Run origin trace config) (stepMem : step ∈ trace) :
    sys.exec step.thread step.op step.before = some (step.answer, step.after) := by
  obtain ⟨earlier, later, split⟩ := append_of_mem stepMem
  obtain ⟨_, _, _, _, _, answered, _⟩ := run.at_step split
  exact answered

/-- A property kept by the environment and by every recorded step holds at the end. -/
theorem preserves (run : sys.Run origin trace config) (invariant : S → Prop)
    (drifts : ∀ before after, sys.drift before after → invariant before → invariant after)
    (steps : ∀ earlier step later, trace = earlier ++ step :: later →
      sys.exec step.thread step.op step.before = some (step.answer, step.after) →
      invariant step.before → invariant step.after)
    (holds : invariant origin.state) : invariant config.state := by
  induction run with
  | refl => exact holds
  | spawn i role _ fresh admitted ih => exact ih steps
  | drift state _ moved ih => exact drifts _ _ moved (ih steps)
  | stop i thread _ started stoppable ih => exact ih steps
  | @step trace prior i role op next answer state _ ready answered ih =>
    refine steps trace ⟨i, role, prior.state, op, answer, state⟩ [] rfl answered (ih ?_)
    intro earlier step later split
    refine steps earlier step (later ++ [⟨i, role, prior.state, op, answer, state⟩]) ?_
    simp [split]

variable {first second : Step Res S ρ} {middle : List (Step Res S ρ)}

/--
Between two steps of a run: a property established by the first one and kept by
everything in between holds when the second is made.
-/
theorem between (run : sys.Run origin (earlier ++ first :: (middle ++ second :: later)) config)
    (invariant : S → Prop)
    (drifts : ∀ before after, sys.drift before after → invariant before → invariant after)
    (steps : ∀ front step back, middle = front ++ step :: back →
      sys.exec step.thread step.op step.before = some (step.answer, step.after) →
      invariant step.before → invariant step.after) (holds : invariant first.after) :
    invariant second.before := by
  obtain ⟨_, _, _, _, _, _, rest⟩ := run.at_step rfl
  obtain ⟨_, _, window, state_eq, _, _, _⟩ := rest.at_step rfl
  rw [← state_eq]
  exact window.preserves invariant drifts steps holds

/-- The part of a run from one step up to another one. -/
theorem window (run : sys.Run origin (earlier ++ first :: (middle ++ second :: later)) config) :
    ∃ start stop, sys.Run start (first :: middle) stop ∧ start.state = first.before ∧
      stop.state = second.before := by
  obtain ⟨start, next, _, start_eq, ready, answered, rest⟩ := run.at_step rfl
  obtain ⟨stop, _, inner, stop_eq, _, _, _⟩ := rest.at_step rfl
  rcases first with ⟨i, role, before, op, answer, after⟩
  subst start_eq
  exact ⟨start, stop, (Run.step i role op next answer after .refl ready answered).trans inner,
    rfl, stop_eq⟩

/--
A preorder on states along which the environment and every recorded step move
compares the states of any two steps.
-/
theorem comparable (run : sys.Run origin trace config) (follows : S → S → Prop)
    (refl : ∀ state, follows state state)
    (trans : ∀ {first second third}, follows first second → follows second third →
      follows first third) (drifts : ∀ before after, sys.drift before after → follows before after)
    (steps : ∀ step ∈ trace, follows step.before step.after) (firstMem : first ∈ trace)
    (secondMem : second ∈ trace) :
    follows first.before second.before ∨ follows second.before first.before := by
  have ordered {early late : Step Res S ρ} {front middle back : List (Step Res S ρ)}
      (split : trace = front ++ early :: (middle ++ late :: back)) :
      follows early.before late.before := by
    subst split
    refine trans (steps early (by simp)) (run.between (follows early.after) ?_ ?_ (refl _))
    · intro before after moved reached
      exact trans reached (drifts before after moved)
    · intro before inner after window _ reached
      exact trans reached (steps inner (by simp [window]))
  rcases append_of_mem firstMem with ⟨front, back, split⟩
  rw [split] at secondMem
  rcases mem_append.mp secondMem with early | late
  · rcases append_of_mem early with ⟨before, middle, frontEq⟩
    simp [frontEq] at split
    exact .inr (ordered split)
  · rcases mem_cons.mp late with rfl | later
    · exact .inl (refl _)
    · rcases append_of_mem later with ⟨middle, after, backEq⟩
      rw [backEq] at split
      exact .inl (ordered split)

end Run

section Discipline

variable {sys : System Res S ρ} {state : S} {config : Config Res S ρ}
  {trace earlier later : List (Step Res S ρ)} {step : Step Res S ρ}
  (assumed : List (Event Res) → (op : Op) → Res op → Prop)
  (allowed : ρ → List (Event Res) → Op → Prop)

theorem Run.own_of_unstarted (run : sys.Run (.start state) trace config)
    (unstarted : config.threads i = none) : own i trace = [] := by
  induction run with
  | refl => rfl
  | spawn j role _ fresh _ ih =>
    by_cases same : i = j
    · rw [Config.setThread_threads, if_pos same] at unstarted
      cases unstarted
    · rw [Config.setThread_threads, if_neg same] at unstarted
      exact ih unstarted
  | drift state _ _ ih => exact ih unstarted
  | stop j thread _ _ _ ih =>
    by_cases same : i = j
    · rw [Config.setThread_threads, if_pos same] at unstarted
      cases unstarted
    · rw [Config.setThread_threads, if_neg same] at unstarted
      exact ih unstarted
  | step j role op next answer state _ _ _ ih =>
    by_cases same : i = j
    · rw [Config.setThread_threads, if_pos same] at unstarted
      cases unstarted
    · rw [Config.setThread_threads, if_neg same] at unstarted
      simp [own_cons, ih unstarted, Ne.symm same]

variable
  (answers : ∀ {trace config i op answer after}, sys.Run (.start state) trace config →
    sys.exec i op config.state = some (answer, after) → assumed (own i trace) op answer)
  (disciplined : ∀ config role, sys.admits config role →
    (sys.behaviour role).Obeys assumed (allowed role) (fun _ _ => True) [])

include answers disciplined

/-- What is left of a thread's program obeys the discipline after the thread's own history. -/
theorem Run.obeys (run : sys.Run (.start state) trace config) {thread : Thread Res ρ}
    (started : config.threads i = some thread) :
    thread.program.Obeys assumed (allowed thread.role) (fun _ _ => True) (own i trace) := by
  induction run generalizing thread with
  | refl => cases started
  | @spawn _ prior j role run fresh admitted ih =>
    rw [Config.setThread_threads] at started
    by_cases same : i = j
    · simp [if_pos same] at started
      subst same started
      rw [run.own_of_unstarted fresh]
      exact disciplined prior role admitted
    · rw [if_neg same] at started
      exact ih started
  | drift state _ _ ih => exact ih started
  | stop j halted _ halting _ ih =>
    rw [Config.setThread_threads] at started
    by_cases same : i = j
    · simp [if_pos same] at started
      subst started
      trivial
    · rw [if_neg same] at started
      exact ih started
  | step j role op next answer state run ready answered ih =>
    rw [Config.setThread_threads] at started
    by_cases same : i = j
    · simp [if_pos same] at started
      subst same started
      rw [own_append, own_cons, if_pos rfl]
      exact (ih ready).2 answer (answers run answered)
    · rw [if_neg same] at started
      simpa [own_cons, Ne.symm same] using ih started

/-- Every step of a run is allowed by the stepping thread's own history. -/
theorem Run.allowed_step (run : sys.Run (.start state) trace config)
    (split : trace = earlier ++ step :: later) :
    allowed step.role (own step.thread earlier) step.op := by
  obtain ⟨_, _, reached, _, ready, _, _⟩ := run.at_step split
  exact (reached.obeys assumed allowed answers disciplined ready).1

end Discipline

/-- Every step of a run is on an operation its role's program can reach. -/
theorem Run.permitted_step {sys : System Res S ρ} {state : S} {config : Config Res S ρ}
    {earlier later : List (Step Res S ρ)} {step : Step Res S ρ}
    (run : sys.Run (.start state) trace config) (permitted : ρ → Op → Prop)
    (within : ∀ config role, sys.admits config role →
      (sys.behaviour role).Within (permitted role)) (split : trace = earlier ++ step :: later) :
    permitted step.role step.op := by
  have disciplined (config : Config Res S ρ) (role : ρ) (admitted : sys.admits config role) :
      (sys.behaviour role).Obeys (fun _ _ _ => True) (fun _ op => permitted role op)
        (fun _ _ => True) [] :=
    ((within config role admitted).obeys fun _ _ _ reachable => reachable).mono fun _ _ _ => trivial
  exact run.allowed_step (fun _ _ _ => True) (fun role _ op => permitted role op)
    (fun _ _ => trivial) disciplined split

end System

end Foundation
