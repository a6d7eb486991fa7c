import Mobula.Foundation.Interleaving

/-!
# Locks

Whether a thread is inside its critical section can be read off its own history. If the machine
grants the lock only when it is free, and threads release it only from within, then no two
threads are inside at once.
-/

namespace Foundation

/-- The operations on a lock, and who holds it. -/
structure Lock (Op S : Type) where
  acquires : Op → Bool
  releases : Op → Bool
  holder : S → Option ℕ

variable {Op : Type} {Res : Op → Type} {S ρ : Type}

namespace Lock

variable (lock : Lock Op S)

/-- Whether a thread is inside after one more call. -/
def insideNext (inside : Bool) (event : Event Res) : Bool :=
  if lock.acquires event.op then true else if lock.releases event.op then false else inside

/-- Whether a thread with this history has acquired the lock and not released it since. -/
def inside (history : List (Event Res)) : Bool :=
  history.foldl lock.insideNext false

variable {lock}

theorem inside_snoc (history : List (Event Res)) (event : Event Res) :
    lock.inside (history ++ [event]) = lock.insideNext (lock.inside history) event := by
  simp [inside]

theorem inside_append_of_neutral {history later : List (Event Res)}
    (neutral : ∀ event ∈ later, lock.acquires event.op = false ∧ lock.releases event.op = false) :
    lock.inside (history ++ later) = lock.inside history := by
  induction later generalizing history with
  | nil => simp
  | cons event later ih =>
    have unaffected := neutral event List.mem_cons_self
    have rest : lock.inside (history ++ [event] ++ later) = lock.inside (history ++ [event]) :=
      ih fun other otherMem => neutral other (List.mem_cons_of_mem _ otherMem)
    simp at rest
    rw [rest, inside_snoc, insideNext, unaffected.1, unaffected.2]
    rfl

variable (lock)

/-- The machine grants the lock only when it is free, and nothing else moves it but a release. -/
structure Granted (sys : System Res S ρ) : Prop where
  acquire : ∀ {i op before answer after}, lock.acquires op = true →
    sys.exec i op before = some (answer, after) →
    lock.holder before = none ∧ lock.holder after = some i
  keep : ∀ {i op before answer after}, lock.acquires op = false → lock.releases op = false →
    sys.exec i op before = some (answer, after) → lock.holder after = lock.holder before
  drift : ∀ {before after}, sys.drift before after → lock.holder after = lock.holder before

/-- Every release in the trace is made from inside. -/
def ReleasedFromInside (trace : List (Step Res S ρ)) : Prop :=
  ∀ earlier step later, trace = earlier ++ step :: later → lock.releases step.op = true →
    lock.inside (own step.thread earlier) = true

variable {lock}

theorem ReleasedFromInside.of_append {first second : List (Step Res S ρ)}
    (respectful : lock.ReleasedFromInside (first ++ second)) : lock.ReleasedFromInside first := by
  intro earlier step later split releasing
  refine respectful earlier step (later ++ second) ?_ releasing
  simp [split]

variable {sys : System Res S ρ} {origin : S} {trace : List (Step Res S ρ)} {config : Config Res S ρ}
  (granted : lock.Granted sys) (run : sys.Run (.start origin) trace config)
  (respectful : lock.ReleasedFromInside trace)

include granted run respectful

theorem holder_of_inside {i : ℕ}
    (entered : lock.inside (own i trace) = true) : lock.holder config.state = some i := by
  induction run generalizing i with
  | refl => cases entered
  | spawn j role _ _ _ ih => exact ih respectful entered
  | drift state _ moved ih =>
    have kept := granted.drift moved
    rw [kept]
    exact ih respectful entered
  | stop j thread _ _ _ ih => exact ih respectful entered
  | @step trace prior j role op next answer state run ready answered ih =>
    have before {k : ℕ} (inside : lock.inside (own k trace) = true) :
        lock.holder prior.state = some k := ih respectful.of_append inside
    rw [own_append, own_cons] at entered
    cases acquiring : lock.acquires op with
    | true =>
      rcases granted.acquire acquiring answered with ⟨free, taken⟩
      by_cases same : j = i
      · rw [← same]
        exact taken
      · simp [same, own_nil] at entered
        have holds := before entered
        rw [free] at holds
        cases holds
    | false =>
      cases releasing : lock.releases op with
      | true =>
        have mine := before (respectful trace _ [] rfl releasing)
        by_cases same : j = i
        · simp [same, inside_snoc, insideNext, acquiring, releasing] at entered
        · simp [same, own_nil] at entered
          have holds := before entered
          simp [mine] at holds
          exact absurd holds same
      | false =>
        have kept := granted.keep acquiring releasing answered
        have entered' : lock.inside (own i trace) = true := by
          by_cases same : j = i
          · simpa [same, inside_snoc, insideNext, acquiring, releasing] using entered
          · simpa [same] using entered
        exact kept.trans (before entered')

theorem inside_unique {i j : ℕ}
    (first : lock.inside (own i trace) = true) (second : lock.inside (own j trace) = true) :
    i = j := by
  have holdsFirst := holder_of_inside granted run respectful first
  have holdsSecond := holder_of_inside granted run respectful second
  simp [holdsFirst] at holdsSecond
  exact holdsSecond

end Lock

end Foundation
