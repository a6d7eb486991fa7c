import Mobula.Policy.Admission
import Mobula.Foundation.StepSeries
import Mathlib.Algebra.BigOperators.Field
import Mathlib.Tactic.Ring

/-!
# What the integration of usage computes

The loop over the readings keeps an account of what has accrued up to its cursor.
Its result is the sum, over all seconds of the window, of the level at that
second. Over several pools the hours of a resource are added.
-/

namespace Mobula

open Foundation Foundation.StepSeries

variable {start stop : ℕ}

namespace Accrual

/-- What the window adds up to if the current level holds to its end. -/
def settled (state : Accrual) (stop : ℕ) : ℚ :=
  state.seconds + state.level * (stop - state.cursor : ℕ)

end Accrual

/--
The loop invariant: what has accrued, and the levels still to come from the cursor
on, make up the result. Readings up to the start of the window come first, while
the cursor is still there.
-/
theorem settled_accrue {start stop : ℕ} {points : List (ℕ × ℚ)} {state : Accrual}
    (sorted : points.Pairwise fun first second => first.1 ≤ second.1)
    (started : start ≤ state.cursor) (within : state.cursor ≤ stop)
    (ahead : ∀ point ∈ points, state.cursor ≤ point.1 ∨ state.cursor = start) :
    (accrue start stop points state).settled stop =
      state.seconds + total state.level points state.cursor stop := by
  induction points generalizing state with
  | nil =>
    rw [total_of_constant fun time _ _ => levelAt_nil state.level time, nsmul_eq_mul, mul_comm]
    rfl
  | cons point points ih =>
    rcases point with ⟨time, quantity⟩
    rw [List.pairwise_cons] at sorted
    unfold accrue
    split
    case isTrue early =>
      -- A reading taken by the start replaces the level entering the window.
      have rest := @ih ⟨quantity, state.cursor, state.seconds⟩ sorted.2 started within
        fun point pointMem => ahead point (by simp [pointMem])
      rw [rest]
      congr 1
      apply total_congr
      intro second onward _
      rw [levelAt_cons, if_pos (early.trans (started.trans onward))]
    case isFalse late =>
      have reached : state.cursor ≤ time := by
        rcases ahead (time, quantity) (by simp) with onward | atStart
        · exact onward
        · omega
      split
      case isTrue beyond =>
        -- Nothing from here on is taken within the window.
        rw [total_until_first sorted.1 beyond, nsmul_eq_mul, mul_comm]
        rfl
      case isFalse inside =>
        have rest := @ih
          ⟨quantity, time, state.seconds + state.level * (time - state.cursor : ℕ)⟩ sorted.2
          (started.trans reached) (Nat.le_of_not_le inside)
          fun point pointMem => .inl (sorted.1 point pointMem)
        have held : total state.level ((time, quantity) :: points) state.cursor time =
            state.level * (time - state.cursor : ℕ) := by
          rw [total_until_first sorted.1 (le_refl time), nsmul_eq_mul, mul_comm]
        have onward : total state.level ((time, quantity) :: points) time stop =
            total quantity points time stop := by
          apply total_congr
          intro second reached _
          rw [levelAt_cons, if_pos reached]
        rw [rest, total_eq_add reached (Nat.le_of_not_le inside), held, onward, add_assoc]

def inTimeOrder (samples : List (ℕ × ℚ)) : List (ℕ × ℚ) :=
  samples.insertionSort fun first second => first.1 ≤ second.1

/-- Resource-hours are the levels of all seconds of the window. -/
theorem resourceHours_eq_total {samples : List (ℕ × ℚ)} :
    resourceHours samples start stop = total 0 (inTimeOrder samples) start stop / 3600 := by
  unfold resourceHours
  split
  case isTrue closed =>
    simp [total, Finset.Ico_eq_empty_of_le closed]
  case isFalse opened =>
    have settled := @settled_accrue start stop _ ⟨0, start, 0⟩
      (List.pairwise_insertionSort (fun first second : ℕ × ℚ => first.1 ≤ second.1) samples)
      (le_refl start) (Nat.le_of_not_le opened) fun _ _ => .inr rfl
    simp only [Accrual.settled, zero_add] at settled
    rw [inTimeOrder, ← settled]

theorem get_windowedResourceHours {series : SeriesTable} {resource : String} :
    (windowedResourceHours series start stop).get resource =
      (series.rows.map fun entry =>
        if entry.1.2 = resource then resourceHours entry.2 start stop else 0).sum := by
  have folded (entries : List ((String × String) × List (ℕ × ℚ))) (hours : ResourceMap) :
      ResourceMap.get (entries.foldl (fun hours entry =>
        hours.bump (entry.1.2, resourceHours entry.2 start stop)) hours) resource =
      hours.get resource + (entries.map fun entry =>
        if entry.1.2 = resource then resourceHours entry.2 start stop else 0).sum := by
    induction entries generalizing hours with
    | nil => simp
    | cons entry entries ih =>
      simp [ih, ResourceMap.get_bump, add_assoc]
  rw [windowedResourceHours, folded]
  simp [ResourceMap.get]

end Mobula
