import Mobula.Foundation.Log
import Mobula.Policy.Usage
import Mathlib.Data.List.MinMax
import Mathlib.MeasureTheory.Integral.IntervalIntegral.Basic

/-!
# Resource-hours as an integral

The readings of a resource say how much of it is held from one reading to the
next. Resource-hours over a window are the integral of that level.
-/

namespace Mobula

open Foundation Foundation.StepSeries MeasureTheory List

variable {samples : List (ℕ × ℚ)} {start stop : ℕ}

/-- The quantity of the latest sample that was taken by a time, zero if there is none. -/
noncomputable def stepLevel (samples : List (ℕ × ℚ)) (time : ℝ) : ℚ :=
  (((samples.filter fun sample => (sample.1 : ℝ) ≤ time).argmax Prod.fst).map Prod.snd).getD 0

theorem getLast?_inTimeOrder (distinct : (samples.map Prod.fst).Nodup) :
    (inTimeOrder samples).getLast? = samples.argmax Prod.fst := by
  have mem_iff {sample : ℕ × ℚ} : sample ∈ inTimeOrder samples ↔ sample ∈ samples :=
    mem_insertionSort _
  cases latest : samples.argmax Prod.fst with
  | none =>
    rw [argmax_eq_none] at latest
    rw [latest]
    rfl
  | some sample =>
    rcases argmax_eq_some_iff.mp latest with ⟨taken, newest, _⟩
    have nonempty : inTimeOrder samples ≠ [] := ne_nil_of_mem (mem_iff.mpr taken)
    have last := getLast_mem nonempty
    have ordered : (inTimeOrder samples).Pairwise fun first second => first.1 ≤ second.1 :=
      pairwise_insertionSort _ _
    have reached : sample.1 ≤ ((inTimeOrder samples).getLast nonempty).1 :=
      ordered.rel_getLast (mem_iff.mpr taken)
    have same := le_antisymm (newest _ (mem_iff.mp last)) reached
    rw [getLast?_eq_some_getLast nonempty,
      inj_on_of_nodup_map distinct (mem_iff.mp last) taken same]

theorem stepLevel_eq (distinct : (samples.map Prod.fst).Nodup) {second : ℕ} {time : ℝ}
    (reached : second ≤ time) (before : time < second + 1) :
    stepLevel samples time = levelAt 0 (inTimeOrder samples) second := by
  have taken (sample : ℕ × ℚ) : (sample.1 : ℝ) ≤ time ↔ sample.1 ≤ second := by
    constructor
    · intro early
      exact_mod_cast Nat.lt_add_one_iff.mp (by exact_mod_cast early.trans_lt before)
    · intro early
      exact (Nat.cast_le.mpr early).trans reached
  have kept : ((samples.filter fun sample => sample.1 ≤ second).map Prod.fst).Nodup :=
    distinct.sublist (filter_sublist.map _)
  have level : levelAt 0 ((inTimeOrder samples).filter fun sample => sample.1 ≤ second) second =
      _ := levelAt_of_taken (by simp)
  rw [levelAt_filter (by simp), inTimeOrder, filter_insertionSort] at level
  rw [stepLevel, inTimeOrder, level, ← inTimeOrder, getLast?_inTimeOrder kept]
  simp only [taken]

theorem integral_stepLevel (distinct : (samples.map Prod.fst).Nodup) (opened : start ≤ stop) :
    ∫ time in (start : ℝ)..stop, (stepLevel samples time : ℝ) =
      total 0 (inTimeOrder samples) start stop := by
  let level (second : ℕ) : ℝ := (levelAt 0 (inTimeOrder samples) second : ℚ)
  have held (second : ℕ) : Set.EqOn (fun time => (stepLevel samples time : ℝ))
      (fun _ => level second) (Set.Ioo (second : ℝ) (second + 1 : ℕ)) := by
    rintro time ⟨reached, before⟩
    simp only [level]
    rw [stepLevel_eq distinct reached.le (by exact_mod_cast before)]
  have ordered (second : ℕ) : (second : ℝ) ≤ (second + 1 : ℕ) := by exact_mod_cast second.le_succ
  have integrable (second : ℕ) : IntervalIntegrable (fun time => (stepLevel samples time : ℝ))
      volume second (second + 1 : ℕ) := by
    rw [intervalIntegrable_iff_integrableOn_Ioo_of_le (ordered second)]
    exact (integrableOn_const (by simp)).congr_fun (held second).symm measurableSet_Ioo
  have seconds := intervalIntegral.sum_integral_adjacent_intervals_Ico opened
    fun second _ => integrable second
  rw [← seconds, total, Rat.cast_sum]
  refine Finset.sum_congr rfl fun second _ => ?_
  rw [intervalIntegral.integral_of_le (ordered second), integral_Ioc_eq_integral_Ioo,
    setIntegral_congr_fun measurableSet_Ioo (held second)]
  simp [level]

/-- Resource-hours are the integral of the level of the latest sample; they do not depend on the
order of the samples, and add up over adjacent windows. -/
theorem resource_hours_integral (samples : List (ℕ × ℚ))
    (distinct : (samples.map Prod.fst).Nodup) :
    (∀ start stop : ℕ, start < stop → (resourceHours samples start stop : ℝ) =
      1 / 3600 * ∫ time in (start : ℝ)..stop, (stepLevel samples time : ℝ)) ∧
    (∀ other, samples.Perm other → ∀ start stop,
      resourceHours samples start stop = resourceHours other start stop) ∧
    ∀ first middle last, first ≤ middle → middle ≤ last →
      resourceHours samples first middle + resourceHours samples middle last =
        resourceHours samples first last := by
  refine ⟨?_, ?_, ?_⟩
  · intro start stop opened
    rw [integral_stepLevel distinct opened.le, resourceHours_eq_total]
    push_cast
    ring
  · intro other permuted start stop
    have sorted : inTimeOrder samples = inTimeOrder other := Log.sorted_perm distinct permuted
    rw [resourceHours_eq_total, resourceHours_eq_total, sorted]
  · intro first middle last started ended
    simp only [resourceHours_eq_total]
    rw [total_eq_add started ended, add_div]

/-- Four units for an hour and one unit for the next. -/
theorem resource_hours_integral_of_two :
    resourceHours [(3600, 1), (0, 4)] 0 7200 = 5 ∧
      (5 : ℝ) = 1 / 3600 * ∫ time in (0 : ℝ)..7200, (stepLevel [(3600, 1), (0, 4)] time : ℝ) := by
  have hours : resourceHours [(3600, 1), (0, 4)] 0 7200 = 5 := by decide +kernel
  have integral := (resource_hours_integral [(3600, 1), (0, 4)] (by decide)).1 0 7200 (by decide)
  rw [hours] at integral
  exact ⟨hours, by exact_mod_cast integral⟩

end Mobula
