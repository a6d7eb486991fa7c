import Mathlib.Algebra.BigOperators.Intervals
import Mathlib.Algebra.Order.BigOperators.Group.Finset
import Mathlib.Data.List.Sort

/-!
# Step series

A series of timed readings describes a level over time: each reading holds until
the next one. Time is discrete, so the level accumulated over a stretch of time
is a sum over its instants.
-/

namespace Foundation.StepSeries

open List

section Sorting

variable {α : Type} {before : α → α → Prop} [DecidableRel before]

theorem orderedInsert_of_first {first : α} {rest : List α}
    (least : ∀ other ∈ rest, before first other) :
    rest.orderedInsert before first = first :: rest := by
  rcases rest with _ | ⟨second, rest⟩
  · rfl
  · exact orderedInsert_cons_of_le before rest (least second (by simp))

variable [IsTrans α before]

theorem filter_orderedInsert (selects : α → Bool) (added : α) {rest : List α}
    (sorted : rest.Pairwise before) : (rest.orderedInsert before added).filter selects =
      if selects added then (rest.filter selects).orderedInsert before added
      else rest.filter selects := by
  induction rest with
  | nil => simp [filter_singleton]
  | cons head rest ih =>
    rw [pairwise_cons] at sorted
    by_cases least : before added head
    · have precedes : ∀ other ∈ (head :: rest).filter selects, before added other := by
        intro other otherMem
        rcases mem_cons.mp (mem_of_mem_filter otherMem) with rfl | later
        · exact least
        · exact IsTrans.trans added head other least (sorted.1 other later)
      rw [orderedInsert_cons_of_le before rest least, orderedInsert_of_first precedes, filter_cons]
    · rw [orderedInsert_of_not_le before rest least, filter_cons, ih sorted.2, filter_cons]
      by_cases headSelected : selects head
      · simp only [headSelected, if_true]
        split
        · rw [orderedInsert_of_not_le before _ least]
        · rfl
      · simp [headSelected]

theorem filter_insertionSort [Std.Total before] (selects : α → Bool) (entries : List α) :
    (entries.insertionSort before).filter selects =
      (entries.filter selects).insertionSort before := by
  induction entries with
  | nil => rfl
  | cons entry entries ih =>
    rw [insertionSort_cons,
      filter_orderedInsert selects entry (pairwise_insertionSort before entries), ih,
      filter_cons]
    split
    · rw [insertionSort_cons]
    · rfl

end Sorting

variable {β : Type}

/-- The level at a time: that of the last reading, in list order, taken by then. -/
def levelAt (before : β) (readings : List (ℕ × β)) (time : ℕ) : β :=
  readings.foldl (fun level reading => if reading.1 ≤ time then reading.2 else level) before

@[simp]
theorem levelAt_nil (before : β) (time : ℕ) : levelAt before [] time = before := rfl

theorem levelAt_cons (before : β) (reading : ℕ × β) (readings : List (ℕ × β)) (time : ℕ) :
    levelAt before (reading :: readings) time =
      levelAt (if reading.1 ≤ time then reading.2 else before) readings time := rfl

theorem levelAt_append (before : β) (earlier later : List (ℕ × β)) (time : ℕ) :
    levelAt before (earlier ++ later) time = levelAt (levelAt before earlier time) later time := by
  simp [levelAt]

variable {before : β} {readings : List (ℕ × β)} {time : ℕ}

theorem levelAt_of_later (later : ∀ reading ∈ readings, time < reading.1) :
    levelAt before readings time = before := by
  induction readings with
  | nil => rfl
  | cons reading readings ih =>
    rw [forall_mem_cons] at later
    rw [levelAt_cons, if_neg (by omega)]
    exact ih later.2

theorem levelAt_filter {selects : ℕ × β → Bool}
    (taken : ∀ reading ∈ readings, reading.1 ≤ time → selects reading = true) :
    levelAt before (readings.filter selects) time = levelAt before readings time := by
  induction readings generalizing before with
  | nil => rfl
  | cons reading readings ih =>
    rw [forall_mem_cons] at taken
    rw [filter_cons]
    by_cases selected : selects reading = true
    · rw [if_pos selected, levelAt_cons, levelAt_cons, ih taken.2]
    · have ahead : ¬ reading.1 ≤ time := fun reached => selected (taken.1 reached)
      rw [if_neg selected, levelAt_cons, if_neg ahead, ih taken.2]

theorem levelAt_of_taken (taken : ∀ reading ∈ readings, reading.1 ≤ time) :
    levelAt before readings time = (readings.getLast?.map Prod.snd).getD before := by
  induction readings generalizing before with
  | nil => rfl
  | cons reading readings ih =>
    rw [forall_mem_cons] at taken
    rw [levelAt_cons, if_pos taken.1, ih taken.2]
    rcases readings with _ | ⟨next, rest⟩
    · rfl
    rw [getLast?_cons_cons, getLast?_eq_some_getLast (by simp)]
    rfl

/-- Levels read together at one time: the last of them holds from then on. -/
theorem levelAt_simultaneous (before : β) (levels : List β) (taken time : ℕ) :
    levelAt before (levels.map (taken, ·)) time =
      if taken ≤ time then levels.getLast?.getD before else before := by
  split
  case isTrue reached =>
    rw [levelAt_of_taken (by simpa using fun _ _ => reached), getLast?_map]
    rcases levels.getLast? with _ | level <;> rfl
  case isFalse ahead =>
    exact levelAt_of_later (by simpa using fun _ _ => Nat.lt_of_not_le ahead)

/-- The same levels read again and again: their last one holds from the first time on. -/
theorem levelAt_repeated (before : β) (levels : List β) (times : List ℕ) (time : ℕ) :
    levelAt before (times.flatMap fun taken => levels.map (taken, ·)) time =
      if times.any (· ≤ time) then levels.getLast?.getD before else before := by
  induction times generalizing before with
  | nil => rfl
  | cons taken times ih =>
    simp [levelAt_append, ih, levelAt_simultaneous]
    by_cases reached : taken ≤ time
    · rcases levels.getLast? with _ | level <;> simp [reached]
    · simp [reached]

section Totals

variable [AddCommMonoid β]

/-- The level accumulated from one time up to another. -/
def total (before : β) (readings : List (ℕ × β)) (start stop : ℕ) : β :=
  ∑ time ∈ Finset.Ico start stop, levelAt before readings time

variable {start stop : ℕ}

theorem total_eq_add {middle : ℕ} (first : start ≤ middle) (second : middle ≤ stop) :
    total before readings start stop =
      total before readings start middle + total before readings middle stop :=
  (Finset.sum_Ico_consecutive _ first second).symm

theorem total_congr {before' : β} {readings' : List (ℕ × β)}
    (same : ∀ time, start ≤ time → time < stop →
      levelAt before readings time = levelAt before' readings' time) :
    total before readings start stop = total before' readings' start stop := by
  refine Finset.sum_congr rfl ?_
  intro time timeMem
  rw [Finset.mem_Ico] at timeMem
  exact same time timeMem.1 timeMem.2

/-- A level that does not change accumulates at a constant rate. -/
theorem total_of_constant {level : β}
    (constant : ∀ time, start ≤ time → time < stop → levelAt before readings time = level) :
    total before readings start stop = (stop - start) • level := by
  rw [total, Finset.sum_congr rfl fun time timeMem =>
    constant time (Finset.mem_Ico.mp timeMem).1 (Finset.mem_Ico.mp timeMem).2]
  simp

/-- Up to the first reading the level is the one before it. -/
theorem total_until_first {reading : ℕ × β} (first : ∀ later ∈ readings, reading.1 ≤ later.1)
    (ended : stop ≤ reading.1) :
    total before (reading :: readings) start stop = (stop - start) • before := by
  apply total_of_constant
  intro time _ earlier
  apply levelAt_of_later
  intro other otherMem
  rcases mem_cons.mp otherMem with rfl | later
  · exact lt_of_lt_of_le earlier ended
  · exact lt_of_lt_of_le earlier (ended.trans (first other later))

end Totals

end Foundation.StepSeries
