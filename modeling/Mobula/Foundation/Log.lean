import Mathlib.Data.List.Sort

/-!
# Logs

A log is a list of rows with increasing numbers. `page` is a read from the newest row downwards,
and `traverse` follows the cursors it returns. However the log grows between two reads, the
pages together are the selected rows of the first read (`traverse_eq`).
-/

namespace Foundation

open List

namespace Log

section Truncation

variable {Row κ : Type} (number : Row → κ) (limit : ℕ)

/-- The first rows, and the number of the last of them if there are more. -/
def truncate (selected : List Row) : List Row × Option κ :=
  if limit < selected.length then
    (selected.take limit, (selected.take limit).getLast?.map number)
  else (selected, none)

variable {number limit}

/-- One row beyond the limit tells whether there are more. -/
theorem truncate_take (selected : List Row) :
    truncate number limit (selected.take (limit + 1)) = truncate number limit selected := by
  rcases Nat.lt_or_ge limit selected.length with more | all
  · simp [truncate, more, take_take]
  · rw [take_of_length_le (by omega)]

/-- Rows that are shown through a view are cut where they are cut themselves. -/
theorem truncate_map {Shown : Type} {label : Shown → κ} {view : Row → Shown}
    {selected : List Row} (labelled : ∀ row ∈ selected, label (view row) = number row) :
    truncate label limit (selected.map view) =
      ((truncate number limit selected).1.map view, (truncate number limit selected).2) := by
  have last : ((selected.take limit).map view).getLast?.map label =
      (selected.take limit).getLast?.map number := by
    rw [getLast?_map, Option.map_map]
    rcases found : (selected.take limit).getLast? with _ | row
    · rfl
    have member := mem_of_mem_take (mem_of_getLast? found)
    simp [labelled row member]
  rcases Decidable.em (limit < selected.length) with more | all
  · simp only [truncate, length_map, more, if_true, ← map_take, last]
  · simp [truncate, length_map, all]

end Truncation

variable {Row κ : Type} [LinearOrder κ] (number : Row → κ)

/-- The numbers strictly increase. -/
def Ascending (rows : List Row) : Prop :=
  rows.Pairwise fun earlier later => number earlier < number later

def sorted (rows : List Row) : List Row :=
  rows.insertionSort fun left right => number left ≤ number right

variable {number} {rows first second : List Row}

theorem exists_cut (ascending : Ascending number rows) (bound : κ) :
    ∃ cut ≤ rows.length, (rows.filter fun row => decide (number row < bound)) = rows.take cut ∧
      (rows.filter fun row => decide (bound ≤ number row)) = rows.drop cut := by
  induction rows with
  | nil => exact ⟨0, Nat.le_refl 0, rfl, rfl⟩
  | cons row rows ih =>
    rcases pairwise_cons.mp ascending with ⟨least, rest⟩
    rcases ih rest with ⟨cut, inside, below, above⟩
    rcases lt_or_ge (number row) bound with low | high
    · refine ⟨cut + 1, Nat.succ_le_succ inside, ?_, ?_⟩
      · simp [low, below]
      · simp [not_le_of_gt low, above]
    · have none : ∀ later ∈ rows, bound ≤ number later :=
        fun later member => high.trans (least later member).le
      refine ⟨0, Nat.zero_le _, ?_, ?_⟩
      · simpa [not_lt_of_ge high] using none
      · simpa [high] using none

theorem ascending_append :
    Ascending number (first ++ second) ↔ Ascending number first ∧ Ascending number second ∧
      ∀ earlier ∈ first, ∀ later ∈ second, number earlier < number later :=
  pairwise_append

@[simp]
theorem mem_sorted {row : Row} : row ∈ sorted number rows ↔ row ∈ rows :=
  mem_insertionSort _

theorem sorted_ascending (distinct : (rows.map number).Nodup) :
    Ascending number (sorted number rows) := by
  have ordered : (sorted number rows).Pairwise fun left right => number left ≤ number right := by
    have := pairwise_insertionSort (fun left right : Row => number left ≤ number right) rows
    exact this
  have apart : (sorted number rows).Pairwise fun left right => number left ≠ number right := by
    have permuted := (perm_insertionSort (fun left right => number left ≤ number right) rows)
    exact pairwise_map.mp ((permuted.map number).nodup_iff.mpr distinct)
  exact ordered.imp₂ (fun _ _ below differ => lt_of_le_of_ne below differ) apart

theorem sorted_of_ascending (ascending : Ascending number rows) : sorted number rows = rows :=
  List.Pairwise.insertionSort_eq (ascending.imp fun below => below.le)

theorem sorted_perm (distinct : (first.map number).Nodup) (permuted : first.Perm second) :
    sorted number first = sorted number second := by
  have distinct' : (second.map number).Nodup := (permuted.map number).nodup_iff.mp distinct
  refine Perm.eq_of_pairwise ?_ (sorted_ascending distinct) (sorted_ascending distinct') ?_
  · intro left right _ _ below above
    exact absurd (below.trans above) (lt_irrefl _)
  · exact (perm_insertionSort _ first).trans (permuted.trans (perm_insertionSort _ second).symm)

theorem sorted_cons_of_newest {newest : Row} (distinct : (rows.map number).Nodup)
    (above : ∀ row ∈ rows, number row < number newest) :
    sorted number (newest :: rows) = sorted number rows ++ [newest] := by
  have ascending : Ascending number (sorted number rows ++ [newest]) := by
    refine ascending_append.mpr ⟨sorted_ascending distinct, pairwise_singleton _ _, ?_⟩
    simpa using above
  have fresh : number newest ∉ rows.map number := by
    rintro member
    rcases mem_map.mp member with ⟨row, inRows, same⟩
    exact absurd (above row inRows) (same ▸ lt_irrefl _)
  have permuted : (newest :: rows).Perm (sorted number rows ++ [newest]) :=
    ((perm_insertionSort _ rows).symm.cons newest).trans (perm_append_singleton _ _).symm
  have apart : ((newest :: rows).map number).Nodup := nodup_cons.mpr ⟨fresh, distinct⟩
  rw [sorted_perm apart permuted, sorted_of_ascending ascending]

section Pages

variable (number) (selects : Row → Bool) (limit : ℕ)

/-- The selected rows below the cursor, newest first. -/
def below (rows : List Row) (cursor : Option κ) : List Row :=
  (rows.filter fun row => cursor.all (fun bound => decide (number row < bound)) &&
    selects row).reverse

/-- The newest rows below the cursor, and the cursor of the rows after them. -/
def page (rows : List Row) (cursor : Option κ) : List Row × Option κ :=
  truncate number limit (below number selects rows cursor)

/-- Reads pages until there is no cursor; the log may be another one at every read. -/
def traverse : ℕ → (ℕ → List Row) → Option κ → Option (List (List Row))
  | 0, _, _ => none
  | fuel + 1, logs, cursor =>
    match page number selects limit (logs 0) cursor with
    | (rows, none) => some [rows]
    | (rows, some next) =>
      (traverse fuel (fun read => logs (read + 1)) (some next)).map (rows :: ·)

variable {number selects limit}

theorem below_descending (ascending : Ascending number rows) (cursor : Option κ) :
    (below number selects rows cursor).Pairwise fun newer older => number older < number newer :=
  pairwise_reverse.mpr (ascending.filter _)

/-- What is left below a row of the log does not change when rows are added. -/
theorem below_append (ascending : Ascending number (first ++ second)) {row : Row}
    (member : row ∈ first) : below number selects (first ++ second) (some (number row)) =
      below number selects first (some (number row)) := by
  have newer : (second.filter fun later =>
      (some (number row)).all (fun bound => decide (number later < bound)) &&
        selects later) = [] := by
    rw [filter_eq_nil_iff]
    intro later inSecond selected
    simp only [Option.all_some, Bool.and_eq_true, decide_eq_true_eq] at selected
    exact absurd selected.1 (((ascending_append.mp ascending).2.2 row member later inSecond).not_gt)
  rw [below, below, filter_append, newer, append_nil]

theorem below_last (ascending : Ascending number rows) {cursor : Option κ} {page rest : List Row}
    {last : Row} (split : below number selects rows cursor = page ++ [last] ++ rest) :
    below number selects rows (some (number last)) = rest := by
  have descending := @below_descending _ _ _ _ _ selects ascending cursor
  have inside : cursor.all fun bound => decide (number last < bound) := by
    have member : last ∈ below number selects rows cursor := by simp [split]
    simp [below, mem_reverse] at member
    exact member.2.1
  have lower : below number selects rows (some (number last)) =
      (below number selects rows cursor).filter fun row => decide (number row < number last) := by
    rw [below, below, filter_reverse, filter_filter]
    congr 2
    funext row
    rcases Decidable.em (number row < number last) with low | high
    · have : cursor.all fun bound => decide (number row < bound) := by
        rcases cursor with _ | bound
        · rfl
        · simpa using low.trans (by simpa using inside)
      simp [low, this]
    · simp [high]
  rw [lower, split]
  rw [split, append_assoc, pairwise_append] at descending
  rcases descending with ⟨-, tail, apart⟩
  rcases pairwise_cons.mp tail with ⟨older, -⟩
  have first : (page.filter fun row => decide (number row < number last)) = [] := by
    rw [filter_eq_nil_iff]
    intro row member low
    exact absurd (of_decide_eq_true low) (apart row member last (by simp)).not_gt
  have second : (rest.filter fun row => decide (number row < number last)) = rest := by
    rw [filter_eq_self]
    intro row member
    exact decide_eq_true (older row member)
  simp [filter_append, first, second]

/--
The pages of a traversal are the selected rows that were below the cursor at the
first read, in falling order, and none is longer than the limit.
-/
theorem traverse_eq (positive : 0 < limit) {logs : ℕ → List Row} (cursor : Option κ)
    (ascending : ∀ read, Ascending number (logs read))
    (grows : ∀ read, logs read <+: logs (read + 1)) {fuel : ℕ}
    (enough : (below number selects (logs 0) cursor).length < fuel) :
    ∃ pages, traverse number selects limit fuel logs cursor = some pages ∧
      pages.flatten = below number selects (logs 0) cursor ∧
      ∀ rows ∈ pages, rows.length ≤ limit := by
  induction fuel generalizing logs cursor with
  | zero => exact absurd enough (Nat.not_lt_zero _)
  | succ fuel ih =>
    rcases Nat.lt_or_ge limit (below number selects (logs 0) cursor).length with more | all
    · -- the page ends at a row of the log, and the next one starts below that row
      have full : ((below number selects (logs 0) cursor).take limit).length = limit := by
        rw [length_take]
        omega
      obtain ⟨front, last, frontEq⟩ : ∃ front last,
          (below number selects (logs 0) cursor).take limit = front ++ [last] := by
        have nonempty : (below number selects (logs 0) cursor).take limit ≠ [] := by
          intro empty
          rw [empty] at full
          exact absurd full.symm positive.ne'
        exact ⟨_, _, (dropLast_append_getLast nonempty).symm⟩
      have split : below number selects (logs 0) cursor =
          front ++ [last] ++ (below number selects (logs 0) cursor).drop limit := by
        rw [← frontEq, take_append_drop]
      have left : below number selects (logs 1) (some (number last)) =
          (below number selects (logs 0) cursor).drop limit := by
        have member : last ∈ logs 0 := by
          have : last ∈ below number selects (logs 0) cursor := by
            rw [split]
            simp
          simp [below, mem_reverse] at this
          exact this.1
        rcases grows 0 with ⟨new, newEq⟩
        have whole := ascending 1
        rw [← newEq] at whole ⊢
        rw [below_append whole member, below_last (ascending 0) split]
      have shorter : (below number selects (logs 1) (some (number last))).length < fuel := by
        rw [left, length_drop]
        omega
      rcases @ih (fun read => logs (read + 1)) (some (number last))
        (fun read => ascending (read + 1)) (fun read => grows (read + 1)) shorter with
        ⟨pages, done, flat, short⟩
      refine ⟨(front ++ [last]) :: pages, ?_, ?_, ?_⟩
      · simp [traverse, page, truncate, more, frontEq, done]
      · rw [flatten_cons, flat, left, ← split]
      · intro rows member
        rcases mem_cons.mp member with rfl | later
        · rw [← frontEq, full]
        · exact short rows later
    · refine ⟨[below number selects (logs 0) cursor], ?_, by simp, by simpa using all⟩
      simp [traverse, page, truncate, Nat.not_lt.mpr all]

end Pages

end Log

end Foundation
