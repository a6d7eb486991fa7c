import Mathlib.Data.List.Nodup

/-!
# Keyed tables

A table is a finite list of rows with distinct keys, computed from the rows themselves. The list
order is the order in which an iteration visits the rows; nothing below depends on it, and
`Table.Reordered` relates two tables that differ in it only.
-/

namespace Foundation

open List

/-- A finite table whose rows carry their own key. -/
structure Table {α κ : Type} (key : α → κ) where
  rows : List α
  nodup : (rows.map key).Nodup

namespace Table

variable {α κ : Type} {key : α → κ}

def empty : Table key := ⟨[], by simp⟩

/-- Two tables with the same rows, possibly visited in another order. -/
def Reordered (left right : Table key) : Prop :=
  left.rows.Perm right.rows

def retain (table : Table key) (keep : α → Bool) : Table key :=
  ⟨table.rows.filter keep, (List.filter_sublist.map key).nodup table.nodup⟩

theorem eq_of_mem_of_key_eq {table : Table key} {left right : α}
    (leftMem : left ∈ table.rows) (rightMem : right ∈ table.rows)
    (sameKey : key left = key right) : left = right :=
  inj_on_of_nodup_map table.nodup leftMem rightMem sameKey

/-- Some order of the rows visits a given row first. -/
theorem exists_reordered_with_head {table : Table key} {row : α} (rowMem : row ∈ table.rows) :
    ∃ reordered rest, table.Reordered reordered ∧ reordered.rows = row :: rest := by
  rcases append_of_mem rowMem with ⟨earlier, later, split⟩
  have moved : table.rows.Perm (row :: (earlier ++ later)) := split ▸ perm_middle
  exact ⟨⟨row :: (earlier ++ later), (moved.map key).nodup_iff.mp table.nodup⟩, _, moved, rfl⟩

variable [DecidableEq κ]

def find? (table : Table key) (wanted : κ) : Option α :=
  table.rows.find? (fun row => key row == wanted)

def erase (table : Table key) (removed : κ) : Table key :=
  table.retain (fun row => key row != removed)

def insert (table : Table key) (row : α) : Table key where
  rows := row :: (table.erase (key row)).rows
  nodup := by
    simp
    refine ⟨?_, (table.erase (key row)).nodup⟩
    simp [erase, retain]

def modify (table : Table key) (wanted : κ) (change : α → α) : Table key :=
  match table.find? wanted with
  | none => table
  | some row => table.insert (change row)

variable {table : Table key} {wanted removed : κ} {row : α}

theorem find?_eq_some_iff :
    table.find? wanted = some row ↔ row ∈ table.rows ∧ key row = wanted := by
  constructor
  · intro found
    have holds := find?_some found
    exact ⟨mem_of_find?_eq_some found, by simpa using holds⟩
  · rintro ⟨rowMem, rfl⟩
    cases found : table.find? (key row) with
    | none =>
      have absent := find?_eq_none.mp found row rowMem
      simp at absent
    | some other =>
      have otherKey : key other = key row := by
        have holds := find?_some found
        simpa using holds
      have otherMem := mem_of_find?_eq_some found
      rw [eq_of_mem_of_key_eq otherMem rowMem otherKey]

theorem find?_eq_none_iff : table.find? wanted = none ↔ ∀ row ∈ table.rows, key row ≠ wanted := by
  simp [find?, find?_eq_none]

theorem mem_of_find? (found : table.find? wanted = some row) : row ∈ table.rows :=
  (find?_eq_some_iff.mp found).1

theorem key_of_find? (found : table.find? wanted = some row) : key row = wanted :=
  (find?_eq_some_iff.mp found).2

theorem find?_of_mem (rowMem : row ∈ table.rows) : table.find? (key row) = some row :=
  find?_eq_some_iff.mpr ⟨rowMem, rfl⟩

/-- At most one row has a key. -/
theorem filter_key_eq (table : Table key) (wanted : κ) :
    (table.rows.filter fun row => key row == wanted) = (table.find? wanted).toList := by
  rcases table with ⟨rows, nodup⟩
  unfold find?
  induction rows with
  | nil => rfl
  | cons row rows ih =>
    rw [map_cons, nodup_cons] at nodup
    rw [filter_cons, find?_cons]
    by_cases same : key row = wanted
    · have others : (rows.filter fun row => key row == wanted) = [] := by
        rw [filter_eq_nil_iff]
        intro other otherMem found
        apply nodup.1
        rw [same, ← beq_iff_eq.mp found]
        exact mem_map_of_mem otherMem
      simp [same, others]
    · have differs : (key row == wanted) = false := beq_eq_false_iff_ne.mpr same
      simpa [differs] using ih nodup.2

@[simp]
theorem find?_empty (wanted : κ) : (empty : Table key).find? wanted = none := rfl

@[simp]
theorem mem_erase : row ∈ (table.erase removed).rows ↔ row ∈ table.rows ∧ key row ≠ removed := by
  simp [erase, retain]

@[simp]
theorem mem_insert {other : α} : other ∈ (table.insert row).rows ↔
      other = row ∨ (other ∈ table.rows ∧ key other ≠ key row) := by
  simp [insert]

theorem rows_insert_of_fresh (fresh : ∀ other ∈ table.rows, key other ≠ key row) :
    (table.insert row).rows = row :: table.rows := by
  simpa [insert, erase, retain] using fresh

theorem find?_erase (table : Table key) (removed wanted : κ) : (table.erase removed).find? wanted =
      if wanted = removed then none else table.find? wanted := by
  by_cases same : wanted = removed
  · subst same
    rw [if_pos rfl, find?_eq_none_iff]
    intro row rowMem
    exact (mem_erase.mp rowMem).2
  · rw [if_neg same]
    ext row
    rw [find?_eq_some_iff, find?_eq_some_iff, mem_erase]
    constructor
    · rintro ⟨⟨rowMem, _⟩, rfl⟩
      exact ⟨rowMem, rfl⟩
    · rintro ⟨rowMem, rfl⟩
      exact ⟨⟨rowMem, same⟩, rfl⟩

theorem erase_of_find?_eq_none (absent : table.find? removed = none) :
    table.erase removed = table := by
  have kept : (table.erase removed).rows = table.rows := by
    simpa [erase, retain] using find?_eq_none_iff.mp absent
  cases table
  simpa [erase, retain] using kept

theorem find?_insert (table : Table key) (row : α) (wanted : κ) : (table.insert row).find? wanted =
      if wanted = key row then some row else table.find? wanted := by
  by_cases same : wanted = key row
  · subst same
    rw [if_pos rfl, find?_eq_some_iff]
    exact ⟨by simp, rfl⟩
  · rw [if_neg same]
    ext other
    rw [find?_eq_some_iff, find?_eq_some_iff, mem_insert]
    constructor
    · rintro ⟨rfl | ⟨otherMem, _⟩, rfl⟩
      · exact absurd rfl same
      · exact ⟨otherMem, rfl⟩
    · rintro ⟨otherMem, rfl⟩
      exact ⟨.inr ⟨otherMem, same⟩, rfl⟩

/-- A change that keeps the key acts on the row under that key only. -/
theorem find?_modify (table : Table key) (changed wanted : κ) {change : α → α}
    (keeps : ∀ row, key (change row) = key row) : (table.modify changed change).find? wanted =
      if wanted = changed then (table.find? wanted).map change else table.find? wanted := by
  unfold modify
  cases found : table.find? changed with
  | none =>
    by_cases same : wanted = changed
    · subst same
      simp [found]
    · simp [same]
  | some row =>
    have rowKey : key (change row) = changed := by
      rw [keeps, key_of_find? found]
    simp only [find?_insert, rowKey]
    by_cases same : wanted = changed
    · subst same
      simp [found]
    · simp [same]

theorem find?_reordered {left right : Table key} (same : left.Reordered right) (wanted : κ) :
    left.find? wanted = right.find? wanted := by
  ext row
  rw [find?_eq_some_iff, find?_eq_some_iff, same.mem_iff]

section Collecting

variable {ι β : Type}

/-- What was collected under a key. -/
def collected (groups : Table (fun group : κ × β => group.1)) (nothing : β) (wanted : κ) : β :=
  ((groups.find? wanted).map Prod.snd).getD nothing

theorem collected_of_mem {groups : Table (fun group : κ × β => group.1)} {group : κ × β}
    (groupMem : group ∈ groups.rows) (nothing : β) :
    groups.collected nothing group.1 = group.2 := by
  rw [collected, find?_of_mem groupMem]
  rfl

/-- Items are collected under a key in their order, whatever comes between them. -/
theorem collected_foldl (keyOf : ι → κ) (extend : β → ι → β) (nothing : β)
    (groups : Table (fun group : κ × β => group.1)) (items : List ι) (wanted : κ) :
    (items.foldl (fun groups item => groups.insert
        (keyOf item, extend (groups.collected nothing (keyOf item)) item)) groups).collected
        nothing wanted =
      (items.filter (keyOf · = wanted)).foldl extend (groups.collected nothing wanted) := by
  induction items generalizing groups with
  | nil => rfl
  | cons item items ih =>
    rw [foldl_cons, ih, collected, find?_insert]
    by_cases same : wanted = keyOf item
    · simp [same]
    · simp [same, Ne.symm same, collected]

end Collecting

end Table

end Foundation
