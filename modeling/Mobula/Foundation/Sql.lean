import Mobula.Foundation.Fallible
import Mobula.Foundation.Table
import Mathlib.Data.List.Perm.Basic
import Mathlib.Data.Option.Basic

/-!
# SQL statements on keyed tables

What `UPDATE`, `DELETE` and `INSERT … ON CONFLICT` do to a table with a primary key. A table
mirrors another one if the rows they hold under each key correspond; the statements keep that.
-/

namespace Foundation

open List

namespace Table

variable {α β κ ε : Type} {key : α → κ} {keyOf : β → κ}

/-- `UPDATE … SET … WHERE`, for columns outside the key. -/
def update (table : Table key) (picked : α → Bool) (change : α → α)
    (keeps : ∀ row, key (change row) = key row) : Table key where
  rows := table.rows.map fun row => if picked row then change row else row
  nodup := by
    have sameKeys : (table.rows.map fun row => if picked row then change row else row).map key =
        table.rows.map key := by
      rw [List.map_map]
      apply List.map_congr_left
      intro row _
      simp
      split
      · exact keeps row
      · rfl
    rw [sameKeys]
    exact table.nodup

def affected (table : Table key) (picked : α → Bool) : ℕ :=
  (table.retain picked).rows.length

theorem exists_items_of {represents : α → β → Prop} {model : Table keyOf} {rows : List α}
    (paired : ∀ row ∈ rows, ∃ item ∈ model.rows, represents row item ∧ keyOf item = key row) :
    ∃ items, Forall₂ represents rows items ∧ items.map keyOf = rows.map key ∧
      items ⊆ model.rows := by
  induction rows with
  | nil => exact ⟨[], .nil, rfl, by simp⟩
  | cons row rows ih =>
    simp at paired
    rcases paired.1 with ⟨item, stored, pair, sameKey⟩
    rcases ih paired.2 with ⟨items, pairs, sameKeys, allStored⟩
    refine ⟨item :: items, .cons pair pairs, ?_, cons_subset.mpr ⟨stored, allStored⟩⟩
    simp [sameKey, sameKeys]

variable [DecidableEq κ]

/-- `INSERT … ON CONFLICT DO UPDATE`. -/
def insertOrUpdate (table : Table key) (row : α) (merge : α → α) : Table key :=
  match table.find? (key row) with
  | none => table.insert row
  | some existing => table.insert (merge existing)

/-- `INSERT … ON CONFLICT DO NOTHING`. -/
def insertOrIgnore (table : Table key) (row : α) : Table key :=
  match table.find? (key row) with
  | none => table.insert row
  | some _ => table

theorem find?_update (table : Table key) (picked : α → Bool) {change : α → α}
    (keeps : ∀ row, key (change row) = key row) (wanted : κ) :
    (table.update picked change keeps).find? wanted =
      (table.find? wanted).map fun row => if picked row then change row else row := by
  unfold find? update
  rw [find?_map]
  congr 2
  funext row
  simp
  split
  · rw [keeps]
  · rfl

theorem find?_retain (table : Table key) (keep : α → Bool) (wanted : κ) :
    (table.retain keep).find? wanted = (table.find? wanted).filter keep := by
  ext row
  rw [find?_eq_some_iff, Option.filter_eq_some_iff, find?_eq_some_iff]
  simp [retain]
  tauto

theorem affected_key (table : Table key) (wanted : κ) :
    table.affected (fun row => key row = wanted) = (table.find? wanted).toList.length := by
  rw [← filter_key_eq]
  rfl

/-- Under every key, both tables hold corresponding rows, or none. -/
def Mirrors (represents : α → β → Prop) (table : Table key) (model : Table keyOf) : Prop :=
  ∀ wanted, Option.Rel represents (table.find? wanted) (model.find? wanted)

namespace Mirrors

variable {represents : α → β → Prop} {table : Table key} {model : Table keyOf}

theorem empty : Mirrors represents (Table.empty : Table key) (Table.empty : Table keyOf) :=
  fun _ => .none

variable (mirrors : Mirrors represents table model)

include mirrors

theorem lookup (wanted : κ) : (table.find? wanted = none ∧ model.find? wanted = none) ∨
      ∃ row item, table.find? wanted = some row ∧ model.find? wanted = some item ∧
        represents row item ∧ key row = wanted ∧ keyOf item = wanted := by
  have found := mirrors wanted
  cases rowFound : table.find? wanted with
  | none =>
    rw [rowFound] at found
    rcases itemFound : model.find? wanted with _ | item
    · exact .inl ⟨rfl, rfl⟩
    · rw [itemFound] at found; cases found
  | some row =>
    rw [rowFound] at found
    rcases itemFound : model.find? wanted with _ | item
    · rw [itemFound] at found; cases found
    rw [itemFound] at found
    cases found with
    | some corresponds =>
      exact .inr ⟨row, item, rfl, rfl, corresponds, key_of_find? rowFound, key_of_find? itemFound⟩

theorem insert {row : α} {item : β}
    (corresponds : represents row item) (sameKey : key row = keyOf item) :
    Mirrors represents (table.insert row) (model.insert item) := by
  intro wanted
  rw [find?_insert, find?_insert, sameKey]
  split
  · exact .some corresponds
  · exact mirrors wanted

theorem insertOrUpdate {row : α} {merge : α → α} {item : β} (sameKey : key row = keyOf item)
    (fresh : represents row item) (merged : ∀ existing, key existing = key row →
      represents (merge existing) item ∧ key (merge existing) = key row) :
    Mirrors represents (table.insertOrUpdate row merge) (model.insert item) := by
  unfold Table.insertOrUpdate
  rcases found : table.find? (key row) with _ | existing
  · exact mirrors.insert fresh sameKey
  rcases merged existing (key_of_find? found) with ⟨corresponds, mergedKey⟩
  exact mirrors.insert corresponds (mergedKey.trans sameKey)

theorem update_key {wanted : κ} {change : α → α} {alter : β → β}
    (keeps : ∀ row, key (change row) = key row)
    (keepsItem : ∀ item, keyOf (alter item) = keyOf item)
    (corresponds : ∀ row item, represents row item → represents (change row) (alter item)) :
    Mirrors represents (table.update (fun row => key row = wanted) change keeps)
      (model.modify wanted alter) := by
  intro other
  rw [find?_update, find?_modify model wanted other keepsItem]
  rcases mirrors.lookup other with
    ⟨noRow, noItem⟩ | ⟨row, item, rowFound, itemFound, pair, rowKey, _⟩
  · simp [noRow, noItem]
  · simp [rowFound, itemFound, rowKey]
    by_cases same : other = wanted
    · simpa [same] using corresponds row item pair
    · simpa [same] using pair

theorem retain {keep : α → Bool} {keepItem : β → Bool}
    (agree : ∀ row item, represents row item → key row = keyOf item → keep row = keepItem item) :
    Mirrors represents (table.retain keep) (model.retain keepItem) := by
  intro wanted
  rw [find?_retain, find?_retain]
  rcases mirrors.lookup wanted with
    ⟨noRow, noItem⟩ | ⟨row, item, rowFound, itemFound, pair, rowKey, itemKey⟩
  · simp [noRow, noItem]
  · rw [rowFound, itemFound, Option.filter_some, Option.filter_some,
      agree row item pair (rowKey.trans itemKey.symm)]
    split
    · exact .some pair
    · exact .none

theorem exists_items : ∃ items, items.Perm model.rows ∧ Forall₂ represents table.rows items := by
  have paired : ∀ row ∈ table.rows, ∃ item ∈ model.rows, represents row item ∧
      keyOf item = key row := by
    intro row stored
    rcases mirrors.lookup (key row) with ⟨noRow, _⟩ | ⟨other, item, found, itemFound, pair, _, same⟩
    · rw [find?_of_mem stored] at noRow
      cases noRow
    · cases (find?_of_mem stored).symm.trans found
      exact ⟨item, mem_of_find? itemFound, pair, same⟩
  have keysStored : model.rows.map keyOf ⊆ table.rows.map key := by
    intro wanted itemKey
    rcases mem_map.mp itemKey with ⟨item, stored, rfl⟩
    rcases mirrors.lookup (keyOf item) with ⟨_, noItem⟩ | ⟨row, _, found, _, _, rowKey, _⟩
    · rw [find?_of_mem stored] at noItem
      cases noItem
    · exact mem_map.mpr ⟨row, mem_of_find? found, rowKey⟩
  rcases exists_items_of paired with ⟨items, pairs, sameKeys, allStored⟩
  have distinct : items.Nodup := by
    apply Nodup.of_map keyOf
    rw [sameKeys]
    exact table.nodup
  -- the items are distinct rows of the model, and no fewer than it has
  have enough : model.rows.length ≤ items.length := by
    rw [← pairs.length_eq]
    simpa using (subperm_of_subset model.nodup keysStored).length_le
  exact ⟨items, (subperm_of_subset distinct allStored).perm_of_length_le enough, pairs⟩

theorem decoded {decode : α → Except ε β}
    (reads : ∀ row item, represents row item → decode row = .ok item) :
    ∃ items, items.Perm model.rows ∧ table.rows.mapM decode = .ok items := by
  rcases mirrors.exists_items with ⟨items, reordered, paired⟩
  refine ⟨items, reordered, Fallible.mapM_eq_ok.mpr ?_⟩
  exact paired.imp reads

theorem mapped {read : α → β} (reads : ∀ row item, represents row item → read row = item) :
    (table.rows.map read).Perm model.rows := by
  rcases mirrors.exists_items with ⟨items, reordered, paired⟩
  have same : table.rows.map read = items := by
    rw [← forall₂_eq_eq_eq, forall₂_map_left_iff]
    exact paired.imp reads
  rw [same]
  exact reordered

theorem affected_key_eq_zero (wanted : κ) :
    table.affected (fun row => key row = wanted) = 0 ↔ model.find? wanted = none := by
  rw [affected_key]
  rcases mirrors.lookup wanted with ⟨noRow, noItem⟩ | ⟨_, _, rowFound, itemFound, _⟩
  · simp [noRow, noItem]
  · simp [rowFound, itemFound]

theorem length_eq : table.rows.length = model.rows.length := by
  rcases mirrors.exists_items with ⟨items, reordered, paired⟩
  exact paired.length_eq.trans reordered.length_eq

end Mirrors

end Table

end Foundation
