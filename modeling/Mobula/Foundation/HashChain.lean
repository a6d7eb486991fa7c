import Mathlib.Data.List.Induction

/-!
# Hash chains

A log in which every row stores a hash and has to fit the hash stored with the row before it.
What follows a cut is replayed from the hash stored at the cut (`chained_append`,
`Chained.window`). If the hash determines what was hashed, the last stored hash determines
every event before it (`Committing.events_eq`).
-/

namespace Foundation

open List

namespace HashChain

variable {Row Hash : Type} (fits : Hash → Row → Prop) (stored : Row → Hash)

/-- Every row fits the one before it, the first one the head. -/
def Chained : Hash → List Row → Prop
  | _, [] => True
  | head, row :: rows => fits head row ∧ Chained (stored row) rows

/-- The hash that the next row has to fit. -/
def lastHash (head : Hash) (rows : List Row) : Hash :=
  (rows.getLast?.map stored).getD head

/-- How many rows fit before the first one that does not, and that row. -/
def replay [DecidableRel fits] : Hash → List Row → ℕ × Option Row
  | _, [] => (0, none)
  | head, row :: rows =>
    if fits head row then
      let later := replay (stored row) rows
      (later.1 + 1, later.2)
    else (0, some row)

variable {fits stored} {head : Hash} {row broken : Row} {rows first second : List Row}

@[simp]
theorem lastHash_nil : lastHash stored head [] = head := rfl

@[simp]
theorem lastHash_append_singleton : lastHash stored head (rows ++ [row]) = stored row := by
  simp [lastHash]

theorem lastHash_cons : lastHash stored head (row :: rows) = lastHash stored (stored row) rows := by
  cases rows using reverseRecOn with
  | nil => rfl
  | append_singleton rows last =>
    rw [← cons_append, lastHash_append_singleton, lastHash_append_singleton]

theorem lastHash_append : lastHash stored head (first ++ second) =
      lastHash stored (lastHash stored head first) second := by
  induction first generalizing head with
  | nil => rfl
  | cons row rows ih => simp [lastHash_cons, ih]

theorem chained_append : Chained fits stored head (first ++ second) ↔
      Chained fits stored head first ∧ Chained fits stored (lastHash stored head first) second := by
  induction first generalizing head with
  | nil => simp [Chained]
  | cons row rows ih => simp [Chained, ih, lastHash_cons, and_assoc]

/-- A chain is extended by a row that fits the last stored hash. -/
theorem Chained.snoc (chained : Chained fits stored head rows)
    (fit : fits (lastHash stored head rows) row) : Chained fits stored head (rows ++ [row]) :=
  chained_append.mpr ⟨chained, fit, trivial⟩

/-- A log is a chain, or it has a first row that does not fit. -/
theorem chained_or_broken (head : Hash) (rows : List Row) :
    Chained fits stored head rows ∨ ∃ before broken after, rows = before ++ broken :: after ∧
      Chained fits stored head before ∧ ¬ fits (lastHash stored head before) broken := by
  induction rows generalizing head with
  | nil => exact .inl trivial
  | cons row rows ih =>
    by_cases fit : fits head row
    · rcases ih (stored row) with chained | ⟨before, broken, after, rfl, chained, unfit⟩
      · exact .inl ⟨fit, chained⟩
      · refine .inr ⟨row :: before, broken, after, rfl, ⟨fit, chained⟩, ?_⟩
        rwa [lastHash_cons]
    · exact .inr ⟨[], row, rows, rfl, trivial, fit⟩

section Replay

variable [DecidableRel fits]

theorem replay_of_chained (chained : Chained fits stored head rows) :
    replay fits stored head rows = (rows.length, none) := by
  induction rows generalizing head with
  | nil => rfl
  | cons row rows ih => simp [replay, chained.1, ih chained.2]

/-- A clean part is passed over; what follows is replayed from the hash stored last. -/
theorem replay_append_of_chained (chained : Chained fits stored head first) :
    replay fits stored head (first ++ second) =
      (first.length + (replay fits stored (lastHash stored head first) second).1,
        (replay fits stored (lastHash stored head first) second).2) := by
  induction first generalizing head with
  | nil => simp
  | cons row rows ih =>
    rw [cons_append, replay, if_pos chained.1, ih chained.2, lastHash_cons]
    simp only [length_cons, Prod.mk.injEq, and_true]
    omega

/-- A row that does not fit behind a clean part is what the replay reports. -/
theorem replay_of_broken (chained : Chained fits stored head first)
    (unfit : ¬ fits (lastHash stored head first) broken) :
    replay fits stored head (first ++ broken :: second) = (first.length, some broken) := by
  rw [replay_append_of_chained chained, replay, if_neg unfit]
  rfl

theorem replay_eq_none_iff :
    (replay fits stored head rows).2 = none ↔ Chained fits stored head rows := by
  constructor
  · intro clean
    rcases @chained_or_broken _ _ fits stored head rows with
      chained | ⟨before, broken, after, rfl, chained, unfit⟩
    · exact chained
    · rw [replay_of_broken chained unfit] at clean
      cases clean
  · intro chained
    rw [replay_of_chained chained]

/-- What a replay reports is the first row that does not fit, and the number of rows before it. -/
theorem replay_eq_some_iff {checked : ℕ} : replay fits stored head rows = (checked, some broken) ↔
      ∃ before after, rows = before ++ broken :: after ∧ before.length = checked ∧
        Chained fits stored head before ∧ ¬ fits (lastHash stored head before) broken := by
  constructor
  · intro found
    rcases @chained_or_broken _ _ fits stored head rows with
      chained | ⟨before, first, after, rfl, chained, unfit⟩
    · rw [replay_of_chained chained] at found
      cases found
    · rw [replay_of_broken chained unfit] at found
      cases found
      exact ⟨before, after, rfl, rfl, chained, unfit⟩
  · rintro ⟨before, after, rfl, rfl, chained, unfit⟩
    exact replay_of_broken chained unfit

end Replay

theorem Chained.window (chained : Chained fits stored head rows) (cut size : ℕ) :
    Chained fits stored (lastHash stored head (rows.take cut)) ((rows.drop cut).take size) := by
  rw [← take_append_drop cut rows, chained_append] at chained
  have rest := chained.2
  rw [← take_append_drop size (rows.drop cut), chained_append] at rest
  exact rest.1

/--
If a log is not a chain, one of the consecutive windows of a size has the first
row that does not fit, and the windows before it are clean.
-/
theorem window_of_broken {before after : List Row} (chained : Chained fits stored head before)
    (unfit : ¬ fits (lastHash stored head before) broken) {size : ℕ} (positive : 0 < size)
    (whole : rows = before ++ broken :: after) : ∃ k, k * size < rows.length ∧
      (∀ j < k, Chained fits stored (lastHash stored head (rows.take (j * size)))
        ((rows.drop (j * size)).take size)) ∧
      ∃ front back, (rows.drop (k * size)).take size = front ++ broken :: back ∧
        Chained fits stored (lastHash stored head (rows.take (k * size))) front ∧
        ¬ fits (lastHash stored (lastHash stored head (rows.take (k * size))) front) broken := by
  have split := Nat.div_add_mod before.length size
  have small := Nat.mod_lt before.length positive
  rw [Nat.mul_comm] at split
  generalize before.length / size = k at split
  have reached : k * size ≤ before.length := by omega
  refine ⟨k, by simp [whole]; omega, ?_, ?_⟩
  · intro j earlier
    have ends : j * size + size ≤ before.length := by
      have steps : (j + 1) * size ≤ k * size := Nat.mul_le_mul_right size earlier
      rw [Nat.add_mul, Nat.one_mul] at steps
      omega
    rw [whole, take_append_of_le_length (by omega), drop_append_of_le_length (by omega),
      take_append_of_le_length (by rw [length_drop]; omega)]
    exact chained.window (j * size) size
  · obtain ⟨room, sizeEq⟩ : ∃ room, size = (before.drop (k * size)).length + (room + 1) :=
      ⟨size - (before.length - k * size) - 1, by rw [length_drop]; omega⟩
    refine ⟨before.drop (k * size), after.take room, ?_, ?_, ?_⟩
    · rw [whole, drop_append_of_le_length reached]
      generalize before.drop (k * size) = front at sizeEq ⊢
      rw [sizeEq, take_length_add_append, take_succ_cons]
    · rw [whole, take_append_of_le_length reached]
      rw [← take_append_drop (k * size) before, chained_append] at chained
      exact chained.2
    · rw [whole, take_append_of_le_length reached, ← lastHash_append, take_append_drop]
      exact unfit

section Commitment

variable {Event : Type} {hash : Hash → Event → Hash} {event : Row → Event} {genesis : Hash}

/-- A hash that occurs in a chain that starts at the genesis value. -/
def Occurs (hash : Hash → Event → Hash) (genesis value : Hash) : Prop :=
  value = genesis ∨ ∃ previous event, value = hash previous event

/-- The hash of a row determines its event and the hash before it, and never looks like a start. -/
structure Committing (hash : Hash → Event → Hash) (genesis : Hash) : Prop where
  injective : ∀ {first second : Hash} {left right : Event}, Occurs hash genesis first →
    Occurs hash genesis second → hash first left = hash second right →
    first = second ∧ left = right
  fresh : ∀ previous event, hash previous event ≠ genesis

/-- The row stores the hash of its event and of the hash before it. -/
def Links (hash : Hash → Event → Hash) (event : Row → Event) (stored : Row → Hash)
    (previous : Hash) (row : Row) : Prop :=
  hash previous (event row) = stored row

instance [DecidableEq Hash] : DecidableRel (Links hash event stored) := fun previous row =>
  inferInstanceAs (Decidable (hash previous (event row) = stored row))

theorem occurs_lastHash (chained : Chained (Links hash event stored) stored genesis rows) :
    Occurs hash genesis (lastHash stored genesis rows) := by
  cases rows using reverseRecOn with
  | nil => exact .inl rfl
  | append_singleton rows last =>
    rw [lastHash_append_singleton]
    exact .inr ⟨_, _, (chained_append.mp chained).2.1.symm⟩

theorem Committing.lastHash_ne (committing : Committing hash genesis)
    (chained : Chained (Links hash event stored) stored genesis (rows ++ [row])) :
    lastHash stored genesis (rows ++ [row]) ≠ genesis := by
  have links : hash (lastHash stored genesis rows) (event row) = stored row :=
    (chained_append.mp chained).2.1
  rw [lastHash_append_singleton, ← links]
  exact committing.fresh _ _

/-- Two chains from the genesis value that end in one hash record the same events. -/
theorem Committing.events_eq (committing : Committing hash genesis)
    (left : Chained (Links hash event stored) stored genesis first)
    (right : Chained (Links hash event stored) stored genesis second)
    (ends : lastHash stored genesis first = lastHash stored genesis second) :
    first.map event = second.map event := by
  -- from the shared last hash back to the start
  induction first using reverseRecOn generalizing second with
  | nil =>
    cases second using reverseRecOn with
    | nil => rfl
    | append_singleton rows row => exact absurd ends.symm (committing.lastHash_ne right)
  | append_singleton rows row ih =>
    cases second using reverseRecOn with
    | nil => exact absurd ends (committing.lastHash_ne left)
    | append_singleton rows' row' =>
      rcases chained_append.mp left with ⟨before, links, _⟩
      rcases chained_append.mp right with ⟨before', links', _⟩
      rw [lastHash_append_singleton, lastHash_append_singleton] at ends
      have hashes := (links.trans ends).trans (Eq.symm links')
      rcases committing.injective (occurs_lastHash before) (occurs_lastHash before') hashes with
        ⟨previous, same⟩
      simp [ih before before' previous, same]

/-- A hash that is injective everywhere and never yields the genesis value commits. -/
theorem Committing.of_injective (injective : ∀ {previous previous' : Hash} {left right : Event},
      hash previous left = hash previous' right → previous = previous' ∧ left = right)
    (fresh : ∀ previous event, hash previous event ≠ genesis) : Committing hash genesis :=
  ⟨fun _ _ same => injective same, fresh⟩

end Commitment

end HashChain

end Foundation
