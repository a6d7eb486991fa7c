import Mobula.Controller.AuditRuns
import Mobula.Foundation.Sql

/-!
# Chaining old audit rows

Rows written before the `chain_hash` column existed have an empty hash. When the SQLite store
opens its database, `backfillAuditChain` chains them, from the first one on, with one query for
the next row in each round.
-/

namespace Mobula

open Foundation Foundation.HashChain List AuditTable

namespace AuditTable

/-- The first row in order of `seq` that has no hash. -/
def firstUnchained (table : AuditTable) : Option AuditTableRow :=
  table.ascending.find? fun row => row.chainHash = ""

def setChainHash (table : AuditTable) (seq : ℤ) (chainHash : String) : AuditTable :=
  table.update (fun row => row.seq = seq) (fun row => { row with chainHash }) fun _ => rfl

end AuditTable

/-- A round of the loop; without a result there is no row left. -/
def backfillRound (sha256 : String → String) (table : AuditTable) :
    StoreResult (Option AuditTable) :=
  match table.firstUnchained with
  | none => .ok none
  | some row => do
    let (seq, event) ← rowToAuditEvent row
    let prev := table.newestHashBelow (asI64 seq)
    let hash := auditChainHash sha256 (prev.getD AUDIT_GENESIS_HASH) event
    .ok (some (table.setChainHash (asI64 seq) hash))

/-- Also gives the table that is left when a row cannot be read. -/
def backfillAuditChain (sha256 : String → String) :
    ℕ → AuditTable → Option (StoreResult Unit × AuditTable)
  | 0, _ => none
  | fuel + 1, table =>
    match backfillRound sha256 table with
    | .error failure => some (.error failure, table)
    | .ok none => some (.ok (), table)
    | .ok (some next) => backfillAuditChain sha256 fuel next

def AuditTableRow.content (row : AuditTableRow) : ℤ × AuditColumns :=
  (row.seq, row.columns)

variable {table : AuditTable} {front back : List AuditTableRow} {row : AuditTableRow}

namespace AuditTable

variable (split : table.ascending = front ++ row :: back)

include split

theorem around_of_split :
    (∀ other ∈ front, other.seq < row.seq) ∧ ∀ other ∈ back, row.seq < other.seq := by
  have ascending := table.ascending_ascending
  rw [split, Log.ascending_append] at ascending
  rcases ascending with ⟨_, later, below⟩
  exact ⟨fun other otherMem => below other otherMem row mem_cons_self,
    fun other => rel_of_pairwise_cons later⟩

theorem newestHashBelow_of_split :
    (table.newestHashBelow row.seq).getD AUDIT_GENESIS_HASH = lastHash front := by
  rcases around_of_split split with ⟨below, above⟩
  have kept : (front.filter fun other => other.seq < row.seq) = front := by
    simpa using below
  have dropped : (back.filter fun other => other.seq < row.seq) = [] := by
    simp [filter_eq_nil_iff, not_lt]
    exact fun other otherMem => (above other otherMem).le
  simp [newestHashBelow, split, kept, dropped, HashChain.lastHash]

theorem ascending_setChainHash (chainHash : String) :
    (table.setChainHash row.seq chainHash).ascending =
      front ++ { row with chainHash } :: back := by
  rcases around_of_split split with ⟨below, above⟩
  have sorted : (table.setChainHash row.seq chainHash).ascending = table.ascending.map fun other =>
        if decide (other.seq = row.seq) then { other with chainHash } else other := by
    -- the change keeps the numbers by which the rows are sorted
    refine (map_insertionSort _ _ _ _ fun left _ right _ => ?_).symm
    dsimp only
    split <;> split <;> rfl
  have unchanged {rows : List AuditTableRow} (apart : ∀ other ∈ rows, other.seq ≠ row.seq) :
      (rows.map fun other =>
        if decide (other.seq = row.seq) then { other with chainHash } else other) = rows := by
    nth_rewrite 2 [← map_id rows]
    apply map_congr_left
    intro other otherMem
    simp [apart other otherMem]
  rw [sorted, split, map_append, map_cons,
    unchanged fun other otherMem => (below other otherMem).ne,
    unchanged fun other otherMem => (above other otherMem).ne']
  simp

end AuditTable

section Loop

variable {sha256 : String → String}

/-- A chained part, and behind it rows that can be read and have no hash. -/
structure Unfilled (sha256 : String → String) (table : AuditTable)
    (front back : List AuditTableRow) : Prop where
  split : table.ascending = front ++ back
  chained : tableReader.Intact (auditChainHash sha256) AUDIT_GENESIS_HASH front
  empty : ∀ row ∈ back, row.chainHash = ""
  readable : ∀ row ∈ back, ∃ decoded, rowToAuditEvent row = .ok decoded
  /-- The key is a signed 64-bit column. -/
  numbered : ∀ row ∈ back, -2 ^ 63 ≤ row.seq ∧ row.seq < 2 ^ 63

theorem AuditReader.Intact.stored_ne {head : String} {rows : List AuditTableRow}
    (intact : tableReader.Intact (auditChainHash sha256) head rows)
    (hashes : ∀ text, sha256 text ≠ "") : ∀ row ∈ rows, row.chainHash ≠ "" := by
  induction rows generalizing head with
  | nil => simp
  | cons row rows ih =>
    rcases intact with ⟨⟨decoded, read, links⟩, rest⟩
    rintro other (_ | ⟨_, later⟩)
    · have stored : auditRowHash decoded = row.chainHash := (tableReader.keeps read).2
      rw [← stored, ← links]
      exact hashes _
    · exact ih rest other later

theorem firstUnchained_of_unfilled (unfilled : Unfilled sha256 table front back)
    (hashes : ∀ text, sha256 text ≠ "") : table.firstUnchained = back.head? := by
  have passed : front.find? (fun row => decide (row.chainHash = "")) = none := by
    simpa using unfilled.chained.stored_ne hashes
  simp [firstUnchained, unfilled.split, find?_append, passed]
  rcases back with _ | ⟨row, back⟩
  · rfl
  · simp [unfilled.empty row mem_cons_self]

/-- A round chains the first row that has no hash. -/
theorem backfillRound_of_unfilled (unfilled : Unfilled sha256 table front (row :: back))
    (hashes : ∀ text, sha256 text ≠ "") :
    ∃ filled next, backfillRound sha256 table = .ok (some next) ∧
      filled.content = row.content ∧ Unfilled sha256 next (front ++ [filled]) back := by
  rcases unfilled.readable row mem_cons_self with ⟨⟨seq, event⟩, read⟩
  have chained (chainHash : String) :
      tableReader.decode { row with chainHash } = .ok (seq, event, chainHash) := by
    have same : rowToAuditEvent { row with chainHash } = .ok (seq, event) := read
    simp only [tableReader, chainedRow, same, bind, Except.bind]
  have number : asI64 seq = row.seq := by
    rw [show seq = asUnsigned 64 row.seq from (tableReader.keeps (chained "")).1]
    exact asI64_asUnsigned (unfilled.numbered row mem_cons_self)
  have round : backfillRound sha256 table = .ok (some (table.setChainHash row.seq
      (auditChainHash sha256 (lastHash front) event))) := by
    simp [backfillRound, firstUnchained_of_unfilled unfilled hashes, read, number,
      newestHashBelow_of_split unfilled.split, bind, Except.bind]
  refine ⟨⟨row.seq, row.columns, auditChainHash sha256 (lastHash front) event⟩, _, round,
    rfl, ?_⟩
  constructor
  · rw [ascending_setChainHash unfilled.split, append_assoc]
    rfl
  · exact unfilled.chained.snoc ⟨_, chained _, rfl⟩
  · exact fun other later => unfilled.empty other (mem_cons_of_mem row later)
  · exact fun other later => unfilled.readable other (mem_cons_of_mem row later)
  · exact fun other later => unfilled.numbered other (mem_cons_of_mem row later)

theorem backfillAuditChain_of_unfilled (unfilled : Unfilled sha256 table front back)
    (hashes : ∀ text, sha256 text ≠ "") : ∃ after filled, (∀ fuel > back.length,
        backfillAuditChain sha256 fuel table = some (.ok (), after)) ∧
      filled.map AuditTableRow.content = back.map AuditTableRow.content ∧
      Unfilled sha256 after (front ++ filled) [] := by
  induction back generalizing table front with
  | nil =>
    refine ⟨table, [], ?_, rfl, by simpa using unfilled⟩
    rintro (_ | fuel) enough
    · simp at enough
    · simp [backfillAuditChain, backfillRound, firstUnchained_of_unfilled unfilled hashes]
  | cons row back ih =>
    rcases backfillRound_of_unfilled unfilled hashes with ⟨filled, next, round, same, unfilled⟩
    rcases ih unfilled with ⟨after, later, finishes, kept, done⟩
    refine ⟨after, filled :: later, ?_, by simp [same, kept], by simpa using done⟩
    rintro (_ | fuel) enough
    · simp at enough
    · simpa [backfillAuditChain, round] using finishes fuel (by simpa using enough)

end Loop

/--
The loop ends after one round for each row without a hash. It changes nothing but
those hashes, and the whole trail verifies.
-/
theorem audit_backfill {sha256 : String → String} (hashes : ∀ text, sha256 text ≠ "")
    {table : AuditTable} {front back : List AuditTableRow}
    (unfilled : Unfilled sha256 table front back) :
    ∃ after filled, (∀ fuel > back.length,
        backfillAuditChain sha256 fuel table = some (.ok (), after)) ∧
      after.ascending = front ++ filled ∧
      filled.map AuditTableRow.content = back.map AuditTableRow.content ∧
      ∃ rows, (∀ limit ≥ table.rows.length,
          after.auditChain none limit = .ok ⟨AUDIT_GENESIS_HASH, rows⟩) ∧
        verifyAuditChain (auditChainHash sha256) AUDIT_GENESIS_HASH rows =
          ⟨table.rows.length, none⟩ := by
  rcases backfillAuditChain_of_unfilled unfilled hashes with
    ⟨after, filled, finishes, kept, done⟩
  have split : after.ascending = front ++ filled := by simpa using done.split
  refine ⟨after, filled, finishes, split, kept, ?_⟩
  have count : after.ascending.length = table.rows.length := by
    have same : filled.length = back.length := by simpa using congrArg length kept
    have total : table.ascending.length = table.rows.length := length_insertionSort _ _
    rw [← total, unfilled.split, split]
    simp [same]
  rcases done.chained.verified with ⟨rows, read, verified⟩
  rw [← split] at read
  refine ⟨rows, ?_, ?_⟩
  · intro limit whole
    have selected : (after.ascending.take limit).mapM chainedRow = .ok rows := by
      rwa [take_of_length_le (by omega)]
    simp only [auditChain, selected, bind, Except.bind]
  · rw [verified, ← count, ((Fallible.mapM_eq_ok).mp read).length_eq]

/-- SHA-256 on the two texts that are hashed for the table below. -/
def knownDigest (text : String) : String :=
  if text = AUDIT_GENESIS_HASH ++ plainEvent.toJson.compress then
    "08f6263f9ae80a1a514800a0217f22bafac8d4d9ee05343fd8901e6ab476eb06"
  else "3c8740817f6d38f799d5d930aa037cabfb8dd5c8dc596a6b48f1e5ffc375c043"

theorem knownDigest_ne_empty (text : String) : knownDigest text ≠ "" := by
  unfold knownDigest
  split <;> simp

/-- A row of the chain and one that was written before there was a chain. -/
def migratedTable (sha256 : String → String) : AuditTable where
  rows := [⟨2, plainEvent.columns, ""⟩,
    ⟨1, plainEvent.columns, auditChainHash sha256 AUDIT_GENESIS_HASH plainEvent⟩]
  nodup := by simp

theorem migratedTable_unfilled (sha256 : String → String) : Unfilled sha256 (migratedTable sha256)
    [⟨1, plainEvent.columns, auditChainHash sha256 AUDIT_GENESIS_HASH plainEvent⟩]
    [⟨2, plainEvent.columns, ""⟩] := by
  refine ⟨rfl, ⟨⟨_, chainedRow_columns plainEvent_storable, rfl⟩, trivial⟩, by simp, ?_, by simp⟩
  simp [rowToAuditEvent_columns plainEvent_storable]

theorem audit_backfill_migrated :
    ∃ after, backfillAuditChain knownDigest 2 (migratedTable knownDigest) = some (.ok (), after) ∧
      ∃ rows, after.auditChain none 2 = .ok ⟨AUDIT_GENESIS_HASH, rows⟩ ∧
        verifyAuditChain (auditChainHash knownDigest) AUDIT_GENESIS_HASH rows = ⟨2, none⟩ := by
  rcases audit_backfill knownDigest_ne_empty (migratedTable_unfilled knownDigest) with
    ⟨after, _, finishes, _, _, rows, window, verified⟩
  exact ⟨after, finishes 2 (by simp), rows, window 2 (Nat.le_refl 2), verified⟩

end Mobula
