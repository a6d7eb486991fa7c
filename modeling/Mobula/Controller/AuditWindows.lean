import Mobula.Controller.SqlAudit

/-!
# Verifying the audit trail window by window

Each window takes its head from the row stored before it, which may have been tampered with.
Still, all windows succeed if and only if the whole trail does. The argument is made once, for
any way of reading rows (`AuditTrail`).
-/

namespace Mobula

open Foundation Foundation.HashChain List Fallible AuditReader.Intact

/-- Where the windows of a size start; there is no next one after an empty or unreadable window. -/
def windowStart (auditChain : Option ℕ → ℕ → StoreResult AuditChainWindow) (size : ℕ) :
    ℕ → Option ℕ
  | 0 => some 1
  | count + 1 =>
    (windowStart auditChain size count).bind fun start =>
      match auditChain (some start) size with
      | .ok window => window.rows.getLast?.map fun row => auditRowSeq row + 1
      | .error _ => none

def checkWindow (chainHash : String → AuditEvent → String)
    (auditChain : Option ℕ → ℕ → StoreResult AuditChainWindow) (size start : ℕ) :
    StoreResult AuditChainVerification :=
  (auditChain (some start) size).map fun window =>
    verifyAuditChain chainHash window.head window.rows

def checkTrail (chainHash : String → AuditEvent → String)
    (rows : StoreResult (List ChainedAuditRow)) : StoreResult AuditChainVerification :=
  rows.map (verifyAuditChain chainHash AUDIT_GENESIS_HASH)

def Succeeds (result : StoreResult AuditChainVerification) : Prop :=
  ∃ verification, result = .ok verification ∧ verification.ok = true

/-- Whole and windowed verification agree, and name the same row. -/
def WindowsCompose (chainHash : String → AuditEvent → String)
    (rows : StoreResult (List ChainedAuditRow))
    (auditChain : Option ℕ → ℕ → StoreResult AuditChainWindow) (size : ℕ) : Prop :=
  (Succeeds (checkTrail chainHash rows) ↔
    ∀ count start, windowStart auditChain size count = some start →
      Succeeds (checkWindow chainHash auditChain size start)) ∧
  ∀ checked broken, checkTrail chainHash rows = .ok ⟨checked, some broken⟩ →
    ∃ count start, windowStart auditChain size count = some start ∧
      (∀ earlier < count, ∀ start, windowStart auditChain size earlier = some start →
        Succeeds (checkWindow chainHash auditChain size start)) ∧
      ∃ checked, checkWindow chainHash auditChain size start = .ok ⟨checked, some broken⟩

/-- Rows in rising order, how they are read, and how far a window's start may reach. -/
structure AuditTrail (Raw : Type) extends AuditReader Raw where
  rows : List Raw
  clamp : ℕ → ℕ
  ascending : Log.Ascending seq rows
  positive : ∀ raw ∈ rows, 1 ≤ seq raw
  clamp_one : clamp 1 = 1
  clamp_next : ∀ raw ∈ rows, ∀ later ∈ rows, seq raw < seq later → clamp (seq raw + 1) = seq raw + 1

namespace AuditTrail

variable {Raw : Type} (trail : AuditTrail Raw) (chainHash : String → AuditEvent → String)

def auditChain (fromSeq : Option ℕ) (limit : ℕ) : StoreResult AuditChainWindow :=
  (((trail.rows.filter fun raw => trail.clamp (fromSeq.getD 1) ≤ trail.seq raw).take limit).mapM
    trail.decode).map fun rows =>
      ⟨lastHash trail.stored AUDIT_GENESIS_HASH
        (trail.rows.filter fun raw => trail.seq raw < trail.clamp (fromSeq.getD 1)), rows⟩

def WindowIntact (size cut : ℕ) : Prop :=
  trail.Intact chainHash (lastHash trail.stored AUDIT_GENESIS_HASH (trail.rows.take cut))
    ((trail.rows.drop cut).take size)

/-- A start selects the rows from a position on. -/
structure StartsAt (start cut : ℕ) : Prop where
  below : (trail.rows.filter fun raw => decide (trail.seq raw < trail.clamp start)) =
    trail.rows.take cut
  above : (trail.rows.filter fun raw => decide (trail.clamp start ≤ trail.seq raw)) =
    trail.rows.drop cut

variable {trail chainHash} {size start cut : ℕ}

theorem exists_startsAt (start : ℕ) : ∃ cut, trail.StartsAt start cut := by
  rcases Log.exists_cut trail.ascending (trail.clamp start) with ⟨cut, _, below, above⟩
  exact ⟨cut, below, above⟩

theorem startsAt_one : trail.StartsAt 1 0 := by
  constructor
  · simp [trail.clamp_one, take_zero, filter_eq_nil_iff]
    intro raw member
    have := trail.positive raw member
    omega
  · simp [trail.clamp_one, drop_zero, filter_eq_self]
    exact trail.positive

theorem auditChain_of_startsAt (starts : trail.StartsAt start cut) :
    trail.auditChain (some start) size =
      (((trail.rows.drop cut).take size).mapM trail.decode).map fun rows =>
        ⟨lastHash trail.stored AUDIT_GENESIS_HASH (trail.rows.take cut), rows⟩ := by
  simp [auditChain, starts.below, starts.above]

theorem succeeds_iff_intact (starts : trail.StartsAt start cut) :
    Succeeds (checkWindow chainHash trail.auditChain size start) ↔
      trail.WindowIntact chainHash size cut := by
  rw [checkWindow, auditChain_of_startsAt starts]
  constructor
  · rintro ⟨verification, checked, verified⟩
    simp only [map_eq_ok] at checked
    rcases checked with ⟨_, ⟨rows, read, rfl⟩, rfl⟩
    exact AuditReader.intact_of_verified read verified
  · intro intact
    rcases verified intact with ⟨rows, read, verified⟩
    refine ⟨⟨rows.length, none⟩, ?_, rfl⟩
    rw [read, ← verified]
    rfl

theorem trail_succeeds_iff_intact : Succeeds (checkTrail chainHash (trail.rows.mapM trail.decode)) ↔
      trail.Intact chainHash AUDIT_GENESIS_HASH trail.rows := by
  constructor
  · rintro ⟨verification, checked, verified⟩
    rcases map_eq_ok.mp checked with ⟨rows, read, rfl⟩
    exact AuditReader.intact_of_verified read verified
  · intro intact
    rcases verified intact with ⟨rows, read, verified⟩
    refine ⟨_, map_eq_ok.mpr ⟨rows, read, rfl⟩, ?_⟩
    rw [verified]
    rfl

theorem startsAt_next {front rest : List Raw} {last : Raw}
    (split : trail.rows = front ++ last :: rest) (more : rest ≠ []) :
    trail.StartsAt (trail.seq last + 1) (front.length + 1) := by
  rcases exists_cons_of_ne_nil more with ⟨later, others, restEq⟩
  have ordered := trail.ascending
  rw [split] at ordered
  rcases Log.ascending_append.mp ordered with ⟨_, tail, apart⟩
  rcases pairwise_cons.mp tail with ⟨above, _⟩
  have unclamped : trail.clamp (trail.seq last + 1) = trail.seq last + 1 :=
    trail.clamp_next last (by simp [split]) later (by simp [split, restEq])
      (above later (by simp [restEq]))
  have low : ∀ raw ∈ front ++ [last], trail.seq raw < trail.seq last + 1 := by
    intro raw member
    rcases mem_append.mp member with earlier | same
    · have := apart raw earlier last (by simp)
      omega
    · simp at same
      simp [same]
  have regrouped : trail.rows = (front ++ [last]) ++ rest := by simp [split]
  have cutEq : front.length + 1 = (front ++ [last]).length := by simp
  constructor
  · rw [unclamped, regrouped, cutEq, take_left, filter_append]
    have first : ((front ++ [last]).filter fun raw =>
        decide (trail.seq raw < trail.seq last + 1)) = front ++ [last] := by
      rw [filter_eq_self]
      exact fun raw member => decide_eq_true (low raw member)
    have second : (rest.filter fun raw => decide (trail.seq raw < trail.seq last + 1)) = [] := by
      rw [filter_eq_nil_iff]
      intro raw member selected
      have := above raw member
      have := of_decide_eq_true selected
      omega
    rw [first, second, append_nil]
  · rw [unclamped, regrouped, cutEq, drop_left, filter_append]
    have first : ((front ++ [last]).filter fun raw =>
        decide (trail.seq last + 1 ≤ trail.seq raw)) = [] := by
      rw [filter_eq_nil_iff]
      intro raw member selected
      have := low raw member
      have := of_decide_eq_true selected
      omega
    have second : (rest.filter fun raw => decide (trail.seq last + 1 ≤ trail.seq raw)) = rest := by
      rw [filter_eq_self]
      exact fun raw member => decide_eq_true (above raw member)
    rw [first, second, nil_append]

/-- As long as the windows before it are intact, a window starts where the rows are counted to. -/
theorem exists_windowStart (positive : 0 < size) {count : ℕ}
    (inside : count * size < trail.rows.length)
    (clean : ∀ earlier < count, trail.WindowIntact chainHash size (earlier * size)) :
    ∃ start, windowStart trail.auditChain size count = some start ∧
      trail.StartsAt start (count * size) := by
  induction count with
  | zero => exact ⟨1, rfl, by simpa using startsAt_one⟩
  | succ count ih =>
    rw [Nat.add_mul, Nat.one_mul] at inside ⊢
    rcases ih (by omega) (fun earlier less => clean earlier (by omega)) with
      ⟨start, started, starts⟩
    -- the window has its full size, and rows follow it
    obtain ⟨front, last, windowEq⟩ : ∃ front last,
        (trail.rows.drop (count * size)).take size = front ++ [last] := by
      have nonempty : (trail.rows.drop (count * size)).take size ≠ [] := by
        intro empty
        have := congrArg length empty
        simp only [length_take, length_drop, length_nil] at this
        omega
      exact ⟨_, _, (dropLast_append_getLast nonempty).symm⟩
    have full : front.length + 1 = size := by
      have := congrArg length windowEq
      simp only [length_take, length_drop, length_append, length_singleton] at this
      omega
    have split : trail.rows = (trail.rows.take (count * size) ++ front) ++
        last :: trail.rows.drop (count * size + size) := by
      have parts := take_append_drop (count * size) trail.rows
      rw [← take_append_drop size (trail.rows.drop (count * size)), windowEq, drop_drop] at parts
      simpa using parts.symm
    have more : trail.rows.drop (count * size + size) ≠ [] := by
      intro empty
      have := congrArg length empty
      simp only [length_drop, length_nil] at this
      omega
    have next := startsAt_next split more
    have position : (trail.rows.take (count * size) ++ front).length + 1 = count * size + size := by
      simp only [length_append, length_take]
      omega
    rw [position] at next
    refine ⟨trail.seq last + 1, ?_, next⟩
    rcases readable (clean count (Nat.lt_succ_self count)) with ⟨rows, read⟩
    have lastRow : rows.getLast?.map auditRowSeq = some (trail.seq last) := by
      rw [windowEq] at read
      simp only [mapM_append, mapM_cons, mapM_nil, bind_eq_ok, pure,
        Except.pure, Except.ok.injEq] at read
      rcases read with ⟨earlier, _, _, ⟨row, converted, _, rfl, rfl⟩, rfl⟩
      simp [(trail.keeps converted).1]
    rw [windowStart, started, Option.bind_some, auditChain_of_startsAt starts, read]
    rw [Option.map_eq_some_iff] at lastRow
    rcases lastRow with ⟨row, found, named⟩
    simp [Except.map, found, named]

/-- A trail that breaks does so in one of the windows, and in none before it. -/
theorem exists_breaking_window (positive : 0 < size) {before after : List Raw} {broken : Raw}
    (split : trail.rows = before ++ broken :: after)
    (intact : trail.Intact chainHash AUDIT_GENESIS_HASH before)
    (unfit : ¬ trail.Fits chainHash (lastHash trail.stored AUDIT_GENESIS_HASH before) broken) :
    ∃ count start front back, windowStart trail.auditChain size count = some start ∧
      trail.StartsAt start (count * size) ∧
      (∀ earlier < count, trail.WindowIntact chainHash size (earlier * size)) ∧
      (trail.rows.drop (count * size)).take size = front ++ broken :: back ∧
      trail.Intact chainHash
        (lastHash trail.stored AUDIT_GENESIS_HASH (trail.rows.take (count * size))) front ∧
      ¬ trail.Fits chainHash (lastHash trail.stored
        (lastHash trail.stored AUDIT_GENESIS_HASH (trail.rows.take (count * size))) front)
        broken := by
  rcases window_of_broken intact unfit positive split with
    ⟨count, inside, clean, front, back, windowEq, frontIntact, unfit⟩
  rcases exists_windowStart positive inside clean with ⟨start, started, starts⟩
  exact ⟨count, start, front, back, started, starts, clean, windowEq, frontIntact, unfit⟩

theorem earlier_succeed (positive : 0 < size) {count : ℕ}
    (inside : count * size < trail.rows.length)
    (clean : ∀ earlier < count, trail.WindowIntact chainHash size (earlier * size))
    {earlier : ℕ} (less : earlier < count) {start : ℕ}
    (started : windowStart trail.auditChain size earlier = some start) :
    Succeeds (checkWindow chainHash trail.auditChain size start) := by
  have reached : earlier * size < trail.rows.length := by
    have := Nat.mul_le_mul_right size less.le
    omega
  rcases exists_windowStart positive reached (fun first before => clean first (by omega)) with
    ⟨same, found, starts⟩
  simp [started] at found
  subst found
  exact (succeeds_iff_intact starts).mpr (clean earlier less)

theorem windowsCompose (trail : AuditTrail Raw) (chainHash : String → AuditEvent → String)
    (positive : 0 < size) :
    WindowsCompose chainHash (trail.rows.mapM trail.decode) trail.auditChain size := by
  have broken_or := @chained_or_broken _ _ (trail.Fits chainHash) trail.stored AUDIT_GENESIS_HASH
    trail.rows
  constructor
  · rw [trail_succeeds_iff_intact]
    constructor
    · intro intact count start _
      rcases @exists_startsAt _ trail start with ⟨cut, starts⟩
      exact (succeeds_iff_intact starts).mpr (Chained.window intact cut size)
    · intro succeed
      rcases broken_or with intact | ⟨before, broken, after, split, intact, unfit⟩
      · exact intact
      · rcases exists_breaking_window positive split intact unfit with
          ⟨count, start, front, back, started, starts, _, windowEq, _, unfit⟩
        have window := (succeeds_iff_intact starts).mp (succeed count start started)
        rw [WindowIntact, windowEq] at window
        exact absurd (chained_append.mp window).2.1 unfit
  · intro checked reported failed
    rcases map_eq_ok.mp failed with ⟨rows, read, report⟩
    rcases broken_or with intact | ⟨before, broken, after, split, intact, unfit⟩
    · have clean := verifyAuditChain_of_chained ((AuditReader.intact_iff_of_decoded read).mp intact)
      rw [report] at clean
      cases clean
    · have named : reported = trail.seq broken := by
        rw [split] at read
        rcases broken_reported intact unfit read with ⟨_, found⟩
        rw [report] at found
        cases found
        rfl
      rcases exists_breaking_window positive split intact unfit with
        ⟨count, start, front, back, started, starts, clean, windowEq, frontIntact, unfit⟩
      have inside : count * size < trail.rows.length := by
        have := congrArg length windowEq
        simp [length_take, length_drop] at this
        omega
      refine ⟨count, start, started, ?_, ?_⟩
      · intro earlier less start started
        exact earlier_succeed positive inside clean less started
      · have readable : ∃ rows, (front ++ broken :: back).mapM trail.decode = .ok rows := by
          rw [exists_mapM_eq_ok]
          intro raw member
          rw [← windowEq] at member
          exact exists_mapM_eq_ok.mp ⟨rows, read⟩ raw (mem_of_mem_drop (mem_of_mem_take member))
        rcases readable with ⟨rows, readWindow⟩
        rcases broken_reported frontIntact unfit readWindow with ⟨checked, found⟩
        refine ⟨checked, ?_⟩
        rw [checkWindow, auditChain_of_startsAt starts, windowEq, readWindow, named, ← found]
        rfl

end AuditTrail

def Store.auditTrail (store : Store) (ascending : Log.Ascending auditRowSeq store.audit)
    (positive : ∀ row ∈ store.audit, 1 ≤ auditRowSeq row) : AuditTrail ChainedAuditRow where
  toAuditReader := memoryReader
  rows := store.audit
  clamp := id
  ascending := ascending
  positive := positive
  clamp_one := rfl
  clamp_next := fun _ _ _ _ _ => rfl

theorem mapM_ok {α : Type} {rows : List α} : rows.mapM (.ok : α → StoreResult α) = .ok rows := by
  rw [mapM_eq_ok]
  exact forall₂_same.mpr fun _ _ => rfl

theorem Store.auditTrail_auditChain {store : Store}
    (ascending : Log.Ascending auditRowSeq store.audit)
    (positive : ∀ row ∈ store.audit, 1 ≤ auditRowSeq row) :
    (store.auditTrail ascending positive).auditChain = store.auditChain := by
  funext fromSeq limit
  rw [store.auditChain_eq]
  change Except.map _ (mapM (.ok : ChainedAuditRow → StoreResult ChainedAuditRow) _) = _
  rw [mapM_ok]
  rfl

namespace AuditTable

section Numbered

variable {table : AuditTable} (numbered : ∀ row ∈ table.rows, 1 ≤ row.seq ∧ row.seq < 2 ^ 63)

include numbered

theorem asUnsigned_seq {row : AuditTableRow} (member : row ∈ table.ascending) :
    (asUnsigned 64 row.seq : ℤ) = row.seq ∧ 1 ≤ row.seq ∧ row.seq < 2 ^ 63 := by
  have bounds := numbered row (mem_ascending.mp member)
  refine ⟨?_, bounds⟩
  unfold asUnsigned
  omega

theorem ascending_seq : Log.Ascending tableReader.seq table.ascending := by
  refine (ascending_ascending table).imp_of_mem ?_
  intro earlier later first second below
  have := asUnsigned_seq numbered first
  have := asUnsigned_seq numbered second
  simp only [tableReader]
  omega

theorem positive_seq : ∀ row ∈ table.ascending, 1 ≤ tableReader.seq row := by
  intro row member
  have := asUnsigned_seq numbered member
  simp only [tableReader]
  omega

theorem clamp_next_seq : ∀ row ∈ table.ascending, ∀ later ∈ table.ascending,
    tableReader.seq row < tableReader.seq later →
      min (tableReader.seq row + 1) I64_MAX = tableReader.seq row + 1 := by
  intro row member later laterMember below
  have := asUnsigned_seq numbered laterMember
  simp only [tableReader, I64_MAX] at below ⊢
  omega

end Numbered

def trail (table : AuditTable)
    (numbered : ∀ row ∈ table.rows, 1 ≤ row.seq ∧ row.seq < 2 ^ 63) : AuditTrail AuditTableRow where
  toAuditReader := tableReader
  rows := table.ascending
  clamp := fun start => min start I64_MAX
  ascending := ascending_seq numbered
  positive := positive_seq numbered
  clamp_one := rfl
  clamp_next := clamp_next_seq numbered

theorem trail_auditChain {table : AuditTable}
    (numbered : ∀ row ∈ table.rows, 1 ≤ row.seq ∧ row.seq < 2 ^ 63) :
    (trail table numbered).auditChain = table.auditChain := by
  funext fromSeq limit
  have compare : ∀ row ∈ table.ascending, (clampI64 (fromSeq.getD 1) ≤ row.seq ↔
        min (fromSeq.getD 1) I64_MAX ≤ asUnsigned 64 row.seq) := by
    intro row member
    have := asUnsigned_seq numbered member
    simp only [clampI64, I64_MAX]
    omega
  rw [auditChain_eq fun row member => (numbered row member).1]
  have above : (table.ascending.filter fun row => decide (clampI64 (fromSeq.getD 1) ≤ row.seq)) =
      table.ascending.filter fun row =>
        decide (min (fromSeq.getD 1) I64_MAX ≤ asUnsigned 64 row.seq) := by
    apply filter_congr
    intro row member
    simp only [compare row member]
  have below : (table.ascending.filter fun row => decide (row.seq < clampI64 (fromSeq.getD 1))) =
      table.ascending.filter fun row =>
        decide (asUnsigned 64 row.seq < min (fromSeq.getD 1) I64_MAX) := by
    apply filter_congr
    intro row member
    simp only [← not_le, compare row member]
  rw [above, below]
  rfl

end AuditTable

/--
For every trail of the in-memory store and every audit table, tampered with or not,
and every window size: the whole trail verifies if and only if all windows do, and
the first window that fails names the row that the whole trail breaks at.
-/
theorem windows_compose (chainHash : String → AuditEvent → String) {size : ℕ}
    (positive : 1 ≤ size) :
    (∀ store : Store, Log.Ascending auditRowSeq store.audit →
      (∀ row ∈ store.audit, 1 ≤ auditRowSeq row) →
      WindowsCompose chainHash (.ok store.audit) store.auditChain size) ∧
    (∀ table : AuditTable, (∀ row ∈ table.rows, 1 ≤ row.seq ∧ row.seq < 2 ^ 63) →
      WindowsCompose chainHash (table.ascending.mapM chainedRow) table.auditChain size) := by
  constructor
  · intro store ascending numbered
    have composed := (store.auditTrail ascending numbered).windowsCompose chainHash positive
    rw [store.auditTrail_auditChain] at composed
    rwa [← mapM_ok]
  · intro table numbered
    have composed := (AuditTable.trail table numbered).windowsCompose chainHash positive
    rwa [AuditTable.trail_auditChain] at composed

/-- A trail with a gap in its numbers and a forged hash behind it. -/
def forgedStore : Store :=
  { Store.empty with
    audit := [(1, { ts := 1 }, pairHash AUDIT_GENESIS_HASH { ts := 1 }), (3, { ts := 2 }, "forged")]
    auditSeq := 3 }

def unreadableTable : AuditTable :=
  Table.empty.insert ⟨5, { ({ ts := 1 } : AuditEvent).columns with decision := "maybe" }, "forged"⟩

theorem windows_compose_forged :
    WindowsCompose pairHash (.ok forgedStore.audit) forgedStore.auditChain 1 ∧
      checkTrail pairHash (.ok forgedStore.audit) = .ok ⟨1, some 3⟩ ∧
      WindowsCompose pairHash (unreadableTable.ascending.mapM chainedRow)
        unreadableTable.auditChain 1 := by
  have composed := windows_compose pairHash (Nat.le_refl 1)
  refine ⟨composed.1 forgedStore ?_ ?_, ?_, composed.2 unreadableTable ?_⟩
  · simp [Log.Ascending, forgedStore, auditRowSeq]
  · simp [forgedStore, auditRowSeq]
  · have forged : ∀ previous event, pairHash previous event ≠ "forged" := by
      intro previous event same
      have heads := congrArg (fun text => text.toList.head?) same
      simp [pairHash, Json.compress, Json.render] at heads
    simp [checkTrail, forgedStore, verifyAuditChain, verifyRows, Except.map, forged]
  · simp [unreadableTable, Table.empty, Table.insert, Table.erase, Table.retain]

end Mobula
