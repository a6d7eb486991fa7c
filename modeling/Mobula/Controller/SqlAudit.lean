import Mobula.Controller.AuditChain
import Mobula.Foundation.JsonDecode
import Mobula.Foundation.MachineInt

/-!
# The audit table

The SQL stores keep an audit event as a row of columns: times and durations as signed numbers
that are cut off at the largest one, the permission and the roles as JSON texts.
-/

namespace Mobula

open Foundation Foundation.HashChain Json

def AuditDecision.asStr : AuditDecision → String
  | .allow => "allow"
  | .deny => "deny"

theorem AuditDecision.asStr_injective {first second : AuditDecision}
    (same : first.asStr = second.asStr) : first = second := by
  revert same
  cases first <;> cases second <;> decide

def AuditDecision.parse (text : String) : Option AuditDecision :=
  if text = "allow" then some .allow else if text = "deny" then some .deny else none

def AuditRequired.toJson (required : AuditRequired) : Json :=
  .obj [("action", .str required.action), ("target", .str required.target)]

def AuditRequired.fromJson (value : Json) : Option AuditRequired := do
  let slot ← Json.slots ["action", "target"] value
  let action ← (slot "action").required Json.asStr?
  let target ← (slot "target").required Json.asStr?
  return ⟨action, target⟩

/-- The deserializer's own text is left out. -/
def jsonErr : StoreError :=
  ⟨"serialization"⟩

def decodeColumn {α : Type} (decode : Json → Option α) (text : String) : StoreResult α :=
  match (Json.parse text).bind decode with
  | some value => .ok value
  | none => .error jsonErr

structure AuditColumns where
  ts : ℤ
  subject : Option String
  decision : String
  reason : Option String
  action : Option String
  cluster : Option String
  method : Option String
  path : Option String
  status : Option ℤ
  latencyMs : Option ℤ
  requiredJson : Option String
  grantedRoles : String

structure AuditTableRow where
  seq : ℤ
  columns : AuditColumns
  chainHash : String

abbrev AuditTable := Table AuditTableRow.seq

def AuditEvent.columns (event : AuditEvent) : AuditColumns where
  ts := clampI64 event.ts
  subject := event.subject
  decision := event.decision.asStr
  reason := event.reason
  action := event.action
  cluster := event.cluster
  method := event.method
  path := event.path
  status := event.status.map Int.ofNat
  latencyMs := event.latencyMs.map clampI64
  requiredJson := event.required.map fun required => required.toJson.compress
  grantedRoles := (Json.arr (event.grantedRoles.map .str)).compress

def decodeNullable {α : Type} (decode : Json → Option α) : Option String → StoreResult (Option α)
  | some text => (decodeColumn decode text).map some
  | none => .ok none

def decodeDecision (text : String) : StoreResult AuditDecision :=
  match AuditDecision.parse text with
  | some decision => .ok decision
  | none => .error ⟨"bad audit decision"⟩

def rowToAuditEvent (row : AuditTableRow) : StoreResult (ℕ × AuditEvent) := do
  let required ← decodeNullable AuditRequired.fromJson row.columns.requiredJson
  let grantedRoles ← decodeColumn (Json.decodeList Json.asStr?) row.columns.grantedRoles
  let decision ← decodeDecision row.columns.decision
  .ok (asUnsigned 64 row.seq,
    { ts := asUnsigned 64 row.columns.ts
      subject := row.columns.subject
      decision := decision
      reason := row.columns.reason
      action := row.columns.action
      cluster := row.columns.cluster
      method := row.columns.method
      path := row.columns.path
      status := row.columns.status.map (asUnsigned 16)
      latencyMs := row.columns.latencyMs.map (asUnsigned 64)
      required := required
      grantedRoles := grantedRoles })

theorem decodeColumn_compress {α : Type} {decode : Json → Option α} {value : Json} {result : α}
    (readable : value.Readable RECURSION_LIMIT) (decoded : decode value = some result) :
    decodeColumn decode value.compress = .ok result := by
  simp [decodeColumn, parse_compress readable, decoded]

theorem decodeDecision_asStr {decision : AuditDecision} :
    decodeDecision decision.asStr = .ok decision := by
  cases decision <;> rfl

theorem decodeNullable_required {required : Option AuditRequired} :
    decodeNullable AuditRequired.fromJson
      (required.map fun required => required.toJson.compress) = .ok required := by
  rcases required with _ | required
  · rfl
  have read : decodeColumn AuditRequired.fromJson required.toJson.compress = .ok required := by
    apply decodeColumn_compress
    · simp [AuditRequired.toJson, RECURSION_LIMIT, Readable, ReadableFields]
    · rfl
  simp [decodeNullable, read, Except.map]

theorem decodeColumn_grantedRoles {roles : List String} :
    decodeColumn (decodeList asStr?) (arr (roles.map .str)).compress =
      .ok roles := by
  apply decodeColumn_compress
  · simp [RECURSION_LIMIT, Readable, readableItems_iff]
  · exact decodeList_map fun _ _ => rfl

/-- Numbers that fit into their columns. -/
structure AuditEvent.Storable (event : AuditEvent) : Prop where
  ts : event.ts < 2 ^ 63
  latencyMs : ∀ latency ∈ event.latencyMs, latency < 2 ^ 63
  status : ∀ status ∈ event.status, status < 2 ^ 16

theorem rowToAuditEvent_columns {event : AuditEvent} (storable : event.Storable) (seq : ℤ)
    (chainHash : String) :
    rowToAuditEvent ⟨seq, event.columns, chainHash⟩ = .ok (asUnsigned 64 seq, event) := by
  rcases event with ⟨ts, subject, decision, reason, action, cluster, method, path, status,
    latencyMs, required, grantedRoles⟩
  have time : asUnsigned 64 (clampI64 ts) = ts := by
    have small : ts < 2 ^ 63 := storable.ts
    rw [clampI64_of_lt small, asUnsigned_natCast (by omega)]
  have code : (status.map Int.ofNat).map (asUnsigned 16) = status := by
    rcases status with _ | status
    · rfl
    · simp [asUnsigned_natCast (storable.status status rfl)]
  have latency : (latencyMs.map clampI64).map (asUnsigned 64) = latencyMs := by
    rcases latencyMs with _ | latency
    · rfl
    have small : latency < 2 ^ 63 := storable.latencyMs latency rfl
    have exact64 : asUnsigned 64 latency = latency := asUnsigned_natCast (by omega)
    simp [clampI64_of_lt small, exact64]
  simp only [rowToAuditEvent, AuditEvent.columns, decodeNullable_required,
    decodeColumn_grantedRoles, decodeDecision_asStr, time, code, latency, bind, Except.bind]

def chainedRow (row : AuditTableRow) : StoreResult ChainedAuditRow := do
  let (seq, event) ← rowToAuditEvent row
  .ok (seq, event, row.chainHash)

theorem chainedRow_columns {event : AuditEvent} (storable : event.Storable) {seq : ℤ}
    {chainHash : String} :
    chainedRow ⟨seq, event.columns, chainHash⟩ = .ok (asUnsigned 64 seq, event, chainHash) := by
  simp only [chainedRow, rowToAuditEvent_columns storable, bind, Except.bind]

namespace AuditTable

variable (table : AuditTable)

def ascending : List AuditTableRow :=
  Log.sorted AuditTableRow.seq table.rows

def newestHash : Option String :=
  table.ascending.getLast?.map AuditTableRow.chainHash

def newestHashBelow (bound : ℤ) : Option String :=
  (table.ascending.filter fun row => row.seq < bound).getLast?.map AuditTableRow.chainHash

def auditChain (fromSeq : Option ℕ) (limit : ℕ) : StoreResult AuditChainWindow := do
  let head := match fromSeq with
    | some start =>
      if 1 < start then (table.newestHashBelow (clampI64 start)).getD AUDIT_GENESIS_HASH
      else AUDIT_GENESIS_HASH
    | none => AUDIT_GENESIS_HASH
  let selected := match fromSeq with
    | some start => table.ascending.filter fun row : AuditTableRow => clampI64 start ≤ row.seq
    | none => table.ascending
  let rows ← (selected.take limit).mapM chainedRow
  .ok ⟨head, rows⟩

abbrev lastHash (rows : List AuditTableRow) : String :=
  HashChain.lastHash AuditTableRow.chainHash AUDIT_GENESIS_HASH rows

theorem mem_ascending {table : AuditTable} {row : AuditTableRow} :
    row ∈ table.ascending ↔ row ∈ table.rows :=
  Log.mem_sorted

theorem ascending_ascending : Log.Ascending AuditTableRow.seq table.ascending :=
  Log.sorted_ascending table.nodup

theorem auditChain_eq {table : AuditTable} (numbered : ∀ row ∈ table.rows, 1 ≤ row.seq)
    (fromSeq : Option ℕ) (limit : ℕ) : table.auditChain fromSeq limit =
      ((((table.ascending.filter fun row => clampI64 (fromSeq.getD 1) ≤ row.seq).take limit).mapM
        chainedRow).map fun rows =>
          ⟨lastHash (table.ascending.filter fun row => row.seq < clampI64 (fromSeq.getD 1)),
            rows⟩) := by
  -- nothing lies below the first number, so that the head needs no query there
  have none {bound : ℤ} (low : bound ≤ 1) :
      (table.ascending.filter fun row => row.seq < bound) = [] := by
    rw [List.filter_eq_nil_iff]
    intro row member below
    have := numbered row (mem_ascending.mp member)
    have := of_decide_eq_true below
    omega
  have all : (table.ascending.filter fun row => (1 : ℤ) ≤ row.seq) = table.ascending := by
    rw [List.filter_eq_self]
    intro row member
    exact decide_eq_true (numbered row (mem_ascending.mp member))
  have one : clampI64 1 = 1 := rfl
  cases fromSeq with
  | none =>
    simp [one, none (le_refl 1), all]
    rfl
  | some start =>
    by_cases later : 1 < start
    · simp only [auditChain, if_pos later]
      rfl
    · have low : clampI64 start ≤ 1 := one ▸ clampI64_mono (by omega)
      simp [auditChain, if_neg later, none low]
      rfl

end AuditTable

/-- How rows of some kind are read; number and stored hash can be seen without that. -/
structure AuditReader (Raw : Type) where
  seq : Raw → ℕ
  stored : Raw → String
  decode : Raw → StoreResult ChainedAuditRow
  keeps : ∀ {raw row}, decode raw = .ok row →
    auditRowSeq row = seq raw ∧ auditRowHash row = stored raw

/-- The rows of the in-memory store are what they are. -/
def memoryReader : AuditReader ChainedAuditRow where
  seq := auditRowSeq
  stored := auditRowHash
  decode := .ok
  keeps := by
    rintro raw row read
    cases read
    exact ⟨rfl, rfl⟩

def tableReader : AuditReader AuditTableRow where
  seq row := asUnsigned 64 row.seq
  stored := AuditTableRow.chainHash
  decode := chainedRow
  keeps := by
    rintro raw row read
    simp only [chainedRow, rowToAuditEvent, Fallible.bind_eq_ok, Except.ok.injEq] at read
    rcases read with ⟨_, ⟨_, _, _, _, _, _, rfl⟩, rfl⟩
    exact ⟨rfl, rfl⟩

namespace AuditReader

variable {Raw : Type} (reader : AuditReader Raw) (chainHash : String → AuditEvent → String)

/-- The row can be read and stores the hash of its event and of the hash before it. -/
def Fits (previous : String) (raw : Raw) : Prop :=
  ∃ row, reader.decode raw = .ok row ∧ AuditLinks chainHash previous row

def Intact (head : String) (raws : List Raw) : Prop :=
  Chained (reader.Fits chainHash) reader.stored head raws

variable {reader chainHash} {head : String} {raws front back : List Raw} {broken : Raw}
  {rows : List ChainedAuditRow}

theorem fits_iff_of_decoded {raw : Raw} {row : ChainedAuditRow}
    (read : reader.decode raw = .ok row) :
    reader.Fits chainHash head raw ↔ AuditLinks chainHash head row := by
  simp [Fits, read]

theorem intact_iff_of_decoded (read : raws.mapM reader.decode = .ok rows) :
    reader.Intact chainHash head raws ↔
      Chained (AuditLinks chainHash) auditRowHash head rows := by
  rw [Fallible.mapM_eq_ok] at read
  unfold Intact
  induction read generalizing head with
  | nil => exact Iff.rfl
  | @cons raw row raws rows converted _ ih =>
    rw [Chained, Chained, fits_iff_of_decoded converted, ih, (reader.keeps converted).2]

theorem lastHash_of_decoded (read : raws.mapM reader.decode = .ok rows) :
    lastHash auditRowHash head rows = lastHash reader.stored head raws := by
  rw [Fallible.mapM_eq_ok] at read
  induction read generalizing head with
  | nil => rfl
  | cons converted _ ih => rw [lastHash_cons, lastHash_cons, ih, (reader.keeps converted).2]

theorem Intact.readable (intact : reader.Intact chainHash head raws) :
    ∃ rows, raws.mapM reader.decode = .ok rows := by
  rw [Fallible.exists_mapM_eq_ok]
  unfold Intact at intact
  induction raws generalizing head with
  | nil => simp
  | cons raw raws ih =>
    rcases intact with ⟨⟨row, converted, _⟩, rest⟩
    intro item member
    rcases List.mem_cons.mp member with rfl | later
    · exact ⟨row, converted⟩
    · exact ih rest item later

theorem Intact.verified (intact : reader.Intact chainHash head raws) :
    ∃ rows, raws.mapM reader.decode = .ok rows ∧
      verifyAuditChain chainHash head rows = ⟨rows.length, none⟩ := by
  rcases intact.readable with ⟨rows, read⟩
  exact ⟨rows, read, verifyAuditChain_of_chained ((intact_iff_of_decoded read).mp intact)⟩

theorem intact_of_verified (read : raws.mapM reader.decode = .ok rows)
    (verified : (verifyAuditChain chainHash head rows).ok = true) :
    reader.Intact chainHash head raws :=
  (intact_iff_of_decoded read).mpr (verifyAuditChain_ok_iff.mp verified)

theorem Intact.broken_reported (intact : reader.Intact chainHash head front)
    (unfit : ¬ reader.Fits chainHash (lastHash reader.stored head front) broken)
    (read : (front ++ broken :: back).mapM reader.decode = .ok rows) :
    ∃ checked, verifyAuditChain chainHash head rows = ⟨checked, some (reader.seq broken)⟩ := by
  simp only [List.mapM_append, List.mapM_cons, Fallible.bind_eq_ok, pure, Except.pure,
    Except.ok.injEq] at read
  rcases read with ⟨before, readFront, _, ⟨row, readBroken, after, _, rfl⟩, rfl⟩
  have chained := (intact_iff_of_decoded readFront).mp intact
  refine ⟨before.length, verifyAuditChain_eq_broken.mpr
    ⟨before, row, after, rfl, rfl, (reader.keeps readBroken).1, chained, ?_⟩⟩
  rwa [lastHash_of_decoded readFront, ← fits_iff_of_decoded readBroken]

end AuditReader

end Mobula
