import Mobula.Controller.World
import Mobula.Foundation.HashChain
import Mobula.Foundation.Log

/-!
# The audit chain

Every audit row stores a hash of its event and of the hash stored with the row before it.
`tamper_evident` says what a replay from the genesis hash shows if the hash determines what was
hashed; `auditChainHash_committing` is where the hash of the code stands on that.
-/

namespace Mobula

open Foundation Foundation.HashChain Json

variable (previous : String) (event : AuditEvent) (row : ChainedAuditRow)

def auditRowSeq : ℕ := row.1

def auditRowEvent : AuditEvent := row.2.1

def auditRowHash : String := row.2.2

/-- Rows in rising order, and the hash the first of them is chained to. -/
structure AuditChainWindow where
  head : String
  rows : List ChainedAuditRow

structure AuditChainVerification where
  eventsChecked : ℕ
  firstBrokenSeq : Option ℕ
  deriving DecidableEq, Repr

def AuditChainVerification.ok (verification : AuditChainVerification) : Bool :=
  verification.firstBrokenSeq.isNone

def verifyRows (chainHash : String → AuditEvent → String) :
    String → ℕ → List ChainedAuditRow → AuditChainVerification
  | _, checked, [] => ⟨checked, none⟩
  | previous, checked, (seq, event, stored) :: rows =>
    if chainHash previous event ≠ stored then ⟨checked, some seq⟩
    else verifyRows chainHash stored (checked + 1) rows

def verifyAuditChain (chainHash : String → AuditEvent → String) (head : String)
    (rows : List ChainedAuditRow) : AuditChainVerification :=
  verifyRows chainHash head 0 rows

def Store.auditChain (store : Store) (fromSeq : Option ℕ) (limit : ℕ) :
    StoreResult AuditChainWindow :=
  let start := fromSeq.getD 1
  let head := (store.audit.reverse.find? fun row => auditRowSeq row < start).map auditRowHash
  .ok
    { head := head.getD AUDIT_GENESIS_HASH
      rows := (store.audit.filter fun row => start ≤ auditRowSeq row).take limit }

theorem Store.auditChain_eq (store : Store) (fromSeq : Option ℕ) (limit : ℕ) :
    store.auditChain fromSeq limit =
      .ok ⟨lastHash auditRowHash AUDIT_GENESIS_HASH
          (store.audit.filter fun row => auditRowSeq row < fromSeq.getD 1),
        (store.audit.filter fun row => fromSeq.getD 1 ≤ auditRowSeq row).take limit⟩ := by
  simp [Store.auditChain, lastHash, List.getLast?_filter]

variable {chainHash : String → AuditEvent → String}

section Replay

abbrev AuditLinks (chainHash : String → AuditEvent → String) : String → ChainedAuditRow → Prop :=
  Links chainHash auditRowEvent auditRowHash

theorem verifyRows_eq {head : String} {checked : ℕ} {rows : List ChainedAuditRow} :
    verifyRows chainHash head checked rows =
      ⟨checked + (replay (AuditLinks chainHash) auditRowHash head rows).1,
        (replay (AuditLinks chainHash) auditRowHash head rows).2.map auditRowSeq⟩ := by
  induction rows generalizing head checked with
  | nil => rfl
  | cons row rows ih =>
    rcases row with ⟨seq, event, stored⟩
    by_cases links : chainHash head event = stored
    · have fits : AuditLinks chainHash head (seq, event, stored) := links
      simp [verifyRows, links, replay, fits, ih, auditRowHash, AuditChainVerification.mk.injEq]
      omega
    · have unfit : ¬ AuditLinks chainHash head (seq, event, stored) := links
      simp [verifyRows, links, replay, unfit, auditRowSeq]

theorem verifyAuditChain_eq {head : String} {rows : List ChainedAuditRow} :
    verifyAuditChain chainHash head rows =
      ⟨(replay (AuditLinks chainHash) auditRowHash head rows).1,
        (replay (AuditLinks chainHash) auditRowHash head rows).2.map auditRowSeq⟩ := by
  simp [verifyAuditChain, verifyRows_eq]

variable {head : String} {rows : List ChainedAuditRow}

theorem verifyAuditChain_of_chained
    (chained : Chained (AuditLinks chainHash) auditRowHash head rows) :
    verifyAuditChain chainHash head rows = ⟨rows.length, none⟩ := by
  simp [verifyAuditChain_eq, replay_of_chained chained]

theorem verifyAuditChain_ok_iff : (verifyAuditChain chainHash head rows).ok = true ↔
      Chained (AuditLinks chainHash) auditRowHash head rows := by
  simp [verifyAuditChain_eq, AuditChainVerification.ok, replay_eq_none_iff]

theorem verifyAuditChain_eq_broken {checked seq : ℕ} :
    verifyAuditChain chainHash head rows = ⟨checked, some seq⟩ ↔
      ∃ before broken after, rows = before ++ broken :: after ∧ before.length = checked ∧
        auditRowSeq broken = seq ∧ Chained (AuditLinks chainHash) auditRowHash head before ∧
        ¬ AuditLinks chainHash (lastHash auditRowHash head before) broken := by
  rw [verifyAuditChain_eq, AuditChainVerification.mk.injEq, Option.map_eq_some_iff]
  constructor
  · rintro ⟨counted, broken, found, named⟩
    have report : replay (AuditLinks chainHash) auditRowHash head rows = (checked, some broken) :=
      Prod.ext counted found
    rcases replay_eq_some_iff.mp report with ⟨before, after, split, length, chained, unfit⟩
    exact ⟨before, broken, after, split, length, named, chained, unfit⟩
  · rintro ⟨before, broken, after, split, length, named, chained, unfit⟩
    have report := replay_eq_some_iff.mpr ⟨before, after, split, length, chained, unfit⟩
    exact ⟨congrArg Prod.fst report, broken, congrArg Prod.snd report, named⟩

end Replay

def lastAuditHash (rows : List ChainedAuditRow) : String :=
  lastHash auditRowHash AUDIT_GENESIS_HASH rows

theorem lastAuditHash_eq {first second : List ChainedAuditRow}
    (ends : first.getLast?.map auditRowHash = second.getLast?.map auditRowHash) :
    lastAuditHash first = lastAuditHash second := by
  simp [lastAuditHash, lastHash, ends]

section TamperEvidence

theorem events_eq_of_verified (committing : Committing chainHash AUDIT_GENESIS_HASH)
    {first second : List ChainedAuditRow}
    (left : (verifyAuditChain chainHash AUDIT_GENESIS_HASH first).ok = true)
    (right : (verifyAuditChain chainHash AUDIT_GENESIS_HASH second).ok = true)
    (ends : first.getLast?.map auditRowHash = second.getLast?.map auditRowHash) :
    first.map auditRowEvent = second.map auditRowEvent :=
  committing.events_eq (verifyAuditChain_ok_iff.mp left) (verifyAuditChain_ok_iff.mp right)
    (lastAuditHash_eq ends)

end TamperEvidence

theorem AuditEvent.toJson_injective {first second : AuditEvent}
    (same : first.toJson = second.toJson) : first = second := by
  rcases first with ⟨ts, subject, decision, reason, action, cluster, method, path, status,
    latencyMs, required, grantedRoles⟩
  rcases second with ⟨ts', subject', decision', reason', action', cluster', method', path',
    status', latencyMs', required', grantedRoles'⟩
  have roles : Function.Injective (List.map str) :=
    List.map_injective_iff.mpr fun _ _ => str.inj
  have permission : ∀ {left right : AuditRequired},
      obj [("action", .str left.action), ("target", .str left.target)] =
        obj [("action", .str right.action), ("target", .str right.target)] → left = right := by
    rintro ⟨action, target⟩ ⟨action', target'⟩ written
    simpa using written
  have verdict : decision = decision' := by
    cases decision <;> cases decision' <;> simp_all [AuditEvent.toJson]
  simp [AuditEvent.toJson, obj.injEq, nat_inj, option_str_inj, option_nat_inj,
    arr.injEq, roles.eq_iff, option_inj (fun _ => Json.noConfusion) permission] at same
  simp [verdict, same]

/-- A hash without collisions: the pair itself, written out. -/
def pairHash : String :=
  (Json.arr [.str previous, event.toJson]).compress

theorem pairHash_injective {previous previous' : String} {event event' : AuditEvent}
    (same : pairHash previous event = pairHash previous' event') :
    previous = previous' ∧ event = event' := by
  have values := compress_injective same
  simp [arr.injEq] at values
  exact ⟨values.1, AuditEvent.toJson_injective values.2⟩

theorem pairHash_ne_genesis : pairHash previous event ≠ AUDIT_GENESIS_HASH := by
  intro same
  have heads := congrArg (fun text => text.toList.head?) same
  simp [pairHash, compress, render, AUDIT_GENESIS_HASH] at heads

/-- What is needed of the digest: no collisions, 64 characters, and not all of them zeros. -/
structure DigestSound (sha256 : String → String) : Prop where
  injective : ∀ {first second : String}, sha256 first = sha256 second → first = second
  length : ∀ text, (sha256 text).toList.length = 64
  fresh : ∀ text, sha256 text ≠ AUDIT_GENESIS_HASH

/--
Every previous hash that occurs has 64 characters, so the digest's input says where
it ends and the event begins.
-/
theorem auditChainHash_committing {sha256 : String → String} (sound : DigestSound sha256) :
    Committing (auditChainHash sha256) AUDIT_GENESIS_HASH := by
  have length : ∀ value, Occurs (auditChainHash sha256) AUDIT_GENESIS_HASH value →
      value.toList.length = 64 := by
    rintro value (rfl | ⟨previous, event, rfl⟩)
    · rfl
    · exact sound.length _
  refine ⟨?_, fun _ _ => sound.fresh _⟩
  intro first second left right occurs occurs' same
  have texts : first.toList ++ left.toJson.compress.toList =
      second.toList ++ right.toJson.compress.toList := by
    simpa using congrArg String.toList (sound.injective same)
  rcases List.append_inj texts ((length first occurs).trans (length second occurs').symm) with
    ⟨previous, event⟩
  exact ⟨String.toList_inj.mp previous,
    AuditEvent.toJson_injective (compress_injective (String.toList_inj.mp event))⟩

/--
With a hash that is injective in the previous hash and the event and never yields
the genesis value, the last stored hash of a trail that verifies fixes its events;
any other trail that ends in that hash is reported, at its first row whose stored
hash is not the hash of its event and of the hash stored before it.
-/
theorem tamper_evident {chainHash : String → AuditEvent → String}
    (injective : ∀ {previous previous' : String} {event event' : AuditEvent},
      chainHash previous event = chainHash previous' event' → previous = previous' ∧ event = event')
    (fresh : ∀ previous event, chainHash previous event ≠ AUDIT_GENESIS_HASH) :
    (∀ first second : List ChainedAuditRow,
      (verifyAuditChain chainHash AUDIT_GENESIS_HASH first).ok = true →
      (verifyAuditChain chainHash AUDIT_GENESIS_HASH second).ok = true →
      first.getLast?.map auditRowHash = second.getLast?.map auditRowHash →
      first.map auditRowEvent = second.map auditRowEvent) ∧
    (∀ intact altered : List ChainedAuditRow, intact ≠ [] →
      (verifyAuditChain chainHash AUDIT_GENESIS_HASH intact).ok = true →
      altered.getLast?.map auditRowHash = intact.getLast?.map auditRowHash →
      altered.map auditRowEvent ≠ intact.map auditRowEvent →
      ∃ before broken after, altered = before ++ broken :: after ∧
        (∀ earlier row later, before = earlier ++ row :: later →
          chainHash (lastAuditHash earlier) (auditRowEvent row) = auditRowHash row) ∧
        chainHash (lastAuditHash before) (auditRowEvent broken) ≠ auditRowHash broken ∧
        verifyAuditChain chainHash AUDIT_GENESIS_HASH altered =
          ⟨before.length, some (auditRowSeq broken)⟩) := by
  have committing := Committing.of_injective injective fresh
  constructor
  · intro first second left right ends
    exact events_eq_of_verified committing left right ends
  · intro intact altered _ verified ends differ
    -- The altered trail does not verify, or it would have the same events.
    rcases @chained_or_broken _ _ (AuditLinks chainHash) auditRowHash AUDIT_GENESIS_HASH
      altered with chained | ⟨before, broken, after, split, chained, unfit⟩
    · exact absurd (events_eq_of_verified committing (verifyAuditChain_ok_iff.mpr chained) verified
        ends) differ
    · refine ⟨before, broken, after, split, ?_, unfit, ?_⟩
      · rintro earlier row later rfl
        exact (chained_append.mp chained).2.1
      · exact verifyAuditChain_eq_broken.mpr
          ⟨before, broken, after, split, rfl, rfl, chained, unfit⟩

def chainedAt (seq ts : ℕ) (previous : String) : ChainedAuditRow :=
  (seq, { ts := ts }, pairHash previous { ts := ts })

/-- A row is deleted from the middle of a trail: the row after it is reported. -/
theorem tamper_evident_deletion :
    let first := chainedAt 1 10 AUDIT_GENESIS_HASH
    let second := chainedAt 2 20 (auditRowHash first)
    let third := chainedAt 3 30 (auditRowHash second)
    (verifyAuditChain pairHash AUDIT_GENESIS_HASH [first, second, third]).ok = true ∧
      ∃ before broken after, [first, third] = before ++ broken :: after ∧
        verifyAuditChain pairHash AUDIT_GENESIS_HASH [first, third] =
          ⟨before.length, some (auditRowSeq broken)⟩ := by
  intro first second third
  have verified : (verifyAuditChain pairHash AUDIT_GENESIS_HASH [first, second, third]).ok =
      true := by
    simp [verifyAuditChain, verifyRows, AuditChainVerification.ok, first, second, third, chainedAt,
      auditRowHash]
  refine ⟨verified, ?_⟩
  rcases (tamper_evident pairHash_injective pairHash_ne_genesis).2 [first, second, third]
    [first, third] (by simp) verified rfl (by simp) with
    ⟨before, broken, after, split, _, _, report⟩
  exact ⟨before, broken, after, split, report⟩

end Mobula
