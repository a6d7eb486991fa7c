import Mobula.Controller.SqlAudit
import Mobula.Foundation.Stages
import Mobula.Provision.Demo

/-!
# Appending to the audit trail

Any number of threads append audit rows at once. The SQL stores read the newest hash and insert
the new row in two statements, one thread at a time: behind a mutex of the process over SQLite,
behind an advisory lock of the transaction over Postgres, where others see the row from the
commit on.
-/

namespace Mobula

open Foundation Foundation.HashChain System.Run AuditTable Prog

variable {Provider ρ : Type}

structure Store.AuditIntact (sha256 : String → String) (store : Store) : Prop where
  chained : Chained (AuditLinks (auditChainHash sha256)) auditRowHash AUDIT_GENESIS_HASH store.audit
  ascending : Log.Ascending auditRowSeq store.audit
  bounded : ∀ row ∈ store.audit, auditRowSeq row ≤ store.auditSeq

/-- Any programs over the in-memory store; only its calls touch the audit trail. -/
def memoryStore (platform : Platform Provider) (behaviour : ρ → Program Unit) :
    System Call.Res (World Provider) ρ where
  exec := exec platform
  behaviour := behaviour
  admits := fun _ _ => True
  stoppable := fun _ => True
  drift := fun before after =>
    after.store.audit = before.store.audit ∧ after.store.auditSeq = before.store.auditSeq

variable {sha256 : String → String}

section Memory

variable {platform : Platform Provider}

section

variable {store : Store} (intact : store.AuditIntact sha256)

include intact

theorem Store.AuditIntact.of_eq {after : Store}
    (audit : after.audit = store.audit) (seq : after.auditSeq = store.auditSeq) :
    after.AuditIntact sha256 := by
  constructor
  · exact audit ▸ intact.chained
  · exact audit ▸ intact.ascending
  · exact audit ▸ seq ▸ intact.bounded

theorem Store.AuditIntact.recordAudit (event : AuditEvent) (now : ℕ) :
    (execControl sha256 (.recordAudit event) store now).2.AuditIntact sha256 := by
  refine ⟨intact.chained.snoc rfl, ?_, ?_⟩
  · refine Log.ascending_append.mpr ⟨intact.ascending, List.pairwise_singleton _ _, ?_⟩
    intro earlier member later last
    have := intact.bounded earlier member
    simp at last
    simp only [last, auditRowSeq] at this ⊢
    omega
  · intro row member
    rcases List.mem_append.mp member with earlier | last
    · exact Nat.le_succ_of_le (intact.bounded row earlier)
    · simp at last
      simp [last, auditRowSeq, execControl]

theorem auditIntact_execControl
    {call : ControlCall} {now : ℕ} : (execControl sha256 call store now).2.AuditIntact sha256 := by
  cases call with
  | recordAudit event => exact intact.recordAudit event now
  | seedPolicy policy =>
    have kept : (store.seedPolicy policy).2.audit = store.audit ∧
        (store.seedPolicy policy).2.auditSeq = store.auditSeq := by
      unfold Store.seedPolicy
      split <;> exact ⟨rfl, rfl⟩
    exact intact.of_eq kept.1 kept.2
  | _ => exact intact.of_eq rfl rfl

end

theorem auditIntact_exec {thread : ℕ} {call : Call} {before after : World Provider}
    {answer : call.Res} (answered : exec platform thread call before = some (answer, after))
    (intact : before.store.AuditIntact platform.sha256) :
    after.store.AuditIntact platform.sha256 := by
  cases call with
  | control call =>
    cases answered
    exact auditIntact_execControl intact
  | process call =>
    have kept : after.store = before.store := by
      cases call with
      | lockAdmit project =>
        simp only [exec, execProcess] at answered
        split at answered
        · cases answered
        · cases answered
          rfl
      | takeToken now =>
        simp only [exec, execProcess] at answered
        split at answered
        · cases answered
          rfl
        · cases answered
          rfl
      | _ =>
        cases answered
        rfl
    rwa [kept]
  | _ =>
    cases answered
    exact intact.of_eq rfl rfl

theorem memory_trail_intact {behaviour : ρ → Program Unit} {world : World Provider}
    {trace : List (Step Call.Res (World Provider) ρ)} {config : Config Call.Res (World Provider) ρ}
    (run : (memoryStore platform behaviour).Run (.start world) trace config)
    (initial : world.store.AuditIntact platform.sha256) :
    config.state.store.AuditIntact platform.sha256 := by
  refine run.preserves (fun world => world.store.AuditIntact platform.sha256) ?_ ?_ initial
  · rintro before after ⟨audit, seq⟩ intact
    exact intact.of_eq audit seq
  · intro earlier step later _ answered intact
    exact auditIntact_exec answered intact

theorem Store.AuditIntact.verifies {store : Store} (intact : store.AuditIntact sha256)
    (fromSeq : Option ℕ) (limit : ℕ) : ∃ window, store.auditChain fromSeq limit = .ok window ∧
      verifyAuditChain (auditChainHash sha256) window.head window.rows =
        ⟨window.rows.length, none⟩ := by
  rcases Log.exists_cut intact.ascending (fromSeq.getD 1) with ⟨cut, _, below, above⟩
  refine ⟨_, store.auditChain_eq fromSeq limit, ?_⟩
  apply verifyAuditChain_of_chained
  simp only [below, above]
  exact intact.chained.window cut limit

end Memory

inductive Dialect where
  | sqlite
  | postgres
  deriving DecidableEq, Repr

/-- What `record_audit` does to the database and to the mutex in front of it. -/
inductive AuditCall where
  | lock
  | unlock
  | begin
  | advisoryLock
  | newestHash
  | insert (columns : AuditColumns) (chainHash : String)
  | commit
  | rollback

def AuditCall.Res : AuditCall → Type
  | .lock => Unit
  | .unlock => Unit
  | .begin => StoreResult Unit
  | .advisoryLock => StoreResult Unit
  | .newestHash => StoreResult (Option String)
  | .insert _ _ => StoreResult ℤ
  | .commit => StoreResult Unit
  | .rollback => Unit

abbrev AuditProgram := Prog AuditCall.Res

/-- The database: committed rows, the last number given out, the lock and what its holder wrote. -/
structure AuditDatabase where
  table : AuditTable
  sequence : ℕ
  holder : Option ℕ
  written : Option AuditTableRow
  failing : Bool

namespace AuditDatabase

def release (database : AuditDatabase) (thread : ℕ) : AuditDatabase :=
  if database.holder = some thread then { database with holder := none, written := none }
  else database

def publish (database : AuditDatabase) : AuditDatabase :=
  match database.written with
  | some row => { database with table := database.table.insert row, written := none }
  | none => database

end AuditDatabase

def outage : StoreError := ⟨"database error"⟩

def execAudit (dialect : Dialect) (thread : ℕ) (call : AuditCall) (database : AuditDatabase) :
    Option (call.Res × AuditDatabase) :=
  match call with
  | .lock =>
    if database.holder.isSome then none else some ((), { database with holder := some thread })
  | .unlock => some ((), database.release thread)
  | .begin => some (if database.failing then .error outage else .ok (), database)
  | .advisoryLock =>
    if database.failing then some (.error outage, database)
    else if database.holder.isSome then none
    else some (.ok (), { database with holder := some thread })
  | .newestHash =>
    some (if database.failing then .error outage else .ok database.table.newestHash, database)
  | .insert columns chainHash =>
    if database.failing ∨ I64_MAX ≤ database.sequence then some (.error outage, database)
    else
      let row : AuditTableRow := ⟨(database.sequence + 1 : ℕ), columns, chainHash⟩
      let numbered := { database with sequence := database.sequence + 1, written := some row }
      match dialect with
      | .sqlite => some (.ok row.seq, numbered.publish)
      | .postgres => some (.ok row.seq, numbered)
  | .commit =>
    if database.failing then some (.error outage, database.release thread)
    else some (.ok (), database.publish.release thread)
  | .rollback => some ((), database.release thread)

def appendRow (sha256 : String → String) (event : AuditEvent) : AuditProgram (StoreResult ℤ) := do
  match ← invoke AuditCall.newestHash with
  | .error failure => return .error failure
  | .ok previous =>
    invoke (AuditCall.insert event.columns
      (auditChainHash sha256 (previous.getD AUDIT_GENESIS_HASH) event))

/-- Give the lock back: the guard is dropped, the transaction committed or rolled back. -/
def finishAudit (dialect : Dialect) (result : StoreResult ℤ) : AuditProgram (StoreResult ℕ) := do
  match dialect, result with
  | .sqlite, result =>
    let _ ← invoke AuditCall.unlock
    return result.map (asUnsigned 64)
  | .postgres, .error failure =>
    let _ ← invoke AuditCall.rollback
    return .error failure
  | .postgres, .ok seq =>
    match ← invoke AuditCall.commit with
    | .error failure => return .error failure
    | .ok () => return .ok (asUnsigned 64 seq)

def lockedAppend (dialect : Dialect) (sha256 : String → String) (event : AuditEvent) :
    AuditProgram (StoreResult ℕ) := do
  let result ← appendRow sha256 event
  finishAudit dialect result

def auditTransaction (sha256 : String → String) (event : AuditEvent) :
    AuditProgram (StoreResult ℕ) := do
  match ← invoke AuditCall.advisoryLock with
  | .error failure =>
    let _ ← invoke AuditCall.rollback
    return .error failure
  | .ok () => lockedAppend .postgres sha256 event

def recordAudit (dialect : Dialect) (sha256 : String → String) (event : AuditEvent) :
    AuditProgram (StoreResult ℕ) := do
  match dialect with
  | .sqlite =>
    let _ ← invoke AuditCall.lock
    lockedAppend .sqlite sha256 event
  | .postgres =>
    match ← invoke AuditCall.begin with
    | .error failure => return .error failure
    | .ok () => auditTransaction sha256 event

def ignoringResult {α : Type} (program : AuditProgram α) : AuditProgram Unit := do
  let _ ← program

/-- Concurrent `record_audit` calls; statements may fail and numbers may be lost at any time. -/
def auditWriters (dialect : Dialect) (sha256 : String → String) :
    System AuditCall.Res AuditDatabase AuditEvent where
  exec := execAudit dialect
  behaviour := fun event => ignoringResult (recordAudit dialect sha256 event)
  admits := fun _ event => event.Storable
  stoppable := fun _ => False
  drift := fun before after => after.table = before.table ∧ after.holder = before.holder ∧
    after.written = before.written ∧ before.sequence ≤ after.sequence

section Database

variable {dialect : Dialect}

/-- Committed rows are chained; what the holder of the lock wrote fits behind them. -/
structure AuditDatabase.Intact (sha256 : String → String) (database : AuditDatabase) : Prop where
  chained : tableReader.Intact (auditChainHash sha256) AUDIT_GENESIS_HASH database.table.ascending
  numbered : ∀ row ∈ database.table.rows, 1 ≤ row.seq ∧ row.seq ≤ database.sequence
  pending : ∀ row ∈ database.written, (1 ≤ row.seq ∧ row.seq ≤ database.sequence) ∧
    (∀ other ∈ database.table.rows, other.seq < row.seq) ∧
    tableReader.Fits (auditChainHash sha256) (lastHash database.table.ascending) row
  free : database.holder = none → database.written = none

/-- How far a thread has come with recording an event. -/
inductive Recording (dialect : Dialect) (sha256 : String → String) (database : AuditDatabase)
    (i : ℕ) (event : AuditEvent) (program : AuditProgram Unit) : Prop
  | arriving (here : program = ignoringResult (recordAudit dialect sha256 event))
  | begun (here : program = ignoringResult (auditTransaction sha256 event))
      (postgres : dialect = .postgres)
  | refused (here : program = .call .rollback fun _ => .ret ())
  | entered (here : program = ignoringResult (lockedAppend dialect sha256 event))
      (holds : database.holder = some i) (clear : database.written = none)
  | read (here : program = ignoringResult (do
        let result ← invoke (AuditCall.insert event.columns (auditChainHash sha256
          (database.table.newestHash.getD AUDIT_GENESIS_HASH) event))
        finishAudit dialect result))
      (holds : database.holder = some i) (clear : database.written = none)
  | leaving (result : StoreResult ℤ)
      (here : program = ignoringResult (finishAudit dialect result))
      (holds : database.holder = some i)
  | done (here : program = .ret ())

variable {database before after : AuditDatabase} {i j : ℕ} {event : AuditEvent}
  {program : AuditProgram Unit}

/-- A stage mentions the database only as far as the lock protects it. -/
theorem Recording.transfer (recording : Recording dialect sha256 before j event program)
    (kept : before.holder = some j → after.holder = some j ∧ after.table = before.table ∧
      after.written = before.written) :
    Recording dialect sha256 after j event program := by
  cases recording with
  | arriving here => exact .arriving here
  | begun here postgres => exact .begun here postgres
  | refused here => exact .refused here
  | entered here holds clear =>
    rcases kept holds with ⟨holder, _, written⟩
    exact .entered here holder (written.trans clear)
  | read here holds clear =>
    rcases kept holds with ⟨holder, table, written⟩
    exact .read (table ▸ here) holder (written.trans clear)
  | leaving result here holds => exact .leaving result here (kept holds).1
  | done here => exact .done here

theorem Recording.transfer_other (recording : Recording dialect sha256 before j event program)
    (differs : j ≠ i) (mine : before.holder = none ∨ before.holder = some i) :
    Recording dialect sha256 after j event program := by
  apply recording.transfer
  intro holds
  rcases mine with free | taken
  · rw [free] at holds
    cases holds
  · simp [taken] at holds
    exact absurd holds.symm differs

section

variable (intact : database.Intact sha256)

include intact

theorem AuditDatabase.Intact.released : (database.release i).Intact sha256 := by
  unfold AuditDatabase.release
  split
  · exact ⟨intact.chained, intact.numbered, by simp, fun _ => rfl⟩
  · exact intact

theorem AuditDatabase.Intact.locked :
    AuditDatabase.Intact sha256 { database with holder := some i } := by
  refine ⟨intact.chained, intact.numbered, intact.pending, ?_⟩
  intro free
  cases free

/-- Publishing appends the new row to the chain. -/
theorem AuditDatabase.Intact.published : database.publish.Intact sha256 := by
  unfold AuditDatabase.publish
  rcases written : database.written with _ | row
  · exact intact
  rcases intact.pending row written with ⟨number, newest, fits⟩
  have inserted : (database.table.insert row).rows = row :: database.table.rows := by
    apply Table.rows_insert_of_fresh
    intro other member
    exact (newest other member).ne
  have appended : ascending (database.table.insert row) =
      database.table.ascending ++ [row] := by
    rw [ascending, inserted]
    exact Log.sorted_cons_of_newest database.table.nodup newest
  constructor
  · rw [appended]
    exact Chained.snoc intact.chained fits
  · intro other member
    rcases Table.mem_insert.mp member with rfl | ⟨earlier, _⟩
    · exact number
    · exact intact.numbered other earlier
  · simp
  · intro
    rfl

theorem AuditDatabase.Intact.inserted (storable : event.Storable)
    (holds : database.holder = some i) : AuditDatabase.Intact sha256
      { database with
        sequence := database.sequence + 1
        written := some ⟨(database.sequence + 1 : ℕ), event.columns, auditChainHash sha256
          (database.table.newestHash.getD AUDIT_GENESIS_HASH) event⟩ } := by
  constructor
  · exact intact.chained
  · intro row member
    have := intact.numbered row member
    refine ⟨this.1, ?_⟩
    simp only
    omega
  · intro row present
    cases present
    refine ⟨⟨by simp, by simp⟩, ?_, ?_⟩
    · intro other member
      have := (intact.numbered other member).2
      simp only
      omega
    · exact ⟨_, chainedRow_columns storable, rfl⟩
  · intro unheld
    rw [holds] at unheld
    cases unheld

end

/-- What one statement of a thread does: to the database, to the thread and to the others. -/
def StepKeeps (dialect : Dialect) (sha256 : String → String) (i : ℕ) (event : AuditEvent)
    (before after : AuditDatabase) (program : AuditProgram Unit) : Prop :=
  after.Intact sha256 ∧ Recording dialect sha256 after i event program ∧
    ∀ {j other rest}, j ≠ i → Recording dialect sha256 before j other rest →
      Recording dialect sha256 after j other rest

theorem stepKeeps_of_holder (mine : before.holder = none ∨ before.holder = some i)
    (intact : after.Intact sha256) (recording : Recording dialect sha256 after i event program) :
    StepKeeps dialect sha256 i event before after program :=
  ⟨intact, recording, fun differs other => other.transfer_other differs mine⟩

theorem stepKeeps_refl (intact : before.Intact sha256)
    (recording : Recording dialect sha256 before i event program) :
    StepKeeps dialect sha256 i event before before program :=
  ⟨intact, recording, fun _ other => other⟩

section Steps

variable {op : AuditCall} {next : op.Res → AuditProgram Unit} {answer : op.Res}

theorem publish_holder (database : AuditDatabase) : database.publish.holder = database.holder := by
  unfold AuditDatabase.publish
  split <;> rfl

theorem begun_step (intact : before.Intact sha256)
    (here : .call op next = ignoringResult (auditTransaction sha256 event))
    (answered : execAudit .postgres i op before = some (answer, after)) :
    StepKeeps .postgres sha256 i event before after (next answer) := by
  cases here
  simp only [execAudit] at answered
  split at answered
  case isTrue =>
    cases answered
    exact stepKeeps_refl intact (.refused rfl)
  case isFalse =>
    split at answered
    case isTrue => cases answered
    case isFalse unheld =>
      cases answered
      have free : before.holder = none := by simpa using unheld
      exact stepKeeps_of_holder (.inl free) intact.locked (.entered rfl rfl (intact.free free))

variable (intact : before.Intact sha256)
  (answered : execAudit dialect i op before = some (answer, after))

include intact answered

theorem arriving_step (here : .call op next = ignoringResult (recordAudit dialect sha256 event)) :
    StepKeeps dialect sha256 i event before after (next answer) := by
  cases dialect with
  | sqlite =>
    cases here
    simp only [execAudit] at answered
    split at answered
    case isTrue => cases answered
    case isFalse unheld =>
      cases answered
      have free : before.holder = none := by simpa using unheld
      exact stepKeeps_of_holder (.inl free) intact.locked (.entered rfl rfl (intact.free free))
  | postgres =>
    cases here
    cases answered
    apply stepKeeps_refl intact
    rcases before.failing with _ | _
    · exact .begun rfl rfl
    · exact .done rfl

theorem refused_step
    (here : .call op next = (.call .rollback fun _ => .ret () : AuditProgram Unit)) :
    StepKeeps dialect sha256 i event before after (next answer) := by
  cases here
  cases answered
  by_cases holds : before.holder = some i
  · exact stepKeeps_of_holder (.inr holds) intact.released (.done rfl)
  · have unchanged : before.release i = before := if_neg holds
    rw [unchanged]
    exact stepKeeps_refl intact (.done rfl)

theorem entered_step (here : .call op next = ignoringResult (lockedAppend dialect sha256 event))
    (holds : before.holder = some i) (clear : before.written = none) :
    StepKeeps dialect sha256 i event before after (next answer) := by
  cases here
  cases answered
  apply stepKeeps_refl intact
  rcases before.failing with _ | _
  · exact .read rfl holds clear
  · exact .leaving _ rfl holds

theorem read_step (storable : event.Storable)
    (here : .call op next = ignoringResult (do
      let result ← invoke (AuditCall.insert event.columns (auditChainHash sha256
        (before.table.newestHash.getD AUDIT_GENESIS_HASH) event))
      finishAudit dialect result))
    (holds : before.holder = some i) :
    StepKeeps dialect sha256 i event before after (next answer) := by
  cases here
  simp only [execAudit] at answered
  split at answered
  case isTrue =>
    cases answered
    exact stepKeeps_refl intact (.leaving _ rfl holds)
  case isFalse =>
    have inserted := intact.inserted storable holds
    cases dialect with
    | sqlite =>
      cases answered
      exact stepKeeps_of_holder (.inr holds) inserted.published
        (.leaving _ rfl ((publish_holder _).trans holds))
    | postgres =>
      cases answered
      exact stepKeeps_of_holder (.inr holds) inserted (.leaving (.ok _) rfl holds)

theorem leaving_step {result : StoreResult ℤ}
    (here : .call op next = ignoringResult (finishAudit dialect result))
    (holds : before.holder = some i) :
    StepKeeps dialect sha256 i event before after (next answer) := by
  cases dialect with
  | sqlite =>
    cases here
    cases answered
    exact stepKeeps_of_holder (.inr holds) intact.released (.done rfl)
  | postgres =>
    cases result with
    | error failure =>
      cases here
      cases answered
      exact stepKeeps_of_holder (.inr holds) intact.released (.done rfl)
    | ok seq =>
      cases here
      simp only [execAudit] at answered
      split at answered
      case isTrue =>
        cases answered
        exact stepKeeps_of_holder (.inr holds) intact.released (.done rfl)
      case isFalse =>
        cases answered
        exact stepKeeps_of_holder (.inr holds) intact.published.released (.done rfl)

end Steps

theorem auditWriters_staged : (auditWriters dialect sha256).Staged (AuditDatabase.Intact sha256)
    (fun database i event program => event.Storable ∧
      Recording dialect sha256 database i event program) where
  spawned := fun storable _ => ⟨storable, .arriving rfl⟩
  drifted := by
    rintro before after ⟨table, holder, written, sequence⟩ intact
    constructor
    · constructor
      · rw [table]
        exact intact.chained
      · intro row member
        rw [table] at member
        have := intact.numbered row member
        refine ⟨this.1, ?_⟩
        omega
      · intro row present
        rw [written] at present
        rw [table]
        rcases intact.pending row present with ⟨number, newest, fits⟩
        refine ⟨⟨number.1, ?_⟩, newest, fits⟩
        omega
      · intro unheld
        rw [written]
        exact intact.free (holder ▸ unheld)
    · rintro i event program ⟨storable, recording⟩
      refine ⟨storable, recording.transfer ?_⟩
      intro holds
      exact ⟨holder.trans holds, table, written⟩
  stopped := fun stoppable => stoppable.elim
  stepped := by
    rintro i event op next before answer after intact ⟨storable, recording⟩ answered
    have keeps : StepKeeps dialect sha256 i event before after (next answer) := by
      cases recording with
      | arriving here => exact arriving_step intact answered here
      | begun here postgres =>
        subst postgres
        exact begun_step intact here answered
      | refused here => exact refused_step intact answered here
      | entered here holds clear => exact entered_step intact answered here holds clear
      | read here holds _ => exact read_step intact answered storable here holds
      | leaving result here holds => exact leaving_step intact answered here holds
      | done here => cases here
    exact ⟨keeps.1, ⟨storable, keeps.2.1⟩,
      fun differs other => ⟨other.1, keeps.2.2 differs other.2⟩⟩

theorem database_trail_intact {trace : List (Step AuditCall.Res AuditDatabase AuditEvent)}
    {config : Config AuditCall.Res AuditDatabase AuditEvent}
    (run : (auditWriters dialect sha256).Run (.start database) trace config)
    (initial : database.Intact sha256) : config.state.Intact sha256 :=
  (run.staged auditWriters_staged initial).1

/-- Every window of an intact table is read and verifies to its last row. -/
theorem AuditDatabase.Intact.verifies (intact : database.Intact sha256) (fromSeq : Option ℕ)
    (limit : ℕ) : ∃ window, database.table.auditChain fromSeq limit = .ok window ∧
      verifyAuditChain (auditChainHash sha256) window.head window.rows =
        ⟨window.rows.length, none⟩ := by
  have numbered : ∀ row ∈ database.table.rows, 1 ≤ row.seq := fun row member =>
    (intact.numbered row member).1
  rcases Log.exists_cut (ascending_ascending database.table)
    (clampI64 (fromSeq.getD 1)) with ⟨cut, _, below, above⟩
  have window : tableReader.Intact (auditChainHash sha256)
      (lastHash (database.table.ascending.take cut))
      ((database.table.ascending.drop cut).take limit) := intact.chained.window cut limit
  rcases window.verified with ⟨rows, read, verified⟩
  refine ⟨⟨_, rows⟩, ?_, verified⟩
  rw [auditChain_eq numbered, above, below]
  change Except.map _ (List.mapM tableReader.decode _) = _
  rw [read]
  rfl

end Database

def emptyDatabase : AuditDatabase :=
  ⟨Table.empty, 0, none, none, false⟩

theorem emptyDatabase_intact : emptyDatabase.Intact sha256 :=
  ⟨trivial, by simp [emptyDatabase, Table.empty], by simp [emptyDatabase], fun _ => rfl⟩

theorem Store.auditIntact_of_empty {store : Store} (empty : store.audit = []) :
    store.AuditIntact sha256 := by
  constructor
  · rw [empty]
    trivial
  · rw [empty]
    exact List.Pairwise.nil
  · simp [empty]

/--
After any interleaving of `record_audit` calls, every window that `audit_chain`
returns verifies, with all of its rows counted: over the in-memory store among any
other programs, and over the SQL stores for events whose numbers fit their columns.
-/
theorem audit_chain_verifies (platform : Platform Provider) (behaviour : ρ → Program Unit)
    (dialect : Dialect) (sha256 : String → String) :
    (∀ (world : World Provider) trace config, world.store.audit = [] →
      (memoryStore platform behaviour).Run (.start world) trace config →
      ∀ fromSeq limit, ∃ window, config.state.store.auditChain fromSeq limit = .ok window ∧
        verifyAuditChain (auditChainHash platform.sha256) window.head window.rows =
          ⟨window.rows.length, none⟩) ∧
    (∀ trace config, (auditWriters dialect sha256).Run (.start emptyDatabase) trace config →
      ∀ fromSeq limit, ∃ window, config.state.table.auditChain fromSeq limit = .ok window ∧
        verifyAuditChain (auditChainHash sha256) window.head window.rows =
          ⟨window.rows.length, none⟩) := by
  constructor
  · intro world trace config empty run
    exact (memory_trail_intact run (Store.auditIntact_of_empty empty)).verifies
  · intro trace config run
    exact (database_trail_intact run emptyDatabase_intact).verifies

def plainEvent : AuditEvent := { ts := 7 }

theorem plainEvent_storable : plainEvent.Storable :=
  ⟨by decide, by simp [plainEvent], by simp [plainEvent]⟩

/-- The row of the second of two writers, in memory and over Postgres. -/
theorem audit_chain_verifies_of_two :
    (∃ trace config,
      (memoryStore demoPlatform fun event => do let _ ← Calls.recordAudit event).Run
        (.start (demoWorld Store.empty)) trace config ∧
      ∃ window, config.state.store.auditChain (some 2) 10 = .ok window ∧
        window.rows.length = 1 ∧
        verifyAuditChain (auditChainHash demoPlatform.sha256) window.head window.rows =
          ⟨window.rows.length, none⟩) ∧
    (∃ trace config, (auditWriters .postgres id).Run (.start emptyDatabase) trace config ∧
      ∃ window, config.state.table.auditChain (some 2) 10 = .ok window ∧
        window.rows.length = 1 ∧
        verifyAuditChain (auditChainHash id) window.head window.rows =
          ⟨window.rows.length, none⟩) := by
  have verifies := audit_chain_verifies demoPlatform
    (fun event => do let _ ← Calls.recordAudit event) .postgres id
  constructor
  · have spawned : (memoryStore demoPlatform fun event => do
        let _ ← Calls.recordAudit event).Run (.start (demoWorld Store.empty)) [] _ :=
      .spawn 1 plainEvent (.spawn 0 plainEvent .refl rfl trivial) rfl trivial
    have first := step 1 plainEvent (.control (.recordAudit plainEvent)) _ _ _ spawned rfl rfl
    have second := step 0 plainEvent (.control (.recordAudit plainEvent)) _ _ _ first rfl rfl
    rcases verifies.1 _ _ _ rfl second (some 2) 10 with ⟨window, read, verified⟩
    refine ⟨_, _, second, window, read, ?_, verified⟩
    cases read
    rfl
  · have spawned : (auditWriters .postgres id).Run (.start emptyDatabase) [] _ :=
      .spawn 1 plainEvent (.spawn 0 plainEvent .refl rfl plainEvent_storable) rfl
        plainEvent_storable
    have begun := step 0 plainEvent .begin _ _ _ spawned rfl rfl
    have waiting := step 1 plainEvent .begin _ _ _ begun rfl rfl
    have locked := step 1 plainEvent .advisoryLock _ _ _ waiting rfl rfl
    have read := step 1 plainEvent .newestHash _ _ _ locked rfl rfl
    have inserted := step 1 plainEvent (.insert _ _) _ _ _ read rfl rfl
    have committed := step 1 plainEvent .commit _ _ _ inserted rfl rfl
    have relocked := step 0 plainEvent .advisoryLock _ _ _ committed rfl rfl
    have reread := step 0 plainEvent .newestHash _ _ _ relocked rfl rfl
    have reinserted := step 0 plainEvent (.insert _ _) _ _ _ reread rfl rfl
    have recommitted := step 0 plainEvent .commit _ _ _ reinserted rfl rfl
    rcases verifies.2 _ _ recommitted (some 2) 10 with ⟨window, read, verified⟩
    refine ⟨_, _, recommitted, window, read, ?_, verified⟩
    cases read
    rfl

end Mobula
