import Mobula.Controller.SqlAudit

/-!
# Reading the audit trail page by page

Both stores read a log that may grow between two pages, so that following the cursor yields
what was selected at the first read (`Log.traverse_eq`). The `WHERE` clause of SQLite differs
from `AuditFilter::matches` in one place: it compares a path with a prefix through
`substr(path, 1, length(?)) = ?`, and `length` counts the characters before the first U+0000
only. A prefix with that character selects nothing.
-/

namespace Mobula

open Foundation List Log AuditTable

structure AuditFilter where
  limit : Option ℕ := none
  cursor : Option ℕ := none
  fromTs : Option ℕ := none
  toTs : Option ℕ := none
  subject : Option String := none
  cluster : Option String := none
  method : Option String := none
  pathPrefix : Option String := none
  minStatus : Option ℕ := none
  decision : Option AuditDecision := none
  reason : Option String := none

namespace AuditFilter

def DEFAULT_LIMIT : ℕ := 100

def MAX_LIMIT : ℕ := 1000

def effectiveLimit (filter : AuditFilter) : ℕ :=
  max 1 (min (filter.limit.getD DEFAULT_LIMIT) MAX_LIMIT)

/-- The conditions on an event, everything but limit and cursor. -/
def matchesEvent (filter : AuditFilter) (event : AuditEvent) : Bool :=
  filter.fromTs.all (fun start => start ≤ event.ts) &&
    filter.toTs.all (fun stop => event.ts ≤ stop) &&
    filter.subject.all (fun subject => event.subject = some subject) &&
    filter.cluster.all (fun cluster => event.cluster = some cluster) &&
    filter.method.all (fun method => event.method = some method) &&
    filter.pathPrefix.all
      (fun lead => event.path.any fun path => lead.toList.isPrefixOf path.toList) &&
    filter.minStatus.all (fun least => event.status.any fun status => least ≤ status) &&
    filter.decision.all (fun decision => event.decision = decision) &&
    filter.reason.all (fun reason => event.reason = some reason)

end AuditFilter

abbrev AuditPage := List (ℕ × AuditEvent) × Option ℕ

def Store.listAudit (store : Store) (filter : AuditFilter) : StoreResult AuditPage :=
  let limit := filter.effectiveLimit
  let rows := ((store.audit.filter fun row =>
    filter.cursor.all (fun cursor => auditRowSeq row < cursor) &&
      filter.matchesEvent (auditRowEvent row)).map fun row =>
        (auditRowSeq row, auditRowEvent row)).reverse
  .ok (truncate Prod.fst limit rows)

/-- The part of a text that SQLite's text functions see. -/
def sqliteVisible (text : String) : List Char :=
  text.toList.takeWhile fun c => c ≠ '\x00'

/-- `substr(path, 1, length(lead)) = lead` -/
def sqliteStartsWith (path lead : String) : Bool :=
  (sqliteVisible path).take (sqliteVisible lead).length = lead.toList

namespace AuditFilter

/-- The `WHERE` clause without the condition on the cursor; comparisons with `NULL` are not true. -/
def selects (filter : AuditFilter) (columns : AuditColumns) : Bool :=
  filter.fromTs.all (fun start => clampI64 start ≤ columns.ts) &&
    filter.toTs.all (fun stop => columns.ts ≤ clampI64 stop) &&
    filter.subject.all (fun subject => columns.subject = some subject) &&
    filter.cluster.all (fun cluster => columns.cluster = some cluster) &&
    filter.method.all (fun method => columns.method = some method) &&
    filter.pathPrefix.all (fun lead => columns.path.any fun path => sqliteStartsWith path lead) &&
    filter.minStatus.all (fun least : ℕ => columns.status.any (Int.ofNat least ≤ ·)) &&
    filter.decision.all (fun decision => columns.decision = decision.asStr) &&
    filter.reason.all (fun reason => columns.reason = some reason)

end AuditFilter

def AuditTable.selectNewest (table : AuditTable) (filter : AuditFilter) : List AuditTableRow :=
  (table.ascending.filter fun row =>
    filter.cursor.all (fun cursor => row.seq < clampI64 cursor) &&
      filter.selects row.columns).reverse

def AuditTable.listAudit (table : AuditTable) (filter : AuditFilter) : StoreResult AuditPage := do
  let limit := filter.effectiveLimit
  let rows ← ((table.selectNewest filter).take (limit + 1)).mapM rowToAuditEvent
  .ok (truncate Prod.fst limit rows)

/-- Pages are read until there is no cursor; the rows may be others at every read. -/
def traversePages : ℕ → (ℕ → AuditFilter → StoreResult AuditPage) → AuditFilter →
    Option (List (List (ℕ × AuditEvent)))
  | 0, _, _ => none
  | fuel + 1, reads, filter =>
    match reads 0 filter with
    | .error _ => none
    | .ok (rows, none) => some [rows]
    | .ok (rows, some next) =>
      (traversePages fuel (fun read => reads (read + 1))
        { filter with cursor := some next }).map (rows :: ·)

/--
The traversal ends; its pages keep to the limit, go down strictly, and together
have every matching row that was present at the first read exactly once.
-/
def PagesExact (reads : ℕ → AuditFilter → StoreResult AuditPage) (filter : AuditFilter)
    (present : List (ℕ × AuditEvent)) : Prop :=
  ∃ fuel pages, traversePages fuel reads { filter with cursor := none } = some pages ∧
    (∀ page ∈ pages, page.length ≤ filter.effectiveLimit) ∧
    pages.flatten.Pairwise (fun newer older => older.1 < newer.1) ∧
    ∀ row ∈ present, filter.matchesEvent row.2 = true → pages.flatten.count row = 1

section Traversal

variable {Row : Type} {number : Row → ℕ} {selected : Row → Bool} {view : Row → ℕ × AuditEvent}
  {filter : AuditFilter} {reads : ℕ → AuditFilter → StoreResult AuditPage} {logs : ℕ → List Row}

/-- A read returns a page of the log, as it is seen through a view of the rows. -/
def ReadsLog (number : Row → ℕ) (selected : Row → Bool) (view : Row → ℕ × AuditEvent)
    (filter : AuditFilter) (reads : ℕ → AuditFilter → StoreResult AuditPage)
    (logs : ℕ → List Row) : Prop :=
  ∀ read cursor, (∀ bound ∈ cursor, ∃ row ∈ logs read, number row = bound) →
    reads read { filter with cursor := cursor } =
      .ok ((page number selected filter.effectiveLimit (logs read) cursor).1.map view,
        (page number selected filter.effectiveLimit (logs read) cursor).2)

theorem effectiveLimit_pos : 0 < filter.effectiveLimit := by
  simp only [AuditFilter.effectiveLimit]
  omega

theorem mem_of_page_cursor {limit : ℕ} {rows : List Row} {cursor : Option ℕ} {next : ℕ}
    (more : (page number selected limit rows cursor).2 = some next) :
    ∃ row ∈ rows, number row = next := by
  simp only [page, truncate] at more
  split at more
  case isTrue =>
    rcases Option.map_eq_some_iff.mp more with ⟨row, last, named⟩
    have member := mem_of_mem_take (mem_of_getLast? last)
    simp [below, mem_reverse] at member
    exact ⟨row, member.1, named⟩
  case isFalse => cases more

theorem traversePages_eq (read : ReadsLog number selected view filter reads logs)
    (grows : ∀ read, logs read <+: logs (read + 1)) {cursor : Option ℕ}
    (known : ∀ bound ∈ cursor, ∃ row ∈ logs 0, number row = bound) {fuel : ℕ} :
    traversePages fuel reads { filter with cursor := cursor } =
      (traverse number selected filter.effectiveLimit fuel logs cursor).map
        (·.map (·.map view)) := by
  induction fuel generalizing reads logs cursor with
  | zero => rfl
  | succ fuel ih =>
    rw [traversePages, Log.traverse, read 0 cursor known]
    rcases pageEq : page number selected filter.effectiveLimit (logs 0) cursor with
      ⟨rows, _ | next⟩
    · rfl
    · have later : ReadsLog number selected view filter (fun read => reads (read + 1))
          (fun read => logs (read + 1)) := fun count => read (count + 1)
      have known' : ∀ bound ∈ some next, ∃ row ∈ logs 1, number row = bound := by
        rintro bound same
        cases same
        rcases mem_of_page_cursor (congrArg Prod.snd pageEq) with ⟨row, member, named⟩
        exact ⟨row, (grows 0).subset member, named⟩
      have rest := ih later (fun count => grows (count + 1)) known'
      simp only [rest, Option.map_map]
      rfl

theorem pagesExact_of_readsLog (read : ReadsLog number selected view filter reads logs)
    (numbered : ∀ row ∈ logs 0, (view row).1 = number row)
    (ascending : ∀ read, Log.Ascending number (logs read))
    (grows : ∀ read, logs read <+: logs (read + 1))
    (complete : ∀ row ∈ logs 0, filter.matchesEvent (view row).2 = true → selected row = true) :
    PagesExact reads filter ((logs 0).map view) := by
  rcases traverse_eq effectiveLimit_pos none ascending grows
    (Nat.lt_succ_self (below number selected (logs 0) none).length) with
    ⟨pages, done, flat, short⟩
  have flatten : (pages.map (·.map view)).flatten =
      (below number selected (logs 0) none).map view := by
    rw [← flat, map_flatten]
  have member {row : Row} (inside : row ∈ below number selected (logs 0) none) :
      row ∈ logs 0 := by
    simp [below, mem_reverse] at inside
    exact inside.1
  have descending : ((below number selected (logs 0) none).map view).Pairwise
      (fun newer older => older.1 < newer.1) := by
    rw [pairwise_map]
    refine (below_descending (ascending 0) none).imp_of_mem ?_
    intro newer older inside inside' below
    rwa [numbered newer (member inside), numbered older (member inside')]
  refine ⟨(below number selected (logs 0) none).length + 1, pages.map (·.map view),
    ?_, ?_, ?_, ?_⟩
  · rw [traversePages_eq read grows (by simp), done]
    rfl
  · intro page inside
    rcases List.mem_map.mp inside with ⟨rows, rowsMem, rfl⟩
    rw [length_map]
    exact short rows rowsMem
  · rw [flatten]
    exact descending
  · intro row present matching
    rcases List.mem_map.mp present with ⟨raw, rawMem, rfl⟩
    rw [flatten]
    apply count_eq_one_of_mem
    · exact descending.imp fun below same => by simp [same] at below
    · apply List.mem_map_of_mem
      simp [below, rawMem, complete raw rawMem matching]

end Traversal

def auditRowView (row : ChainedAuditRow) : ℕ × AuditEvent :=
  (auditRowSeq row, auditRowEvent row)

theorem memory_readsLog {stores : ℕ → Store} {filter : AuditFilter} :
    ReadsLog auditRowSeq (fun row => filter.matchesEvent (auditRowEvent row)) auditRowView filter
      (fun read => (stores read).listAudit) (fun read => (stores read).audit) := by
  intro read cursor _
  simp only [Store.listAudit, ← map_reverse]
  exact congrArg Except.ok (truncate_map fun _ _ => rfl)

theorem memory_pages_exact {stores : ℕ → Store}
    (ascending : ∀ read, Log.Ascending auditRowSeq (stores read).audit)
    (grows : ∀ read, (stores read).audit <+: (stores (read + 1)).audit) {filter : AuditFilter} :
    PagesExact (fun read => (stores read).listAudit) filter ((stores 0).audit.map auditRowView) :=
  pagesExact_of_readsLog memory_readsLog (fun _ _ => rfl) ascending grows
    (fun _ _ matching => matching)

/-- An event as the columns keep it. -/
def AuditEvent.stored (event : AuditEvent) : AuditEvent :=
  { event with
    ts := min event.ts I64_MAX
    latencyMs := event.latencyMs.map fun latency => min latency I64_MAX }

theorem AuditEvent.stored_columns (event : AuditEvent) : event.stored.columns = event.columns := by
  have clamped (n : ℕ) : clampI64 (min n I64_MAX) = clampI64 n := by simp [clampI64]
  simp [AuditEvent.columns, AuditEvent.stored, clamped, Function.comp_def]

theorem AuditEvent.stored_storable {event : AuditEvent}
    (small : ∀ status ∈ event.status, status < 2 ^ 16) : event.stored.Storable := by
  constructor
  · simp only [AuditEvent.stored, I64_MAX]
    omega
  · intro latency present
    simp [AuditEvent.stored, I64_MAX] at present
    rcases present with ⟨whole, _, rfl⟩
    omega
  · exact small

/-- Rows as `record_audit` writes them. -/
structure AuditTable.Recorded (table : AuditTable) : Prop where
  numbered : ∀ row ∈ table.rows, 1 ≤ row.seq ∧ row.seq < 2 ^ 63
  written : ∀ row ∈ table.rows, ∃ event : AuditEvent,
    (∀ status ∈ event.status, status < 2 ^ 16) ∧ row.columns = event.columns

def AuditTableRow.view (row : AuditTableRow) : ℕ × AuditEvent :=
  match rowToAuditEvent row with
  | .ok shown => shown
  | .error _ => (0, { ts := 0 })

section Sqlite

variable {table : AuditTable} {filter : AuditFilter} {row : AuditTableRow}

theorem AuditTable.Recorded.decoded (recorded : table.Recorded) (member : row ∈ table.rows) :
    ∃ event : AuditEvent, event.Storable ∧ row.columns = event.columns ∧
      rowToAuditEvent row = .ok (asUnsigned 64 row.seq, event) ∧
      row.view = (asUnsigned 64 row.seq, event) := by
  rcases recorded.written row member with ⟨event, small, written⟩
  have storable := AuditEvent.stored_storable small
  rw [← event.stored_columns] at written
  have read : rowToAuditEvent row = .ok (asUnsigned 64 row.seq, event.stored) := by
    have whole := rowToAuditEvent_columns storable row.seq row.chainHash
    rwa [← written] at whole
  exact ⟨event.stored, storable, written, read, by simp [AuditTableRow.view, read]⟩

theorem sqliteStartsWith_eq {path lead : String} (plain : '\x00' ∉ lead.toList) :
    sqliteStartsWith path lead = lead.toList.isPrefixOf path.toList := by
  have visible : ∀ c ∈ lead.toList, decide (c ≠ '\x00') = true := by
    intro c member
    exact decide_eq_true fun same => plain (same ▸ member)
  have leadVisible : sqliteVisible lead = lead.toList := takeWhile_eq_self_iff.mpr visible
  rw [Bool.eq_iff_iff, isPrefixOf_iff_prefix, sqliteStartsWith, decide_eq_true_iff, leadVisible]
  constructor
  · intro taken
    rw [← taken]
    exact (List.take_prefix _ _).trans (List.takeWhile_prefix _)
  · rintro ⟨rest, split⟩
    rw [sqliteVisible, ← split, takeWhile_append_of_pos visible, take_left]

theorem sqliteStartsWith_of_nul {path lead : String} (hidden : '\x00' ∈ lead.toList) :
    sqliteStartsWith path lead = false := by
  apply decide_eq_false
  intro same
  rw [← same] at hidden
  have visible := mem_takeWhile_imp (mem_of_mem_take hidden)
  simp at visible

theorem selects_of_matches {event : AuditEvent}
    (plain : ∀ lead ∈ filter.pathPrefix, '\x00' ∉ lead.toList)
    (matching : filter.matchesEvent event = true) : filter.selects event.columns = true := by
  simp only [AuditFilter.matchesEvent, Bool.and_eq_true, Option.all_eq_true, decide_eq_true_eq,
    Option.any_eq_true] at matching
  rcases matching with ⟨⟨⟨⟨⟨⟨⟨⟨start, stop⟩, subject⟩, cluster⟩, method⟩, path⟩, status⟩, decision⟩,
    reason⟩
  simp only [AuditFilter.selects, Bool.and_eq_true, Option.all_eq_true, decide_eq_true_eq,
    Option.any_eq_true]
  refine ⟨⟨⟨⟨⟨⟨⟨⟨?_, ?_⟩, subject⟩, cluster⟩, method⟩, ?_⟩, ?_⟩, ?_⟩, reason⟩
  · intro bound given
    exact clampI64_mono (start bound given)
  · intro bound given
    exact clampI64_mono (stop bound given)
  · intro lead given
    rcases path lead given with ⟨text, present, starts⟩
    exact ⟨text, present, (sqliteStartsWith_eq (plain lead given)).trans starts⟩
  · intro least given
    rcases status least given with ⟨code, present, enough⟩
    exact ⟨code, by simp [AuditEvent.columns, present], Int.ofNat_le.mpr enough⟩
  · intro wanted given
    exact congrArg AuditDecision.asStr (decision wanted given)

/-- The clause selects the row of an event exactly if the event matches. -/
theorem audit_clause_matches (filter : AuditFilter) (event : AuditEvent)
    (early : event.ts < 2 ^ 63 - 1)
    (plain : ∀ lead ∈ filter.pathPrefix, '\x00' ∉ lead.toList) :
    filter.selects event.columns = true ↔ filter.matchesEvent event = true := by
  refine ⟨?_, selects_of_matches plain⟩
  intro selected
  simp only [AuditFilter.selects, Bool.and_eq_true, Option.all_eq_true, decide_eq_true_eq,
    Option.any_eq_true] at selected
  rcases selected with ⟨⟨⟨⟨⟨⟨⟨⟨start, stop⟩, subject⟩, cluster⟩, method⟩, path⟩, status⟩, decision⟩,
    reason⟩
  simp only [AuditFilter.matchesEvent, Bool.and_eq_true, Option.all_eq_true, decide_eq_true_eq,
    Option.any_eq_true]
  refine ⟨⟨⟨⟨⟨⟨⟨⟨?_, ?_⟩, subject⟩, cluster⟩, method⟩, ?_⟩, ?_⟩, ?_⟩, reason⟩
  · intro bound given
    have clamped := start bound given
    simp only [AuditEvent.columns, clampI64, I64_MAX] at clamped
    omega
  · intro bound given
    have clamped := stop bound given
    simp only [AuditEvent.columns, clampI64, I64_MAX] at clamped
    omega
  · intro lead given
    rcases path lead given with ⟨text, present, starts⟩
    exact ⟨text, present, (sqliteStartsWith_eq (plain lead given)).symm.trans starts⟩
  · intro least given
    rcases status least given with ⟨code, present, enough⟩
    rcases Option.map_eq_some_iff.mp present with ⟨stored, found, rfl⟩
    exact ⟨stored, found, Int.ofNat_le.mp enough⟩
  · intro wanted given
    exact AuditDecision.asStr_injective (decision wanted given)

/-- A denied request under a prefix, and one that came before the window. -/
theorem audit_clause_matches_of_denial :
    let filter : AuditFilter :=
      { fromTs := some 5, pathPrefix := some "/api/", minStatus := some 400 }
    let denial : AuditEvent := { ts := 7, path := some "/api/v1", status := some 403 }
    filter.selects denial.columns = true ∧ filter.selects { denial with ts := 4 }.columns ≠ true :=
  ⟨(audit_clause_matches _ _ (by decide) (by decide)).mpr (by decide),
    fun selected => absurd ((audit_clause_matches _ _ (by decide) (by decide)).mp selected)
      (by decide)⟩

theorem selects_of_nul {lead : String} (given : filter.pathPrefix = some lead)
    (hidden : '\x00' ∈ lead.toList) {columns : AuditColumns} : filter.selects columns = false := by
  have path : (columns.path.any fun path => sqliteStartsWith path lead) = false := by
    rcases columns.path with _ | path
    · rfl
    · simpa using sqliteStartsWith_of_nul hidden
  simp [AuditFilter.selects, given, path]

theorem asUnsigned_lt_iff {seq : ℤ} {bound : ℕ} (positive : 1 ≤ seq) (small : seq < 2 ^ 63)
    (inside : bound < 2 ^ 63) : seq < clampI64 bound ↔ asUnsigned 64 seq < bound := by
  simp only [clampI64_of_lt inside, asUnsigned]
  omega

theorem selectNewest_eq (recorded : table.Recorded) {cursor : Option ℕ}
    (small : ∀ bound ∈ cursor, bound < 2 ^ 63) :
    table.selectNewest { filter with cursor := cursor } =
      below (fun row => asUnsigned 64 row.seq) (fun row => filter.selects row.columns)
        table.ascending cursor := by
  refine congrArg reverse (filter_congr ?_)
  intro row member
  have bounds := recorded.numbered row (mem_ascending.mp member)
  rcases cursor with _ | bound
  · rfl
  simp [asUnsigned_lt_iff bounds.1 bounds.2 (small bound rfl)]
  rfl

theorem AuditTable.Recorded.shown (recorded : table.Recorded) {rows : List AuditTableRow}
    (inside : ∀ row ∈ rows, row ∈ table.ascending) :
    rows.mapM rowToAuditEvent = .ok (rows.map AuditTableRow.view) ∧
      ∀ row ∈ rows, row.view.1 = asUnsigned 64 row.seq := by
  rw [Fallible.mapM_eq_ok, forall₂_map_right_iff, forall₂_same, ← forall₂_and]
  intro row member
  rcases recorded.decoded (mem_ascending.mp (inside row member)) with
    ⟨event, _, _, decoded, view⟩
  rw [decoded, view]
  exact ⟨rfl, rfl⟩

/-- SQLite's page is a page of the log of its rows. -/
theorem sqlite_readsLog {tables : ℕ → AuditTable} (recorded : ∀ read, (tables read).Recorded)
    (filter : AuditFilter) :
    ReadsLog (fun row => asUnsigned 64 row.seq) (fun row => filter.selects row.columns)
      AuditTableRow.view filter (fun read => (tables read).listAudit)
      (fun read => (tables read).ascending) := by
  intro read cursor known
  have small : ∀ bound ∈ cursor, bound < 2 ^ 63 := by
    intro bound given
    rcases known bound given with ⟨row, member, rfl⟩
    have := (recorded read).numbered row (mem_ascending.mp member)
    simp only [asUnsigned]
    omega
  have selected := @selectNewest_eq (tables read) filter (recorded read) cursor small
  have inside : ∀ row ∈ (tables read).selectNewest { filter with cursor := cursor },
      row ∈ (tables read).ascending := by
    intro row member
    simp [selectNewest, mem_reverse] at member
    exact member.1
  have shown := ((recorded read).shown fun row member => inside row
    (mem_of_mem_take (i := filter.effectiveLimit + 1) member)).1
  have labelled := ((recorded read).shown inside).2
  change (do
    let rows ← (take (filter.effectiveLimit + 1) _).mapM rowToAuditEvent
    Except.ok (truncate Prod.fst filter.effectiveLimit rows)) = _
  rw [shown]
  change Except.ok (truncate _ _ _) = _
  rw [map_take, truncate_take, truncate_map labelled, selected]
  rfl

theorem AuditTable.Recorded.ascending_unsigned (recorded : table.Recorded) :
    Log.Ascending (fun row => asUnsigned 64 row.seq) table.ascending := by
  refine (ascending_ascending table).imp_of_mem ?_
  intro earlier later first second below
  have left := recorded.numbered earlier (mem_ascending.mp first)
  have right := recorded.numbered later (mem_ascending.mp second)
  simp only [asUnsigned]
  omega

section Growing

variable {tables : ℕ → AuditTable} (recorded : ∀ read, (tables read).Recorded)

include recorded

theorem sqlite_pages_exact
    (grows : ∀ read, (tables read).ascending <+: (tables (read + 1)).ascending)
    (condition : (∀ lead ∈ filter.pathPrefix, '\x00' ∉ lead.toList) ∨
      ∀ row ∈ (tables 0).ascending, filter.matchesEvent row.view.2 = false) :
    PagesExact (fun read => (tables read).listAudit) filter
      ((tables 0).ascending.map AuditTableRow.view) := by
  refine pagesExact_of_readsLog (sqlite_readsLog recorded filter)
    ((recorded 0).shown fun _ member => member).2
    (fun read => (recorded read).ascending_unsigned) grows ?_
  intro row member matching
  rcases condition with plain | unmatched
  · rcases (recorded 0).decoded (mem_ascending.mp member) with
      ⟨event, storable, written, _, view⟩
    rw [view] at matching
    rw [written]
    exact selects_of_matches plain matching
  · rw [unmatched row member] at matching
    cases matching

/-- With a U+0000 in the prefix the first page is empty and the last. -/
theorem traversePages_of_nul {lead : String} (given : filter.pathPrefix = some lead)
    (hidden : '\x00' ∈ lead.toList) {fuel : ℕ} {pages : List (List (ℕ × AuditEvent))}
    (done : traversePages fuel (fun read => (tables read).listAudit)
      { filter with cursor := none } = some pages) : pages = [[]] := by
  have empty : (tables 0).listAudit { filter with cursor := none } = .ok ([], none) := by
    have read := sqlite_readsLog recorded filter 0 none (by simp)
    simpa [page, below, truncate, selects_of_nul given hidden] using read
  cases fuel with
  | zero => cases done
  | succ fuel =>
    simp [traversePages, empty] at done
    exact done.symm

end Growing

end Sqlite

/--
Following the cursor of the in-memory store is exact, for every filter and however
the trail grows meanwhile. Over SQLite it is exact if and only if the path prefix
has no U+0000 or no row of the first read matches.
-/
theorem pagination_exact_iff (filter : AuditFilter) :
    (∀ stores : ℕ → Store, (∀ read, Log.Ascending auditRowSeq (stores read).audit) →
      (∀ read, (stores read).audit <+: (stores (read + 1)).audit) →
      PagesExact (fun read => (stores read).listAudit) filter
        ((stores 0).audit.map auditRowView)) ∧
    (∀ tables : ℕ → AuditTable, (∀ read, (tables read).Recorded) →
      (∀ read, (tables read).ascending <+: (tables (read + 1)).ascending) →
      (PagesExact (fun read => (tables read).listAudit) filter
          ((tables 0).ascending.map AuditTableRow.view) ↔
        (∀ lead ∈ filter.pathPrefix, '\x00' ∉ lead.toList) ∨
          ∀ row ∈ (tables 0).ascending, filter.matchesEvent row.view.2 = false)) := by
  constructor
  · intro stores ascending grows
    exact memory_pages_exact ascending grows
  · intro tables recorded grows
    constructor
    · rintro ⟨fuel, pages, done, _, _, once⟩
      by_cases plain : ∀ lead ∈ filter.pathPrefix, '\x00' ∉ lead.toList
      · exact .inl plain
      · simp only [not_forall, not_not] at plain
        rcases plain with ⟨lead, given, hidden⟩
        right
        intro row member
        rw [traversePages_of_nul recorded given hidden done] at once
        by_contra matching
        have found := once row.view (List.mem_map_of_mem member) (by simpa using matching)
        simp at found
    · exact sqlite_pages_exact recorded grows

def nulEvent : AuditEvent := { ts := 0, path := some "/a\x00b" }

def nulFilter : AuditFilter := { pathPrefix := some "/a\x00b" }

def nulTable : AuditTable :=
  Table.empty.insert ⟨1, nulEvent.columns, ""⟩

theorem nulTable_recorded : nulTable.Recorded := by
  constructor
  · simp [nulTable, Table.insert, Table.erase, Table.retain, Table.empty]
  · intro row member
    simp [nulTable, Table.insert, Table.erase, Table.retain, Table.empty] at member
    exact ⟨nulEvent, by simp [nulEvent], by rw [member]⟩

def pathEvent (seq : ℕ) : ℕ × AuditEvent :=
  (seq, { ts := seq, path := some (if seq = 2 then "/b" else "/a") })

/-- The trail at every read of a traversal; an event is recorded after the first one. -/
def growingTrail (read : ℕ) : List (ℕ × AuditEvent) :=
  (range (min read 1 + 3)).map fun n => pathEvent (n + 1)

theorem growingTrail_ascending (read : ℕ) : (growingTrail read).Pairwise (·.1 < ·.1) := by
  simpa [growingTrail, pairwise_map, pathEvent] using pairwise_lt_range

theorem growingTrail_grows (read : ℕ) : growingTrail read <+: growingTrail (read + 1) := by
  cases read with
  | zero => exact ⟨[pathEvent 4], rfl⟩
  | succ read => simp [growingTrail]

def growingStore (read : ℕ) : Store :=
  { Store.empty with audit := (growingTrail read).map fun row => (row.1, row.2, "") }

def growingRows (read : ℕ) : List AuditTableRow :=
  (growingTrail read).map fun row => ⟨row.1, row.2.columns, ""⟩

theorem growingRows_ascending (read : ℕ) :
    Log.Ascending AuditTableRow.seq (growingRows read) := by
  simpa [Log.Ascending, growingRows, pairwise_map] using growingTrail_ascending read

def growingTable (read : ℕ) : AuditTable where
  rows := growingRows read
  nodup := pairwise_map.mpr ((growingRows_ascending read).imp ne_of_lt)

theorem growingTable_recorded (read : ℕ) : (growingTable read).Recorded := by
  constructor
  · simp only [growingTable, growingRows, growingTrail, pathEvent, map_map, forall_mem_map,
      mem_range, Function.comp_apply]
    omega
  · simp only [growingTable, growingRows, growingTrail, pathEvent, map_map, forall_mem_map,
      Function.comp_apply]
    exact fun _ _ => ⟨_, by simp, rfl⟩

/-- Two pages of one row each, with another event recorded between the reads. -/
theorem pagination_exact_while_growing :
    let filter : AuditFilter := { limit := some 1, pathPrefix := some "/a" }
    traversePages 2 (fun read => (growingStore read).listAudit) filter =
        some [[pathEvent 3], [pathEvent 1]] ∧
      PagesExact (fun read => (growingStore read).listAudit) filter (growingTrail 0) ∧
      PagesExact (fun read => (growingTable read).listAudit) filter
        ((growingTable 0).ascending.map AuditTableRow.view) := by
  intro filter
  have iff := pagination_exact_iff filter
  refine ⟨rfl, iff.1 growingStore ?_ ?_,
    (iff.2 growingTable growingTable_recorded ?_).mpr (.inl (by decide))⟩
  · intro read
    exact pairwise_map.mpr (growingTrail_ascending read)
  · intro read
    exact (growingTrail_grows read).map _
  · intro read
    have sorted (read : ℕ) : (growingTable read).ascending = growingRows read :=
      Log.sorted_of_ascending (growingRows_ascending read)
    rw [sorted, sorted]
    exact (growingTrail_grows read).map _

/-- The event matches the filter, and SQLite does not show it. -/
theorem nul_prefix_hides_row :
    nulFilter.matchesEvent nulEvent = true ∧
      ¬ PagesExact (fun _ => nulTable.listAudit) nulFilter
        (nulTable.ascending.map AuditTableRow.view) := by
  have matching : nulFilter.matchesEvent nulEvent = true := by decide
  refine ⟨matching, ?_⟩
  rintro ⟨fuel, pages, done, _, _, once⟩
  rw [traversePages_of_nul (fun _ => nulTable_recorded) rfl (by decide) done] at once
  have present : ∃ row ∈ nulTable.ascending, row.columns = nulEvent.columns :=
    ⟨⟨1, nulEvent.columns, ""⟩, mem_ascending.mpr (by simp [nulTable]), rfl⟩
  rcases present with ⟨row, member, written⟩
  have shown : row.view.2 = nulEvent := by
    have storable : nulEvent.Storable :=
      ⟨by decide, by simp [nulEvent], by simp [nulEvent]⟩
    have read := rowToAuditEvent_columns storable row.seq row.chainHash
    rw [← written] at read
    simp only [AuditTableRow.view]
    split
    case h_1 shown found =>
      rw [read] at found
      cases found
      rfl
    case h_2 failure found =>
      rw [read] at found
      cases found
  have found := once row.view (List.mem_map_of_mem member) (by rw [shown]; exact matching)
  simp at found

end Mobula
