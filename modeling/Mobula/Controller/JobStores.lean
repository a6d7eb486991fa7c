import Mobula.Controller.SqliteStore

/-!
# Stores of the job history

All stores keep one record for each job id. Recording a job whose id is there
already replaces the record in the in-memory store; the SQL stores, with one and
the same statement, update the status and the duration and keep the rest.
-/

namespace Mobula

open Foundation Table List

structure JobStore where
  State : Type
  empty : State
  recordJob : JobRecord → State → State
  listJobs : State → List JobRecord

namespace InMemoryJobs

def recordJob (job : JobRecord) (jobs : Table JobRecord.id) : Table JobRecord.id :=
  jobs.insert job

def listJobs (jobs : Table JobRecord.id) : List JobRecord :=
  jobs.rows.insertionSort fun first second => second.submittedAt ≤ first.submittedAt

theorem mem_listJobs {jobs : Table JobRecord.id} {record : JobRecord} :
    record ∈ listJobs jobs ↔ record ∈ jobs.rows :=
  (perm_insertionSort _ _).mem_iff

theorem mem_listJobs_recordJob {job record : JobRecord} {jobs : Table JobRecord.id} :
    record ∈ listJobs (recordJob job jobs) ↔
      record = job ∨ record ∈ jobs.rows ∧ record.id ≠ job.id := by
  rw [mem_listJobs]
  exact mem_insert

theorem ids_nodup (jobs : Table JobRecord.id) : ((listJobs jobs).map JobRecord.id).Nodup :=
  ((perm_insertionSort _ _).map _).nodup_iff.mpr jobs.nodup

end InMemoryJobs

def inMemoryJobs : JobStore where
  State := Table JobRecord.id
  empty := .empty
  recordJob := InMemoryJobs.recordJob
  listJobs := InMemoryJobs.listJobs

structure JobColumns where
  id : String
  cluster : String
  submitter : String
  status : String
  durationSecs : Option ℤ
  submittedAt : ℤ

def rowToJob (row : JobColumns) : JobRecord where
  id := row.id
  cluster := row.cluster
  submitter := row.submitter
  status := row.status
  durationSecs := row.durationSecs.map (asUnsigned 64)
  submittedAt := asUnsigned 64 row.submittedAt

namespace SqlJobs

variable (job : JobRecord)

def insertedRow : JobColumns where
  id := job.id
  cluster := job.cluster
  submitter := job.submitter
  status := job.status
  durationSecs := job.durationSecs.map asI64
  submittedAt := asI64 job.submittedAt

variable (row : JobColumns)

def updatedRow : JobColumns :=
  { row with status := job.status, durationSecs := job.durationSecs.map asI64 }

variable (rows : Table JobColumns.id)

def recordJob : Table JobColumns.id :=
  rows.insertOrUpdate (insertedRow job) (updatedRow job)

def listJobs : List JobRecord :=
  (rows.rows.insertionSort fun first second => second.submittedAt ≤ first.submittedAt).map rowToJob

theorem mem_listJobs {rows : Table JobColumns.id} {record : JobRecord} :
    record ∈ listJobs rows ↔ ∃ row ∈ rows.rows, rowToJob row = record := by
  simp [listJobs, mem_map, mem_insertionSort]

theorem recordJob_cases :
    ((∀ row ∈ rows.rows, row.id ≠ job.id) ∧ recordJob job rows = rows.insert (insertedRow job)) ∨
      ∃ old ∈ rows.rows, old.id = job.id ∧
        recordJob job rows = rows.insert (updatedRow job old) := by
  unfold recordJob insertOrUpdate
  cases found : rows.find? (insertedRow job).id with
  | none =>
    rw [find?_eq_none_iff] at found
    exact .inl ⟨found, rfl⟩
  | some old => exact .inr ⟨old, mem_of_find? found, key_of_find? found, rfl⟩

theorem mem_listJobs_of_ne {job record : JobRecord} {rows : Table JobColumns.id} {row : JobColumns}
    (sameId : row.id = job.id) (differs : record.id ≠ job.id) :
    record ∈ listJobs (rows.insert row) ↔ record ∈ listJobs rows := by
  rw [mem_listJobs, mem_listJobs]
  constructor
  · rintro ⟨other, member, rfl⟩
    rcases mem_insert.mp member with rfl | ⟨kept, _⟩
    · exact absurd sameId differs
    · exact ⟨other, kept, rfl⟩
  · rintro ⟨other, member, rfl⟩
    refine ⟨other, mem_insert.mpr (.inr ⟨member, ?_⟩), rfl⟩
    rw [sameId]
    exact differs

theorem mem_listJobs_insert : rowToJob row ∈ listJobs (rows.insert row) :=
  mem_listJobs.mpr ⟨row, mem_insert.mpr (.inl rfl), rfl⟩

theorem rowToJob_insertedRow {job : JobRecord} (noDuration : job.durationSecs = none)
    (small : job.submittedAt < 2 ^ 64) : rowToJob (insertedRow job) = job := by
  rcases job with ⟨id, cluster, submitter, status, duration, submittedAt⟩
  simp_all [rowToJob, insertedRow, asUnsigned_asI64]

theorem ids_nodup : ((listJobs rows).map JobRecord.id).Nodup := by
  simp [listJobs]
  exact ((perm_insertionSort _ _).map _).nodup_iff.mpr rows.nodup

end SqlJobs

def sqlJobs : JobStore where
  State := Table JobColumns.id
  empty := .empty
  recordJob := SqlJobs.recordJob
  listJobs := SqlJobs.listJobs

def sqliteJobs : JobStore := sqlJobs

def postgresJobs : JobStore := sqlJobs

inductive JobBackend where
  | inMemory
  | sqlite
  | postgres

def JobBackend.store : JobBackend → JobStore
  | .inMemory => inMemoryJobs
  | .sqlite => sqliteJobs
  | .postgres => postgresJobs

structure SameSubmission (first second : JobRecord) : Prop where
  id : first.id = second.id
  cluster : first.cluster = second.cluster
  submitter : first.submitter = second.submitter
  submittedAt : first.submittedAt = second.submittedAt

namespace SameSubmission

theorem refl (job : JobRecord) : SameSubmission job job :=
  ⟨rfl, rfl, rfl, rfl⟩

theorem trans {first second third : JobRecord} (same : SameSubmission first second)
    (same' : SameSubmission second third) : SameSubmission first third :=
  ⟨same.id.trans same'.id, same.cluster.trans same'.cluster, same.submitter.trans same'.submitter,
    same.submittedAt.trans same'.submittedAt⟩

end SameSubmission

/-- What recording a job does to the records, as far as the stores agree on it. -/
structure JobStore.Keyed (store : JobStore) : Prop where
  unrecorded : store.listJobs store.empty = []
  distinct : ∀ state, ((store.listJobs state).map JobRecord.id).Nodup
  others : ∀ {job state record}, record.id ≠ job.id →
    (record ∈ store.listJobs (store.recordJob job state) ↔ record ∈ store.listJobs state)
  inserts : ∀ {job state}, (∀ record ∈ store.listJobs state, record.id ≠ job.id) →
    job.durationSecs = none → job.submittedAt < 2 ^ 64 →
    job ∈ store.listJobs (store.recordJob job state)
  updates : ∀ {job state old}, old ∈ store.listJobs state → SameSubmission job old →
    ∃ new ∈ store.listJobs (store.recordJob job state), SameSubmission new old

theorem JobStore.Keyed.eq_of_id_eq {store : JobStore} (keyed : store.Keyed) {state : store.State}
    {first second : JobRecord} (firstMem : first ∈ store.listJobs state)
    (secondMem : second ∈ store.listJobs state) (sameId : first.id = second.id) : first = second :=
  inj_on_of_nodup_map (keyed.distinct state) firstMem secondMem sameId

theorem inMemoryJobs_keyed : inMemoryJobs.Keyed where
  unrecorded := rfl
  distinct := InMemoryJobs.ids_nodup
  others {job jobs record} differs := by
    have isOther : record ≠ job := fun same => differs (congrArg JobRecord.id same)
    refine InMemoryJobs.mem_listJobs_recordJob.trans (Iff.trans ?_ InMemoryJobs.mem_listJobs.symm)
    simp [isOther, differs]
  inserts _ _ _ := InMemoryJobs.mem_listJobs_recordJob.mpr (.inl rfl)
  updates {job _ _} _ same := ⟨job, InMemoryJobs.mem_listJobs_recordJob.mpr (.inl rfl), same⟩

theorem sqlJobs_keyed : sqlJobs.Keyed where
  unrecorded := rfl
  distinct := SqlJobs.ids_nodup
  others {job rows record} differs := by
    change record ∈ SqlJobs.listJobs (SqlJobs.recordJob job rows) ↔ record ∈ SqlJobs.listJobs rows
    rcases SqlJobs.recordJob_cases job rows with ⟨_, recorded⟩ | ⟨old, _, sameId, recorded⟩
    · rw [recorded]
      exact SqlJobs.mem_listJobs_of_ne rfl differs
    · rw [recorded]
      exact SqlJobs.mem_listJobs_of_ne sameId differs
  inserts {job rows} absent noDuration small := by
    change job ∈ SqlJobs.listJobs (SqlJobs.recordJob job rows)
    rcases SqlJobs.recordJob_cases job rows with ⟨_, recorded⟩ | ⟨old, member, sameId, _⟩
    · rw [recorded]
      have inserted := SqlJobs.mem_listJobs_insert (SqlJobs.insertedRow job) rows
      rwa [SqlJobs.rowToJob_insertedRow noDuration small] at inserted
    · exact absurd sameId (absent (rowToJob old) (SqlJobs.mem_listJobs.mpr ⟨old, member, rfl⟩))
  updates {job rows old} listed same := by
    change ∃ new ∈ SqlJobs.listJobs (SqlJobs.recordJob job rows), _
    rcases SqlJobs.mem_listJobs.mp listed with ⟨row, member, rfl⟩
    rcases SqlJobs.recordJob_cases job rows with ⟨absent, _⟩ | ⟨other, otherMem, sameId, recorded⟩
    · exact absurd same.id.symm (absent row member)
    · have isRow := eq_of_mem_of_key_eq otherMem member (sameId.trans same.id)
      subst isRow
      rw [recorded]
      exact ⟨_, SqlJobs.mem_listJobs_insert _ rows, rfl, rfl, rfl, rfl⟩

theorem JobBackend.store_keyed (backend : JobBackend) : backend.store.Keyed := by
  cases backend with
  | inMemory => exact inMemoryJobs_keyed
  | sqlite => exact sqlJobs_keyed
  | postgres => exact sqlJobs_keyed

end Mobula
