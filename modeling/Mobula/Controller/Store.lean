import Mobula.Policy.Admission
import Mobula.Provision.Manifest

/-!
# The in-memory store

Every map of the store is a keyed table; an operation is a function of the table it locks and of
the clock reading it takes. Operations that cannot fail return plain values here; the call
interface wraps them in the store's result type.
-/

namespace Mobula

open Foundation Table

structure StoreError where
  backend : String
  deriving DecidableEq, Repr

/-- What the users of a cluster have asked for. -/
inductive DesiredState where
  | running
  | suspended
  | terminated
  deriving DecidableEq, Repr

def DesiredState.asStr : DesiredState → String
  | .running => "running"
  | .suspended => "suspended"
  | .terminated => "terminated"

/-- A cluster row: the desired specification, its generation and the last observation. -/
structure StoredCluster where
  id : ClusterId
  spec : ClusterSpec
  generation : ℕ
  desired : DesiredState
  observedState : Option ClusterState
  observedGeneration : ℕ
  condition : Option DriftCondition
  failureCount : ℕ
  nextAttemptAt : ℕ
  createdAt : ℕ
  terminatedAt : Option ℕ
  deriving DecidableEq, Repr

/-- The key under which a generation of a cluster is actuated. -/
def intentKeyOf (id : ClusterId) (generation : ℕ) : String :=
  id ++ "/" ++ toString generation

def StoredCluster.intentKey (row : StoredCluster) : String :=
  intentKeyOf row.id row.generation

def groupChanged (first second : WorkerGroup) : Bool :=
  first.name != second.name || first.cpu != second.cpu || first.memory != second.memory ||
    first.gpu != second.gpu || first.minReplicas != second.minReplicas ||
    first.maxReplicas != second.maxReplicas || first.replicas != second.replicas

def specChanged (first second : ClusterSpec) : Bool :=
  first.name != second.name || first.project != second.project ||
    first.rayVersion != second.rayVersion || first.image != second.image ||
    first.headCpu != second.headCpu || first.headMemory != second.headMemory ||
    first.ttlSeconds != second.ttlSeconds || first.idleTimeoutSecs != second.idleTimeoutSecs ||
    first.workerGroups.length != second.workerGroups.length ||
    (first.workerGroups.zip second.workerGroups).any fun pair => groupChanged pair.1 pair.2

def WorkerGroup.toJson (group : WorkerGroup) : Json :=
  .obj
    [("name", .str group.name), ("cpu", .str group.cpu), ("memory", .str group.memory),
      ("gpu", .option .str group.gpu), ("min_replicas", .nat group.minReplicas),
      ("max_replicas", .nat group.maxReplicas), ("replicas", .nat group.replicas)]

def ClusterSpec.toJson (spec : ClusterSpec) : Json :=
  .obj
    [("name", .str spec.name), ("project", .str spec.project), ("engine", .str spec.engine.asStr),
      ("ray_version", .str spec.rayVersion), ("image", .str spec.image),
      ("head_cpu", .str spec.headCpu), ("head_memory", .str spec.headMemory),
      ("worker_groups", .arr (spec.workerGroups.map WorkerGroup.toJson)),
      ("ttl_seconds", .option .nat spec.ttlSeconds),
      ("idle_timeout_secs", .option .nat spec.idleTimeoutSecs),
      ("owner", .option .str spec.owner)]

/-- The fingerprint under which an actuation is opened in the outbox. -/
def paramsFingerprint (spec : ClusterSpec) : String :=
  spec.toJson.compress

inductive IntentStatus where
  | pending
  | applied
  deriving DecidableEq, Repr

structure IntentRecord where
  key : String
  paramsFingerprint : String
  status : IntentStatus
  responseJson : Option String
  createdAt : ℕ
  completedAt : Option ℕ
  deriving DecidableEq, Repr

inductive IntentOutcome where
  | proceed (replay : Bool)
  | paramMismatch
  deriving DecidableEq, Repr

structure StoredPool where
  name : String
  spec : PoolSpec
  generation : ℕ
  observedJson : Option String
  observedAt : Option ℕ
  createdAt : ℕ

/-- What a pool row asks for, apart from its allocations. -/
def StoredPool.wanted (pool : StoredPool) : PoolSpec × ℕ :=
  (pool.spec, pool.generation)

inductive UsageSource where
  | kueueLedger
  | observedSpec
  deriving DecidableEq, Repr

/-- One reading of the usage of a resource by a project in a pool. -/
structure UsageSample where
  ts : ℕ
  project : String
  pool : String
  resource : String
  quantity : ℚ
  source : UsageSource
  deriving DecidableEq, Repr

structure RoleAssignment where
  principal : String
  role : String
  scope : String
  createdAt : ℕ
  deriving DecidableEq, Repr

abbrev ClusterTable := Table StoredCluster.id

abbrev IntentTable := Table IntentRecord.key

namespace ClusterTable

variable (existing : Option StoredCluster) (id : ClusterId) (spec : ClusterSpec)

def nextGeneration : ℕ :=
  match existing with
  | none => 1
  | some row => if specChanged row.spec spec then row.generation + 1 else row.generation

def upsertedRow (now : ℕ) : StoredCluster where
  id := id
  spec := spec
  generation := nextGeneration existing spec
  desired := (existing.map (·.desired)).getD .running
  observedState := existing.bind (·.observedState)
  observedGeneration := (existing.map (·.observedGeneration)).getD 0
  condition := existing.bind (·.condition)
  failureCount := (existing.map (·.failureCount)).getD 0
  nextAttemptAt := (existing.map (·.nextAttemptAt)).getD 0
  createdAt := (existing.map (·.createdAt)).getD now
  terminatedAt := existing.bind (·.terminatedAt)

def upsertDesired (rows : ClusterTable) (id : ClusterId) (spec : ClusterSpec) (now : ℕ) :
    ClusterTable :=
  rows.insert (upsertedRow (rows.find? id) id spec now)

/-- The row after a change of desired state; the first termination stamps the time. -/
def withDesired (desired : DesiredState) (now : ℕ) (row : StoredCluster) : StoredCluster :=
  { row with
    desired := desired
    terminatedAt := if desired = .terminated then some (row.terminatedAt.getD now) else none }

def setDesired (rows : ClusterTable) (id : ClusterId) (desired : DesiredState) (now : ℕ) :
    ClusterTable :=
  rows.modify id (withDesired desired now)

def withObservation (observed : Option ClusterState) (generation : ℕ) (row : StoredCluster) :
    StoredCluster :=
  { row with
    observedState := observed
    observedGeneration := max row.observedGeneration generation }

def recordObservation (rows : ClusterTable) (id : ClusterId) (observed : Option ClusterState)
    (generation : ℕ) : ClusterTable :=
  rows.modify id (withObservation observed generation)

def setCondition (rows : ClusterTable) (id : ClusterId) (condition : Option DriftCondition) :
    ClusterTable :=
  rows.modify id fun row => { row with condition := condition }

def recordAttempt (rows : ClusterTable) (id : ClusterId) (failureCount nextAttemptAt : ℕ) :
    ClusterTable :=
  rows.modify id fun row =>
    { row with failureCount := failureCount, nextAttemptAt := nextAttemptAt }

@[simp]
theorem upsertedRow_id (now : ℕ) : (upsertedRow existing id spec now).id = id := rfl

@[simp]
theorem upsertedRow_spec (now : ℕ) : (upsertedRow existing id spec now).spec = spec := rfl

variable (rows : ClusterTable)

include rows

theorem find?_upsertDesired (id wanted : ClusterId) (spec : ClusterSpec) (now : ℕ) :
    (upsertDesired rows id spec now).find? wanted =
      if wanted = id then some (upsertedRow (rows.find? id) id spec now)
      else rows.find? wanted :=
  find?_insert rows (upsertedRow (rows.find? id) id spec now) wanted

theorem find?_setDesired (id wanted : ClusterId) (desired : DesiredState) (now : ℕ) :
    (setDesired rows id desired now).find? wanted =
      if wanted = id then (rows.find? wanted).map (withDesired desired now)
      else rows.find? wanted :=
  find?_modify rows id wanted fun _ => rfl

theorem find?_recordObservation (id wanted : ClusterId) (observed : Option ClusterState)
    (generation : ℕ) :
    (recordObservation rows id observed generation).find? wanted =
      if wanted = id then (rows.find? wanted).map (withObservation observed generation)
      else rows.find? wanted :=
  find?_modify rows id wanted fun _ => rfl

theorem find?_setCondition (id wanted : ClusterId) (condition : Option DriftCondition) :
    (setCondition rows id condition).find? wanted =
      if wanted = id then (rows.find? wanted).map fun row => { row with condition := condition }
      else rows.find? wanted :=
  find?_modify rows id wanted fun _ => rfl

theorem find?_recordAttempt (id wanted : ClusterId) (failureCount nextAttemptAt : ℕ) :
    (recordAttempt rows id failureCount nextAttemptAt).find? wanted =
      if wanted = id then (rows.find? wanted).map fun row =>
        { row with failureCount := failureCount, nextAttemptAt := nextAttemptAt }
      else rows.find? wanted :=
  find?_modify rows id wanted fun _ => rfl

end ClusterTable

namespace IntentTable

/-- Open an intent: a fresh key is stored as pending, a known one must agree on its parameters. -/
def beginIntent (intents : IntentTable) (key fingerprint : String) (now : ℕ) :
    IntentOutcome × IntentTable :=
  match intents.find? key with
  | some existing =>
    if existing.paramsFingerprint ≠ fingerprint then (.paramMismatch, intents)
    else (.proceed true, intents)
  | none => (.proceed false, intents.insert ⟨key, fingerprint, .pending, none, now, none⟩)

def completeIntent (intents : IntentTable) (key response : String) (now : ℕ) : IntentTable :=
  intents.modify key fun record =>
    { record with status := .applied, responseJson := some response, completedAt := some now }

def isReapable (appliedBefore : ℕ) (record : IntentRecord) : Bool :=
  record.status = .applied && record.completedAt.any (· < appliedBefore)

def reapIntents (intents : IntentTable) (appliedBefore : ℕ) : IntentTable :=
  intents.retain fun record => !isReapable appliedBefore record

def fingerprintAt (intents : IntentTable) (key : String) : Option String :=
  (intents.find? key).map (·.paramsFingerprint)

theorem fingerprintAt_beginIntent (intents : IntentTable) (key wanted fingerprint : String)
    (now : ℕ) : fingerprintAt (beginIntent intents key fingerprint now).2 wanted =
      if wanted = key ∧ intents.find? key = none then some fingerprint
      else fingerprintAt intents wanted := by
  unfold beginIntent fingerprintAt
  cases found : intents.find? key with
  | some existing => by_cases same : existing.paramsFingerprint = fingerprint <;> simp [same]
  | none =>
    simp [find?_insert]
    by_cases same : wanted = key <;> simp [same]

theorem fingerprintAt_completeIntent (intents : IntentTable) (key wanted response : String)
    (now : ℕ) : fingerprintAt (completeIntent intents key response now) wanted =
      fingerprintAt intents wanted := by
  have lookup := find?_modify intents key wanted (fun _ => rfl :
    ∀ record : IntentRecord, ({ record with
      status := .applied, responseJson := some response, completedAt := some now } :
        IntentRecord).key = record.key)
  unfold completeIntent fingerprintAt
  rw [lookup]
  by_cases same : wanted = key <;> simp [same, Function.comp_def]

variable {intents : IntentTable} {key wanted fingerprint : String} {now appliedBefore : ℕ}
  {record : IntentRecord}

theorem applied_of_beginIntent
    (found : (beginIntent intents wanted fingerprint now).2.find? key = some record)
    (applied : record.status = .applied) : intents.find? key = some record := by
  unfold beginIntent at found
  cases existing : intents.find? wanted with
  | some other => by_cases same : other.paramsFingerprint = fingerprint <;> simp_all
  | none =>
    simp only [existing, find?_insert] at found
    split at found
    · simp at found
      rw [← found] at applied
      cases applied
    · exact found

theorem find?_completeIntent {response : String} (other : key ≠ wanted) :
    (completeIntent intents wanted response now).find? key = intents.find? key := by
  rw [completeIntent, find?_modify, if_neg other]
  intro record
  rfl

theorem find?_of_reapIntents (found : (reapIntents intents appliedBefore).find? key = some record) :
    intents.find? key = some record := by
  rw [find?_eq_some_iff] at found ⊢
  exact ⟨(List.mem_filter.mp found.1).1, found.2⟩

theorem fingerprintAt_reapIntents
    (kept : fingerprintAt (reapIntents intents appliedBefore) key = some fingerprint) :
    fingerprintAt intents key = some fingerprint := by
  unfold fingerprintAt at kept ⊢
  simp at kept ⊢
  rcases kept with ⟨record, found, recordEq⟩
  exact ⟨record, find?_of_reapIntents found, recordEq⟩

end IntentTable

/-- Sequence number, event and hash. -/
abbrev ChainedAuditRow := ℕ × AuditEvent × String

structure Store where
  clusters : ClusterTable
  intents : IntentTable
  quarantined : Bool
  jobs : Table JobRecord.id
  pools : Table StoredPool.name
  allocations : Table fun alloc : AllocationSpec => (alloc.pool, alloc.project)
  usage : List UsageSample
  policy : Option StoredPolicy
  audit : List ChainedAuditRow
  auditSeq : ℕ
  assignments : Table fun held : RoleAssignment => (held.principal, held.role, held.scope)

/-- What administrators change: the pools, their allocations and the quarantine flag. -/
structure Catalog where
  pools : Table StoredPool.name
  allocations : Table fun alloc : AllocationSpec => (alloc.pool, alloc.project)
  quarantined : Bool

namespace Catalog

def nextGeneration (existing : Option StoredPool) (spec : PoolSpec) : ℕ :=
  match existing with
  | none => 1
  | some pool => if pool.spec ≠ spec then pool.generation + 1 else pool.generation

def upsertedPool (existing : Option StoredPool) (name : String) (spec : PoolSpec) (now : ℕ) :
    StoredPool where
  name := name
  spec := spec
  generation := nextGeneration existing spec
  observedJson := existing.bind (·.observedJson)
  observedAt := existing.bind (·.observedAt)
  createdAt := (existing.map (·.createdAt)).getD now

end Catalog

namespace Store

variable (store : Store)

def catalog : Catalog :=
  ⟨store.pools, store.allocations, store.quarantined⟩

def setCatalog (catalog : Catalog) : Store :=
  { store with
    pools := catalog.pools
    allocations := catalog.allocations
    quarantined := catalog.quarantined }

def empty : Store :=
  ⟨.empty, .empty, false, .empty, .empty, .empty, [], none, [], 0, .empty⟩

variable (pool : String)

def allocationsOf : List AllocationSpec :=
  store.allocations.rows.filter (·.pool = pool)

theorem nodup_allocationsOf : ((store.allocationsOf pool).map (·.project)).Nodup := by
  refine List.Nodup.map_on ?_ (store.allocations.nodup.of_map.filter _)
  intro first firstMem second secondMem same
  simp [allocationsOf] at firstMem secondMem
  exact eq_of_mem_of_key_eq firstMem.1 secondMem.1 (by rw [firstMem.2, secondMem.2, same])

def listJobs : List JobRecord :=
  store.jobs.rows.insertionSort fun first second => second.submittedAt ≤ first.submittedAt

def usageSamples (project pool : Option String) (start stop : ℕ) : List UsageSample :=
  let selected := store.usage.filter fun sample =>
    start ≤ sample.ts ∧ sample.ts ≤ stop ∧ project.all (sample.project = ·) ∧
      pool.all (sample.pool = ·)
  selected.insertionSort fun first second => first.ts ≤ second.ts

/-- The listing order of role assignments: principal, then scope, then role. -/
def assignmentLe (first second : RoleAssignment) : Prop :=
  first.principal < second.principal ∨ first.principal = second.principal ∧
    (first.scope < second.scope ∨ first.scope = second.scope ∧ first.role ≤ second.role)

instance : DecidableRel assignmentLe := fun first second =>
  inferInstanceAs (Decidable (first.principal < second.principal ∨
    first.principal = second.principal ∧ (first.scope < second.scope ∨
      first.scope = second.scope ∧ first.role ≤ second.role)))

def listRoleAssignments (principal : Option String) : List RoleAssignment :=
  let held := store.assignments.rows.filter fun assignment =>
    principal.all (assignment.principal = ·)
  held.insertionSort assignmentLe

/-- Store an assignment; one that is there already keeps its time. -/
def upsertRoleAssignment (principal role scope : String) (now : ℕ) : Store :=
  let held := store.assignments.find? (principal, role, scope)
  { store with
    assignments :=
      store.assignments.insert ⟨principal, role, scope, (held.map (·.createdAt)).getD now⟩ }

def deleteRoleAssignment (principal role scope : String) : Except StoreError Unit × Store :=
  match store.assignments.find? (principal, role, scope) with
  | none => (.error ⟨"no such assignment " ++ principal ++ "/" ++ role ++ "/" ++ scope⟩, store)
  | some _ =>
    (.ok (), { store with assignments := store.assignments.erase (principal, role, scope) })

def recordPoolObservation (name observed : String) (now : ℕ) : Store :=
  { store with
    pools := store.pools.modify name fun pool =>
      { pool with observedJson := some observed, observedAt := some now } }

def seedPolicy (policy : StoredPolicy) : Bool × Store :=
  match store.policy with
  | some _ => (false, store)
  | none => (true, { store with policy := some policy })

end Store

end Mobula
