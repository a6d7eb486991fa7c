import Mobula.Controller.SqlAudit
import Mobula.Foundation.Refinement
import Mobula.Foundation.Sql

/-!
# The SQLite store

Every operation is what its statements do to the tables; one that runs several of them in a
transaction leaves the tables alone when it fails. Specifications and enumerations are kept as
JSON texts, unsigned numbers are cast to signed ones.
-/

namespace Mobula

open Foundation

variable (value : Json) (text : String)

def Engine.parse : Option Engine :=
  if text = "ray" then some .ray else if text = "dask" then some .dask else none

def ClusterState.parse : Option ClusterState :=
  [.pending, .provisioning, .running, .degraded, .updating, .suspending, .suspended, .terminating,
    .terminated].find? fun state : ClusterState => state.asStr = text

def DriftCondition.parse : Option DriftCondition :=
  [.specDrift, .degraded].find? fun condition : DriftCondition => condition.asStr = text

def Engine.fromJson : Option Engine :=
  value.decodeVariant.bind Engine.parse

def ClusterState.fromJson : Option ClusterState :=
  value.decodeVariant.bind ClusterState.parse

def DriftCondition.fromJson : Option DriftCondition :=
  value.decodeVariant.bind DriftCondition.parse

def WorkerGroup.fromJson : Option WorkerGroup := do
  let slot ← Json.slots
    ["name", "cpu", "memory", "gpu", "min_replicas", "max_replicas", "replicas"] value
  let name ← (slot "name").required Json.asStr?
  let cpu ← (slot "cpu").required Json.asStr?
  let memory ← (slot "memory").required Json.asStr?
  let gpu ← (slot "gpu").optional Json.asStr?
  let minReplicas ← (slot "min_replicas").required (Json.decodeBelow (2 ^ 32))
  let maxReplicas ← (slot "max_replicas").required (Json.decodeBelow (2 ^ 32))
  let replicas ← (slot "replicas").required (Json.decodeBelow (2 ^ 32))
  return { name, cpu, memory, gpu, minReplicas, maxReplicas, replicas }

def ClusterSpec.fromJson (value : Json) : Option ClusterSpec := do
  let slot ← Json.slots
    ["name", "project", "engine", "ray_version", "image", "head_cpu", "head_memory",
      "worker_groups", "ttl_seconds", "idle_timeout_secs", "owner"] value
  let name ← (slot "name").required Json.asStr?
  let project ← (slot "project").required Json.asStr?
  let engine ← (slot "engine").defaulted .ray Engine.fromJson
  let rayVersion ← (slot "ray_version").required Json.asStr?
  let image ← (slot "image").required Json.asStr?
  let headCpu ← (slot "head_cpu").required Json.asStr?
  let headMemory ← (slot "head_memory").required Json.asStr?
  let workerGroups ← (slot "worker_groups").required (Json.decodeList WorkerGroup.fromJson)
  let ttlSeconds ← (slot "ttl_seconds").optional (Json.decodeBelow (2 ^ 64))
  let idleTimeoutSecs ←
    (slot "idle_timeout_secs").defaulted none (Json.decodeOption (Json.decodeBelow (2 ^ 64)))
  let owner ← (slot "owner").defaulted none (Json.decodeOption Json.asStr?)
  return { name, project, engine, rayVersion, image, headCpu, headMemory, workerGroups,
           ttlSeconds, idleTimeoutSecs, owner }

/-- A map in the order of its keys. -/
def mapJson (entries : List (String × String)) : Json :=
  .obj (entries.map fun entry => (entry.1, .str entry.2))

def AllocationSpec.serialized (allocation : AllocationSpec) : Json :=
  .obj
    [("pool", .str allocation.pool), ("project", .str allocation.project),
      ("namespace", .str allocation.namespaceName), ("nominal", mapJson allocation.nominal),
      ("borrowing_limit", mapJson allocation.borrowingLimit),
      ("lending_limit", mapJson allocation.lendingLimit)]

def AllocationSpec.fromJson : Option AllocationSpec := do
  let slot ← Json.slots
    ["pool", "project", "namespace", "nominal", "borrowing_limit", "lending_limit"] value
  let pool ← (slot "pool").required Json.asStr?
  let project ← (slot "project").required Json.asStr?
  let namespaceName ← (slot "namespace").required Json.asStr?
  let nominal ← (slot "nominal").required (Json.decodeMap Json.asStr?)
  let borrowingLimit ← (slot "borrowing_limit").required (Json.decodeMap Json.asStr?)
  let lendingLimit ← (slot "lending_limit").required (Json.decodeMap Json.asStr?)
  return { pool, project, namespaceName, nominal, borrowingLimit, lendingLimit }

structure ClusterColumns where
  id : String
  specJson : String
  generation : ℤ
  desired : String
  observedState : Option String
  observedGeneration : ℤ
  condition : Option String
  failureCount : ℤ
  nextAttemptAt : ℤ
  createdAt : ℤ
  terminatedAt : Option ℤ

structure IntentColumns where
  intentKey : String
  paramsFingerprint : String
  status : String
  responseJson : Option String
  createdAt : ℤ
  completedAt : Option ℤ

structure ControlColumns where
  key : String
  value : String

structure AllocationColumns where
  pool : String
  project : String
  specJson : String

structure AssignmentColumns where
  principal : String
  role : String
  scope : String
  createdAt : ℤ

structure SqliteStore where
  clusters : Table ClusterColumns.id
  intents : Table IntentColumns.intentKey
  control : Table ControlColumns.key
  allocations : Table fun row : AllocationColumns => (row.pool, row.project)
  roleAssignments : Table fun row : AssignmentColumns => (row.principal, row.role, row.scope)

def SqliteStore.empty : SqliteStore :=
  ⟨.empty, .empty, .empty, .empty, .empty⟩

def desiredFromStr : StoreResult DesiredState :=
  if text = "running" then .ok .running
  else if text = "suspended" then .ok .suspended
  else if text = "terminated" then .ok .terminated
  else .error ⟨"bad desired state " ++ text.quote⟩

def intentStatusFromStr : IntentStatus :=
  if text = "pending" then .pending else .applied

def rowToCluster (row : ClusterColumns) : StoreResult StoredCluster := do
  let spec ← decodeColumn ClusterSpec.fromJson row.specJson
  let observedState ← decodeNullable ClusterState.fromJson row.observedState
  let condition ← decodeNullable DriftCondition.fromJson row.condition
  let desired ← desiredFromStr row.desired
  .ok
    { id := row.id
      spec
      generation := asUnsigned 64 row.generation
      desired
      observedState
      observedGeneration := asUnsigned 64 row.observedGeneration
      condition
      failureCount := asUnsigned 32 row.failureCount
      nextAttemptAt := asUnsigned 64 row.nextAttemptAt
      createdAt := asUnsigned 64 row.createdAt
      terminatedAt := row.terminatedAt.map (asUnsigned 64) }

def rowToIntent (row : IntentColumns) : IntentRecord where
  key := row.intentKey
  paramsFingerprint := row.paramsFingerprint
  status := intentStatusFromStr row.status
  responseJson := row.responseJson
  createdAt := asUnsigned 64 row.createdAt
  completedAt := row.completedAt.map (asUnsigned 64)

def rowToAssignment (row : AssignmentColumns) : RoleAssignment where
  principal := row.principal
  role := row.role
  scope := row.scope
  createdAt := asUnsigned 64 row.createdAt

def rowToAllocation (row : AllocationColumns) : StoreResult AllocationSpec :=
  decodeColumn AllocationSpec.fromJson row.specJson

/-- The operations that the two stores are compared on. -/
inductive StoreCall where
  | row (call : RowCall)
  | outbox (call : OutboxCall)
  | isQuarantined
  | setQuarantine (quarantined : Bool)
  | upsertAllocation (allocation : AllocationSpec)
  | listAllocations (pool : String)
  | deleteAllocation (pool project : String)
  | upsertRoleAssignment (principal role scope : String)
  | listRoleAssignments (principal : Option String)
  | deleteRoleAssignment (principal role scope : String)

@[reducible]
def StoreCall.Res : StoreCall → Type
  | .row call => call.Res
  | .outbox call => call.Res
  | .isQuarantined => StoreResult Bool
  | .setQuarantine _ => StoreResult Unit
  | .upsertAllocation _ => StoreResult Unit
  | .listAllocations _ => StoreResult (List AllocationSpec)
  | .deleteAllocation _ _ => StoreResult Unit
  | .upsertRoleAssignment _ _ _ => StoreResult Unit
  | .listRoleAssignments _ => StoreResult (List RoleAssignment)
  | .deleteRoleAssignment _ _ _ => StoreResult Unit

/-- Statements between `BEGIN IMMEDIATE` and `COMMIT`, or `ROLLBACK` when one of them fails. -/
def transaction {S α : Type} (body : S → StoreResult (α × S)) (tables : S) : StoreResult α × S :=
  match body tables with
  | .ok (value, changed) => (.ok value, changed)
  | .error failure => (.error failure, tables)

namespace SqliteStore

abbrev ClusterRows := Table ClusterColumns.id

variable (intents : IntentRows) (clusters : ClusterRows) (id : ClusterId)

def nextGeneration (spec : ClusterSpec) : StoreResult ℕ :=
  match clusters.find? id with
  | none => .ok 1
  | some row => do
      let current ← decodeColumn ClusterSpec.fromJson row.specJson
      if specChanged current spec then .ok (asUnsigned 64 row.generation + 1)
      else .ok (asUnsigned 64 row.generation)

def upsertDesired (spec : ClusterSpec) (now : ℕ) : ClusterRows → StoreResult ℕ × ClusterRows :=
  transaction fun clusters => do
    let generation ← nextGeneration clusters id spec
    let specJson := spec.toJson.compress
    let inserted : ClusterColumns :=
      { id, specJson, generation := asI64 generation, desired := "running", observedState := none,
        observedGeneration := 0, condition := none, failureCount := 0, nextAttemptAt := 0,
        createdAt := asI64 now, terminatedAt := none }
    .ok (generation, clusters.insertOrUpdate inserted fun row =>
      { row with specJson, generation := asI64 generation })

def get : StoreResult (Option StoredCluster) :=
  match clusters.find? id with
  | none => .ok none
  | some row => (rowToCluster row).map some

def setDesired (desired : DesiredState) (now : ℕ) : StoreResult Unit × ClusterRows :=
  let updated := clusters.update (fun row => row.id = id)
    (fun row =>
      { row with
        desired := desired.asStr
        terminatedAt :=
          if desired = .terminated then some (row.terminatedAt.getD (asI64 now)) else none })
    fun _ => rfl
  if clusters.affected (fun row => row.id = id) = 0 then
    (.error ⟨"no such cluster " ++ id⟩, updated)
  else (.ok (), updated)

def removeCluster : StoreResult Bool × ClusterRows :=
  (.ok (0 < clusters.affected fun row => row.id = id), clusters.retain fun row => row.id != id)

def recordObservation (observed : Option ClusterState) (observedGeneration : ℕ)
    : StoreResult Unit × ClusterRows :=
  (.ok (), clusters.update (fun row => row.id = id)
    (fun row =>
      { row with
        observedState := observed.map fun state => (Json.str state.asStr).compress
        observedGeneration := max row.observedGeneration (asI64 observedGeneration) })
    fun _ => rfl)

def setCondition (condition : Option DriftCondition) : StoreResult Unit × ClusterRows :=
  (.ok (), clusters.update (fun row => row.id = id)
    (fun row =>
      { row with condition := condition.map fun raised => (Json.str raised.asStr).compress })
    fun _ => rfl)

def recordAttempt (failureCount nextAttemptAt : ℕ) : StoreResult Unit × ClusterRows :=
  (.ok (), clusters.update (fun row => row.id = id)
    (fun row => { row with failureCount, nextAttemptAt := asI64 nextAttemptAt })
    fun _ => rfl)

def execRow (call : RowCall) (clusters : ClusterRows) (now : ℕ) : call.Res × ClusterRows :=
  match call with
  | .upsertDesired id spec => upsertDesired id spec now clusters
  | .get id => (get clusters id, clusters)
  | .list => (clusters.rows.mapM rowToCluster, clusters)
  | .setDesired id desired => setDesired clusters id desired now
  | .removeCluster id => removeCluster clusters id
  | .recordObservation id observed generation => recordObservation clusters id observed generation
  | .setCondition id condition => setCondition clusters id condition
  | .recordAttempt id failureCount nextAttemptAt =>
    recordAttempt clusters id failureCount nextAttemptAt

abbrev IntentRows := Table IntentColumns.intentKey

def beginIntent (key fingerprint : String) (now : ℕ) :
    IntentRows → StoreResult IntentOutcome × IntentRows :=
  transaction fun intents =>
    match (intents.find? key).map (·.paramsFingerprint) with
    | some stored =>
      if stored ≠ fingerprint then .ok (.paramMismatch, intents)
      else .ok (.proceed true, intents)
    | none =>
      .ok (.proceed false, intents.insert
        { intentKey := key, paramsFingerprint := fingerprint, status := "pending",
          responseJson := none, createdAt := asI64 now, completedAt := none })

def completeIntent (key response : String) (now : ℕ) : StoreResult Unit × IntentRows :=
  (.ok (), intents.update (fun row => row.intentKey = key)
    (fun row =>
      { row with
        status := "applied", responseJson := some response, completedAt := some (asI64 now) })
    fun _ => rfl)

def isReapable (appliedBefore : ℕ) (row : IntentColumns) : Bool :=
  row.status = "applied" && row.completedAt.any (· < asI64 appliedBefore)

def reapIntents (appliedBefore : ℕ) : StoreResult ℕ × IntentRows :=
  (.ok (intents.affected (isReapable appliedBefore)),
    intents.retain fun row => !isReapable appliedBefore row)

def execOutbox (call : OutboxCall) (intents : IntentRows) (now : ℕ) : call.Res × IntentRows :=
  match call with
  | .beginIntent key fingerprint => beginIntent key fingerprint now intents
  | .completeIntent key response => completeIntent intents key response now
  | .getIntent key => (.ok ((intents.find? key).map rowToIntent), intents)
  | .reapIntents appliedBefore => reapIntents intents appliedBefore

variable (store : SqliteStore)

def isQuarantined : Bool :=
  (store.control.find? "quarantine").map (·.value) = some "true"

def setQuarantine (quarantined : Bool) : SqliteStore :=
  let value := if quarantined then "true" else "false"
  { store with
    control := store.control.insertOrUpdate ⟨"quarantine", value⟩ fun row => { row with value } }

def upsertAllocation (allocation : AllocationSpec) : SqliteStore :=
  let specJson := allocation.serialized.compress
  { store with
    allocations := store.allocations.insertOrUpdate ⟨allocation.pool, allocation.project, specJson⟩
      fun row => { row with specJson } }

def listAllocations (pool : String) : StoreResult (List AllocationSpec) :=
  (store.allocations.retain fun row => row.pool = pool).rows.mapM rowToAllocation

def deleteAllocation (pool project : String) : StoreResult Unit × SqliteStore :=
  let deleted := store.allocations.retain fun row => !(row.pool = pool && row.project = project)
  if store.allocations.affected (fun row => row.pool = pool && row.project = project) = 0 then
    (.error ⟨"no such allocation " ++ pool ++ "/" ++ project⟩,
      { store with allocations := deleted })
  else (.ok (), { store with allocations := deleted })

def upsertRoleAssignment (principal role scope : String) (now : ℕ) : SqliteStore :=
  { store with
    roleAssignments := store.roleAssignments.insertOrIgnore ⟨principal, role, scope, asI64 now⟩ }

def listRoleAssignments (principal : Option String) : List RoleAssignment :=
  let selected := store.roleAssignments.retain fun row => principal.all (row.principal = ·)
  (selected.rows.map rowToAssignment).insertionSort Store.assignmentLe

def deleteRoleAssignment (principal role scope : String) : StoreResult Unit × SqliteStore :=
  let picked (row : AssignmentColumns) : Bool :=
    row.principal = principal && row.role = role && row.scope = scope
  let deleted := store.roleAssignments.retain fun row => !picked row
  if store.roleAssignments.affected picked = 0 then
    (.error ⟨"no such assignment " ++ principal ++ "/" ++ role ++ "/" ++ scope⟩,
      { store with roleAssignments := deleted })
  else (.ok (), { store with roleAssignments := deleted })

def exec (call : StoreCall) (now : ℕ) : call.Res × SqliteStore :=
  match call with
  | .row call =>
    let (answer, clusters) := execRow call store.clusters now
    (answer, { store with clusters })
  | .outbox call =>
    let (answer, intents) := execOutbox call store.intents now
    (answer, { store with intents })
  | .isQuarantined => (.ok store.isQuarantined, store)
  | .setQuarantine quarantined => (.ok (), store.setQuarantine quarantined)
  | .upsertAllocation allocation => (.ok (), store.upsertAllocation allocation)
  | .listAllocations pool => (store.listAllocations pool, store)
  | .deleteAllocation pool project => store.deleteAllocation pool project
  | .upsertRoleAssignment principal role scope =>
    (.ok (), store.upsertRoleAssignment principal role scope now)
  | .listRoleAssignments principal => (.ok (store.listRoleAssignments principal), store)
  | .deleteRoleAssignment principal role scope => store.deleteRoleAssignment principal role scope

end SqliteStore

def Store.exec (store : Store) (call : StoreCall) (now : ℕ) : call.Res × Store :=
  match call with
  | .row call =>
    let (answer, clusters) := execRow call store.clusters now
    (answer, { store with clusters })
  | .outbox call =>
    let (answer, intents) := execOutbox call store.intents now
    (answer, { store with intents })
  | .isQuarantined => (.ok store.quarantined, store)
  | .setQuarantine quarantined =>
    let (answer, catalog) := execAdmin (.setQuarantine quarantined) store.catalog now
    (answer, store.setCatalog catalog)
  | .upsertAllocation allocation =>
    let (answer, catalog) := execAdmin (.upsertAllocation allocation) store.catalog now
    (answer, store.setCatalog catalog)
  | .listAllocations pool => (.ok (store.allocationsOf pool), store)
  | .deleteAllocation pool project =>
    let (answer, catalog) := execAdmin (.deleteAllocation pool project) store.catalog now
    (answer, store.setCatalog catalog)
  | .upsertRoleAssignment principal role scope =>
    (.ok (), store.upsertRoleAssignment principal role scope now)
  | .listRoleAssignments principal => (.ok (store.listRoleAssignments principal), store)
  | .deleteRoleAssignment principal role scope => store.deleteRoleAssignment principal role scope

end Mobula
