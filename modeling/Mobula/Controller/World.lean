import Mobula.Controller.Store
import Mobula.Foundation.Interleaving

/-!
# Calls and the state they act on

Every handler and every loop of the control plane is a program over one interface of calls:
operations of the store, of the two provisioners, and of the process itself (its clock, its
admission locks, its token bucket). A call is atomic, as every store operation is under its
mutex, so that an interleaving of calls is an interleaving of programs.

The clock is the sequence of readings still to come. A call that may stamp a time takes the
next reading; a reading it does not need is dropped.
-/

namespace Mobula

open Foundation IntentTable Store ClusterTable

inductive ProvisionError where
  | notFound (id : ClusterId)
  | backend (message : String)
  deriving DecidableEq, Repr

structure ObservedCluster where
  id : ClusterId
  state : ClusterState
  observedGeneration : Option ℕ
  specFingerprint : Option String
  apiBaseUrl : Option String
  deriving DecidableEq, Repr

structure ApplyResponse where
  generation : ℕ
  apiBaseUrl : Option String
  deriving DecidableEq, Repr

def ApplyResponse.toJson (response : ApplyResponse) : Json :=
  .obj
    [("generation", .nat response.generation),
      ("api_base_url", .option .str response.apiBaseUrl)]

abbrev UsageTable := List (String × List (String × String))

def UsageTable.toJson (usage : UsageTable) : Json :=
  .obj (usage.map fun (name, amounts) =>
    (name, .obj (amounts.map fun (resource, quantity) => (resource, .str quantity))))

/-- The quota ledger of a pool: by flavor for the pool, and by local queue. -/
structure PoolObservation where
  admittedWorkloads : ℕ
  reservingWorkloads : ℕ
  pendingWorkloads : ℕ
  flavorsUsage : UsageTable
  queuesUsage : UsageTable
  deriving DecidableEq, Repr

def PoolObservation.toJson (observed : PoolObservation) : Json :=
  .obj
    [("admitted_workloads", .nat observed.admittedWorkloads),
      ("reserving_workloads", .nat observed.reservingWorkloads),
      ("pending_workloads", .nat observed.pendingWorkloads),
      ("flavors_usage", observed.flavorsUsage.toJson),
      ("queues_usage", observed.queuesUsage.toJson)]

/-- The outside world: two provisioners over a provider state, and the hash of the audit chain. -/
structure Platform (Provider : Type) where
  sha256 : String → String
  weightText : ℚ → Numeral
  apply : ClusterId → ClusterSpec → ℕ → String → Option QueueAssignment → Provider →
    Except ProvisionError ApplyResponse × Provider
  ensureNamespacePosture : Provider → Except ProvisionError Unit × Provider
  terminate : ClusterId → Provider → Except ProvisionError Unit × Provider
  reapNetworkPolicies : ClusterId → Provider → Except ProvisionError Unit × Provider
  suspend : ClusterId → Provider → Except ProvisionError Unit × Provider
  resume : ClusterId → Provider → Except ProvisionError Unit × Provider
  observe : ClusterId → Provider → Except ProvisionError ObservedCluster
  kueuePresent : Provider → Bool
  applyPool : PoolSpec → List AllocationSpec → Provider → Except ProvisionError Unit × Provider
  deletePool : String → Provider → Except ProvisionError Unit × Provider
  observePool : String → Provider → Except ProvisionError (Option PoolObservation)

inductive RowCall where
  | upsertDesired (id : ClusterId) (spec : ClusterSpec)
  | get (id : ClusterId)
  | list
  | setDesired (id : ClusterId) (desired : DesiredState)
  | removeCluster (id : ClusterId)
  | recordObservation (id : ClusterId) (observed : Option ClusterState) (generation : ℕ)
  | setCondition (id : ClusterId) (condition : Option DriftCondition)
  | recordAttempt (id : ClusterId) (failureCount nextAttemptAt : ℕ)

inductive OutboxCall where
  | beginIntent (key fingerprint : String)
  | completeIntent (key response : String)
  | getIntent (key : String)
  | reapIntents (appliedBefore : ℕ)

inductive ControlCall where
  | isQuarantined
  | listJobs
  | getPool (name : String)
  | listPools
  | recordPoolObservation (name observed : String)
  | listAllocations (pool : String)
  | recordUsageSamples (samples : List UsageSample)
  | usageSamples (project pool : Option String) (start stop : ℕ)
  | recordAudit (event : AuditEvent)
  | getPolicy
  | seedPolicy (policy : StoredPolicy)
  | listRoleAssignments (principal : Option String)

inductive AdminCall where
  | upsertPool (name : String) (spec : PoolSpec)
  | deletePool (name : String)
  | upsertAllocation (alloc : AllocationSpec)
  | deleteAllocation (pool project : String)
  | setQuarantine (quarantined : Bool)

inductive BackendCall where
  | apply (id : ClusterId) (spec : ClusterSpec) (generation : ℕ) (key : String)
      (queue : Option QueueAssignment)
  | ensureNamespacePosture
  | terminate (id : ClusterId)
  | reapNetworkPolicies (id : ClusterId)
  | suspend (id : ClusterId)
  | resume (id : ClusterId)
  | observe (id : ClusterId)

inductive PoolCall where
  | kueuePresent
  | applyPool (spec : PoolSpec) (allocations : List AllocationSpec)
  | deletePool (name : String)
  | observePool (name : String)

inductive ProcessCall where
  | nowUnix
  | lockAdmit (project : String)
  | unlockAdmit (project : String)
  | takeToken (now : ℕ)
  | convergedInsert (name : String)
  | convergedRemove (name : String)
  | convergedDifference (current : List String)

/-- What a program asks of the store, the provisioner and its process. -/
inductive Call where
  | row (call : RowCall)
  | outbox (call : OutboxCall)
  | control (call : ControlCall)
  | admin (call : AdminCall)
  | backend (call : BackendCall)
  | pool (call : PoolCall)
  | process (call : ProcessCall)

abbrev StoreResult (α : Type) := Except StoreError α

abbrev ProvisionResult (α : Type) := Except ProvisionError α

@[reducible]
def RowCall.Res : RowCall → Type
  | .upsertDesired _ _ => StoreResult ℕ
  | .get _ => StoreResult (Option StoredCluster)
  | .list => StoreResult (List StoredCluster)
  | .setDesired _ _ => StoreResult Unit
  | .removeCluster _ => StoreResult Bool
  | .recordObservation _ _ _ => StoreResult Unit
  | .setCondition _ _ => StoreResult Unit
  | .recordAttempt _ _ _ => StoreResult Unit

@[reducible]
def OutboxCall.Res : OutboxCall → Type
  | .beginIntent _ _ => StoreResult IntentOutcome
  | .completeIntent _ _ => StoreResult Unit
  | .getIntent _ => StoreResult (Option IntentRecord)
  | .reapIntents _ => StoreResult ℕ

@[reducible]
def ControlCall.Res : ControlCall → Type
  | .isQuarantined => StoreResult Bool
  | .listJobs => StoreResult (List JobRecord)
  | .getPool _ => StoreResult (Option StoredPool)
  | .listPools => StoreResult (List StoredPool)
  | .recordPoolObservation _ _ => StoreResult Unit
  | .listAllocations _ => StoreResult (List AllocationSpec)
  | .recordUsageSamples _ => StoreResult Unit
  | .usageSamples _ _ _ _ => StoreResult (List UsageSample)
  | .recordAudit _ => StoreResult ℕ
  | .getPolicy => StoreResult (Option StoredPolicy)
  | .seedPolicy _ => StoreResult Bool
  | .listRoleAssignments _ => StoreResult (List RoleAssignment)

@[reducible]
def AdminCall.Res : AdminCall → Type
  | .upsertPool _ _ => StoreResult ℕ
  | .deletePool _ => StoreResult Unit
  | .upsertAllocation _ => StoreResult Unit
  | .deleteAllocation _ _ => StoreResult Unit
  | .setQuarantine _ => StoreResult Unit

@[reducible]
def BackendCall.Res : BackendCall → Type
  | .apply _ _ _ _ _ => ProvisionResult ApplyResponse
  | .ensureNamespacePosture => ProvisionResult Unit
  | .terminate _ => ProvisionResult Unit
  | .reapNetworkPolicies _ => ProvisionResult Unit
  | .suspend _ => ProvisionResult Unit
  | .resume _ => ProvisionResult Unit
  | .observe _ => ProvisionResult ObservedCluster

@[reducible]
def PoolCall.Res : PoolCall → Type
  | .kueuePresent => Bool
  | .applyPool _ _ => ProvisionResult Unit
  | .deletePool _ => ProvisionResult Unit
  | .observePool _ => ProvisionResult (Option PoolObservation)

@[reducible]
def ProcessCall.Res : ProcessCall → Type
  | .nowUnix => ℕ
  | .lockAdmit _ => Unit
  | .unlockAdmit _ => Unit
  | .takeToken _ => Bool
  | .convergedInsert _ => Unit
  | .convergedRemove _ => Unit
  | .convergedDifference _ => List String

/-- What a call answers with. -/
@[reducible]
def Call.Res : Call → Type
  | .row call => call.Res
  | .outbox call => call.Res
  | .control call => call.Res
  | .admin call => call.Res
  | .backend call => call.Res
  | .pool call => call.Res
  | .process call => call.Res

abbrev Program (α : Type) := Prog Call.Res α

abbrev EventLog := List (Event Call.Res)

abbrev Call.perform (call : Call) : Program call.Res := Prog.invoke call

namespace Calls

abbrev upsertDesired (id : ClusterId) (spec : ClusterSpec) : Program (StoreResult ℕ) :=
  Call.perform (.row (.upsertDesired id spec))

abbrev get (id : ClusterId) : Program (StoreResult (Option StoredCluster)) :=
  Call.perform (.row (.get id))

abbrev list : Program (StoreResult (List StoredCluster)) := Call.perform (.row .list)

abbrev setDesired (id : ClusterId) (desired : DesiredState) : Program (StoreResult Unit) :=
  Call.perform (.row (.setDesired id desired))

abbrev removeCluster (id : ClusterId) : Program (StoreResult Bool) :=
  Call.perform (.row (.removeCluster id))

abbrev recordObservation (id : ClusterId) (observed : Option ClusterState) (generation : ℕ) :
    Program (StoreResult Unit) :=
  Call.perform (.row (.recordObservation id observed generation))

abbrev setCondition (id : ClusterId) (condition : Option DriftCondition) :
    Program (StoreResult Unit) :=
  Call.perform (.row (.setCondition id condition))

abbrev recordAttempt (id : ClusterId) (failureCount nextAttemptAt : ℕ) :
    Program (StoreResult Unit) :=
  Call.perform (.row (.recordAttempt id failureCount nextAttemptAt))

abbrev beginIntent (key fingerprint : String) : Program (StoreResult IntentOutcome) :=
  Call.perform (.outbox (.beginIntent key fingerprint))

abbrev completeIntent (key response : String) : Program (StoreResult Unit) :=
  Call.perform (.outbox (.completeIntent key response))

abbrev getIntent (key : String) : Program (StoreResult (Option IntentRecord)) :=
  Call.perform (.outbox (.getIntent key))

abbrev reapIntents (appliedBefore : ℕ) : Program (StoreResult ℕ) :=
  Call.perform (.outbox (.reapIntents appliedBefore))

abbrev isQuarantined : Program (StoreResult Bool) := Call.perform (.control .isQuarantined)

abbrev listJobs : Program (StoreResult (List JobRecord)) := Call.perform (.control .listJobs)

abbrev getPool (name : String) : Program (StoreResult (Option StoredPool)) :=
  Call.perform (.control (.getPool name))

abbrev listPools : Program (StoreResult (List StoredPool)) := Call.perform (.control .listPools)

abbrev recordPoolObservation (name observed : String) : Program (StoreResult Unit) :=
  Call.perform (.control (.recordPoolObservation name observed))

abbrev listAllocations (pool : String) : Program (StoreResult (List AllocationSpec)) :=
  Call.perform (.control (.listAllocations pool))

abbrev recordUsageSamples (samples : List UsageSample) : Program (StoreResult Unit) :=
  Call.perform (.control (.recordUsageSamples samples))

abbrev usageSamples (project pool : Option String) (start stop : ℕ) :
    Program (StoreResult (List UsageSample)) :=
  Call.perform (.control (.usageSamples project pool start stop))

abbrev recordAudit (event : AuditEvent) : Program (StoreResult ℕ) :=
  Call.perform (.control (.recordAudit event))

abbrev getPolicy : Program (StoreResult (Option StoredPolicy)) :=
  Call.perform (.control .getPolicy)

abbrev seedPolicy (policy : StoredPolicy) : Program (StoreResult Bool) :=
  Call.perform (.control (.seedPolicy policy))

abbrev listRoleAssignments (principal : Option String) :
    Program (StoreResult (List RoleAssignment)) :=
  Call.perform (.control (.listRoleAssignments principal))

abbrev upsertPool (name : String) (spec : PoolSpec) : Program (StoreResult ℕ) :=
  Call.perform (.admin (.upsertPool name spec))

abbrev deletePoolRow (name : String) : Program (StoreResult Unit) :=
  Call.perform (.admin (.deletePool name))

abbrev upsertAllocation (alloc : AllocationSpec) : Program (StoreResult Unit) :=
  Call.perform (.admin (.upsertAllocation alloc))

abbrev deleteAllocation (pool project : String) : Program (StoreResult Unit) :=
  Call.perform (.admin (.deleteAllocation pool project))

abbrev setQuarantine (quarantined : Bool) : Program (StoreResult Unit) :=
  Call.perform (.admin (.setQuarantine quarantined))

abbrev apply (id : ClusterId) (spec : ClusterSpec) (generation : ℕ) (key : String)
    (queue : Option QueueAssignment) : Program (ProvisionResult ApplyResponse) :=
  Call.perform (.backend (.apply id spec generation key queue))

abbrev ensureNamespacePosture : Program (ProvisionResult Unit) :=
  Call.perform (.backend .ensureNamespacePosture)

abbrev terminate (id : ClusterId) : Program (ProvisionResult Unit) :=
  Call.perform (.backend (.terminate id))

abbrev reapNetworkPolicies (id : ClusterId) : Program (ProvisionResult Unit) :=
  Call.perform (.backend (.reapNetworkPolicies id))

abbrev suspend (id : ClusterId) : Program (ProvisionResult Unit) :=
  Call.perform (.backend (.suspend id))

abbrev observe (id : ClusterId) : Program (ProvisionResult ObservedCluster) :=
  Call.perform (.backend (.observe id))

abbrev kueuePresent : Program Bool := Call.perform (.pool .kueuePresent)

abbrev applyPool (spec : PoolSpec) (allocations : List AllocationSpec) :
    Program (ProvisionResult Unit) :=
  Call.perform (.pool (.applyPool spec allocations))

abbrev deletePool (name : String) : Program (ProvisionResult Unit) :=
  Call.perform (.pool (.deletePool name))

abbrev observePool (name : String) : Program (ProvisionResult (Option PoolObservation)) :=
  Call.perform (.pool (.observePool name))

abbrev nowUnix : Program ℕ := Call.perform (.process .nowUnix)

abbrev lockAdmit (project : String) : Program Unit := Call.perform (.process (.lockAdmit project))

abbrev unlockAdmit (project : String) : Program Unit :=
  Call.perform (.process (.unlockAdmit project))

abbrev takeToken (now : ℕ) : Program Bool := Call.perform (.process (.takeToken now))

abbrev convergedInsert (name : String) : Program Unit :=
  Call.perform (.process (.convergedInsert name))

abbrev convergedRemove (name : String) : Program Unit :=
  Call.perform (.process (.convergedRemove name))

abbrev convergedDifference (current : List String) : Program (List String) :=
  Call.perform (.process (.convergedDifference current))

end Calls

/-- The call may change what the provider holds. -/
def Call.mutates : Call → Bool
  | .backend (.observe _) => false
  | .backend _ => true
  | .pool (.applyPool _ _) => true
  | .pool (.deletePool _) => true
  | _ => false

def Call.applies (id : ClusterId) : Call → Bool
  | .backend (.apply wanted _ _ _ _) => wanted = id
  | _ => false

/-- How many applies at once, and how many a second. -/
structure RateLimits where
  capacity : ℚ
  refillPerSec : ℚ
  deriving DecidableEq, Repr

structure TokenBucket where
  tokens : ℚ
  capacity : ℚ
  refillPerSec : ℚ
  last : ℕ
  deriving DecidableEq, Repr

def TokenBucket.new (limits : RateLimits) (now : ℕ) : TokenBucket :=
  ⟨limits.capacity, limits.capacity, limits.refillPerSec, now⟩

def TokenBucket.tryTake (bucket : TokenBucket) (now : ℕ) : Bool × TokenBucket :=
  let elapsed : ℚ := (now - bucket.last : ℕ)
  let refilled := min (bucket.tokens + elapsed * bucket.refillPerSec) bucket.capacity
  if 1 ≤ refilled then (true, { bucket with tokens := refilled - 1, last := now })
  else (false, { bucket with tokens := refilled, last := now })

/-- The store, the provider and the memory of one control-plane process. -/
structure World (Provider : Type) where
  store : Store
  provider : Provider
  clock : ℕ → ℕ
  admitLocks : String → Option ℕ
  tokens : Option TokenBucket
  converged : List String

variable {Provider : Type}

namespace World

/-- The next reading of the clock. -/
def now (world : World Provider) : ℕ :=
  world.clock 0

def withLimits (world : World Provider) (limits : RateLimits) : World Provider :=
  { world with tokens := some (.new limits 0) }

def afterReading (world : World Provider) (taken : Bool) : World Provider :=
  { world with clock := fun n => world.clock (if taken then n + 1 else n) }

def setClusters (world : World Provider) (clusters : ClusterTable) : World Provider :=
  { world with store := { world.store with clusters := clusters } }

def setIntents (world : World Provider) (intents : IntentTable) : World Provider :=
  { world with store := { world.store with intents := intents } }

def setLock (world : World Provider) (project : String) (holder : Option ℕ) : World Provider :=
  { world with admitLocks := Function.update world.admitLocks project holder }

variable (world : World Provider)

include world

@[simp]
theorem afterReading_store (taken : Bool) : (world.afterReading taken).store = world.store := rfl

@[simp]
theorem afterReading_provider (taken : Bool) :
    (world.afterReading taken).provider = world.provider := rfl

@[simp]
theorem afterReading_admitLocks (taken : Bool) :
    (world.afterReading taken).admitLocks = world.admitLocks := rfl

@[simp]
theorem setClusters_clusters (clusters : ClusterTable) :
    (world.setClusters clusters).store.clusters = clusters := rfl

@[simp]
theorem setLock_store (project : String) (holder : Option ℕ) :
    (world.setLock project holder).store = world.store := rfl

theorem setLock_admitLocks (project wanted : String) (holder : Option ℕ) :
    (world.setLock project holder).admitLocks wanted =
      if wanted = project then holder else world.admitLocks wanted := by
  simp [setLock, Function.update_apply]

end World

/-- The outbox holds no parameters other than the row's own under its key. -/
def Agrees (row : StoredCluster) (world : World Provider) : Prop :=
  ∀ recorded, IntentTable.fingerprintAt world.store.intents row.intentKey = some recorded →
    recorded = paramsFingerprint row.spec

def execRow (call : RowCall) (rows : ClusterTable) (now : ℕ) : call.Res × ClusterTable :=
  match call with
  | .upsertDesired id spec =>
    (.ok (nextGeneration (rows.find? id) spec),
      upsertDesired rows id spec now)
  | .get id => (.ok (rows.find? id), rows)
  | .list => (.ok rows.rows, rows)
  | .setDesired id desired =>
    match rows.find? id with
    | none => (.error ⟨"no such cluster " ++ id⟩, rows)
    | some _ => (.ok (), setDesired rows id desired now)
  | .removeCluster id => (.ok (rows.find? id).isSome, rows.erase id)
  | .recordObservation id observed generation =>
    (.ok (), recordObservation rows id observed generation)
  | .setCondition id condition => (.ok (), setCondition rows id condition)
  | .recordAttempt id failureCount nextAttemptAt =>
    (.ok (), recordAttempt rows id failureCount nextAttemptAt)

def RowCall.stamps : RowCall → Bool
  | .upsertDesired _ _ => true
  | .setDesired _ _ => true
  | _ => false

def execOutbox (call : OutboxCall) (intents : IntentTable) (now : ℕ) : call.Res × IntentTable :=
  match call with
  | .beginIntent key fingerprint =>
    let (outcome, intents) := IntentTable.beginIntent intents key fingerprint now
    (.ok outcome, intents)
  | .completeIntent key response => (.ok (), IntentTable.completeIntent intents key response now)
  | .getIntent key => (.ok (intents.find? key), intents)
  | .reapIntents appliedBefore =>
    let kept := IntentTable.reapIntents intents appliedBefore
    (.ok (intents.rows.length - kept.rows.length), kept)

def OutboxCall.stamps : OutboxCall → Bool
  | .beginIntent _ _ => true
  | .completeIntent _ _ => true
  | _ => false

def AuditEvent.toJson (event : AuditEvent) : Json :=
  .obj
    [("ts", .nat event.ts), ("subject", .option .str event.subject),
      ("decision", .str (match event.decision with | .allow => "allow" | .deny => "deny")),
      ("reason", .option .str event.reason), ("action", .option .str event.action),
      ("cluster", .option .str event.cluster), ("method", .option .str event.method),
      ("path", .option .str event.path), ("status", .option .nat event.status),
      ("latency_ms", .option .nat event.latencyMs),
      ("required", .option (fun required : AuditRequired =>
        .obj [("action", .str required.action), ("target", .str required.target)]) event.required),
      ("granted_roles", .arr (event.grantedRoles.map .str))]

def AUDIT_GENESIS_HASH : String :=
  "0000000000000000000000000000000000000000000000000000000000000000"

def auditChainHash (sha256 : String → String) (previous : String) (event : AuditEvent) : String :=
  sha256 (previous ++ event.toJson.compress)

def execControl (sha256 : String → String) (call : ControlCall) (store : Store) (now : ℕ) :
    call.Res × Store :=
  match call with
  | .isQuarantined => (.ok store.quarantined, store)
  | .listJobs => (.ok store.listJobs, store)
  | .getPool name => (.ok (store.pools.find? name), store)
  | .listPools => (.ok store.pools.rows, store)
  | .recordPoolObservation name observed =>
    (.ok (), store.recordPoolObservation name observed now)
  | .listAllocations pool => (.ok (store.allocationsOf pool), store)
  | .recordUsageSamples samples =>
    (.ok (), { store with usage := store.usage ++ samples })
  | .usageSamples project pool start stop =>
    (.ok (store.usageSamples project pool start stop), store)
  | .recordAudit event =>
    let seq := store.auditSeq + 1
    let previous := (store.audit.getLast?.map (·.2.2)).getD AUDIT_GENESIS_HASH
    let row := (seq, event, auditChainHash sha256 previous event)
    (.ok seq, { store with audit := store.audit ++ [row], auditSeq := seq })
  | .getPolicy => (.ok store.policy, store)
  | .seedPolicy policy =>
    let (inserted, store) := store.seedPolicy policy
    (.ok inserted, store)
  | .listRoleAssignments principal => (.ok (store.listRoleAssignments principal), store)

def ControlCall.stamps : ControlCall → Bool
  | .recordPoolObservation _ _ => true
  | _ => false

def execAdmin (call : AdminCall) (catalog : Catalog) (now : ℕ) : call.Res × Catalog :=
  match call with
  | .upsertPool name spec =>
    let existing := catalog.pools.find? name
    (.ok (Catalog.nextGeneration existing spec),
      { catalog with
        pools := catalog.pools.insert (Catalog.upsertedPool existing name spec now) })
  | .deletePool name =>
    match catalog.pools.find? name with
    | none => (.error ⟨"no such pool " ++ name⟩, catalog)
    | some _ => (.ok (), { catalog with pools := catalog.pools.erase name })
  | .upsertAllocation alloc =>
    (.ok (), { catalog with allocations := catalog.allocations.insert alloc })
  | .deleteAllocation pool project =>
    match catalog.allocations.find? (pool, project) with
    | none => (.error ⟨"no such allocation " ++ pool ++ "/" ++ project⟩, catalog)
    | some _ =>
      (.ok (), { catalog with allocations := catalog.allocations.erase (pool, project) })
  | .setQuarantine quarantined => (.ok (), { catalog with quarantined := quarantined })

def AdminCall.stamps : AdminCall → Bool
  | .upsertPool _ _ => true
  | _ => false

def execBackend (platform : Platform Provider) (call : BackendCall) (provider : Provider) :
    call.Res × Provider :=
  match call with
  | .apply id spec generation key queue => platform.apply id spec generation key queue provider
  | .ensureNamespacePosture => platform.ensureNamespacePosture provider
  | .terminate id => platform.terminate id provider
  | .reapNetworkPolicies id => platform.reapNetworkPolicies id provider
  | .suspend id => platform.suspend id provider
  | .resume id => platform.resume id provider
  | .observe id => (platform.observe id provider, provider)

def execPool (platform : Platform Provider) (call : PoolCall) (provider : Provider) :
    call.Res × Provider :=
  match call with
  | .kueuePresent => (platform.kueuePresent provider, provider)
  | .applyPool spec allocations => platform.applyPool spec allocations provider
  | .deletePool name => platform.deletePool name provider
  | .observePool name => (platform.observePool name provider, provider)

def execProcess (thread : ℕ) (call : ProcessCall) (world : World Provider) :
    Option (call.Res × World Provider) :=
  match call with
  | .nowUnix => some (world.now, world.afterReading true)
  | .lockAdmit project =>
    match world.admitLocks project with
    | some _ => none
    | none => some ((), world.setLock project (some thread))
  | .unlockAdmit project => some ((), world.setLock project none)
  | .takeToken now =>
    match world.tokens with
    | none => some (true, world)
    | some bucket =>
      let (granted, bucket) := bucket.tryTake now
      some (granted, { world with tokens := some bucket })
  | .convergedInsert name => some ((), { world with converged := world.converged.insert name })
  | .convergedRemove name => some ((), { world with converged := world.converged.erase name })
  | .convergedDifference current =>
    some (world.converged.filter (· ∉ current), world)

/-- The answer and the effect of a call; none while its lock is held. -/
def exec (platform : Platform Provider) (thread : ℕ) (call : Call) (world : World Provider) :
    Option (call.Res × World Provider) :=
  match call with
  | .row call =>
    let (answer, rows) := execRow call world.store.clusters world.now
    some (answer, (world.afterReading call.stamps).setClusters rows)
  | .outbox call =>
    let (answer, intents) := execOutbox call world.store.intents world.now
    some (answer, (world.afterReading call.stamps).setIntents intents)
  | .control call =>
    let (answer, store) := execControl platform.sha256 call world.store world.now
    some (answer, { world.afterReading call.stamps with store := store })
  | .admin call =>
    let (answer, catalog) := execAdmin call world.store.catalog world.now
    some (answer,
      { world.afterReading call.stamps with store := world.store.setCatalog catalog })
  | .backend call =>
    let (answer, provider) := execBackend platform call world.provider
    some (answer, { world with provider := provider })
  | .pool call =>
    let (answer, provider) := execPool platform call world.provider
    some (answer, { world with provider := provider })
  | .process call => execProcess thread call world

section Reads

variable {platform : Platform Provider} {thread : ℕ} {world : World Provider}

theorem exec_get {id : ClusterId} : exec platform thread (.row (.get id)) world =
      some (.ok (world.store.clusters.find? id), world) := rfl

theorem exec_list :
    exec platform thread (.row .list) world = some (.ok world.store.clusters.rows, world) := rfl

theorem exec_isQuarantined : exec platform thread (.control .isQuarantined) world =
      some (.ok world.store.quarantined, world) := rfl

theorem exec_getPool {name : String} : exec platform thread (.control (.getPool name)) world =
      some (.ok (world.store.pools.find? name), world) := rfl

theorem exec_listPools : exec platform thread (.control .listPools) world =
      some (.ok world.store.pools.rows, world) := rfl

theorem exec_listAllocations {pool : String} :
    exec platform thread (.control (.listAllocations pool)) world =
      some (.ok (world.store.allocationsOf pool), world) := rfl

theorem exec_usageSamples {project pool : Option String} {start stop : ℕ} :
    exec platform thread (.control (.usageSamples project pool start stop)) world =
      some (.ok (world.store.usageSamples project pool start stop), world) := rfl

theorem exec_getPolicy :
    exec platform thread (.control .getPolicy) world = some (.ok world.store.policy, world) := rfl

theorem exec_listRoleAssignments {principal : Option String} :
    exec platform thread (.control (.listRoleAssignments principal)) world =
      some (.ok (world.store.listRoleAssignments principal), world) := rfl

theorem exec_observe {id : ClusterId} : exec platform thread (.backend (.observe id)) world =
      some (platform.observe id world.provider, world) := rfl

theorem exec_seedPolicy {policy : StoredPolicy} (unset : world.store.policy = none) :
    exec platform thread (.control (.seedPolicy policy)) world =
      some (.ok true, { world with store := { world.store with policy := some policy } }) := by
  simp only [exec, execControl, seedPolicy, unset]
  rfl

end Reads

def RowCall.target : RowCall → Option ClusterId
  | .upsertDesired id _ => some id
  | .get _ => none
  | .list => none
  | .setDesired id _ => some id
  | .removeCluster id => some id
  | .recordObservation id _ _ => some id
  | .setCondition id _ => some id
  | .recordAttempt id _ _ => some id

def RowCall.effect (now : ℕ) : RowCall → Option StoredCluster → Option StoredCluster
  | .upsertDesired id spec, current => some (upsertedRow current id spec now)
  | .get _, current => current
  | .list, current => current
  | .setDesired _ desired, current => current.map (withDesired desired now)
  | .removeCluster _, _ => none
  | .recordObservation _ observed generation, current =>
    current.map (withObservation observed generation)
  | .setCondition _ condition, current =>
    current.map fun row => { row with condition := condition }
  | .recordAttempt _ failureCount nextAttemptAt, current =>
    current.map fun row =>
      { row with failureCount := failureCount, nextAttemptAt := nextAttemptAt }

/-- A row call acts on its target row as its effect says, and on no other row. -/
theorem find?_execRow (call : RowCall) (rows : ClusterTable) (now : ℕ) (wanted : ClusterId) :
    (execRow call rows now).2.find? wanted =
      if call.target = some wanted then call.effect now (rows.find? wanted)
      else rows.find? wanted := by
  cases call with
  | upsertDesired id spec =>
    simp [execRow, RowCall.target, RowCall.effect, find?_upsertDesired,
      eq_comm (a := id)]
    by_cases same : wanted = id <;> simp [same]
  | get id => rfl
  | list => rfl
  | setDesired id desired =>
    have lookup := find?_setDesired rows id wanted desired now
    simp [RowCall.target, RowCall.effect, eq_comm (a := id)]
    cases found : rows.find? id with
    | some row => simpa [execRow, found] using lookup
    | none =>
      by_cases same : wanted = id <;> simp [execRow, found, same]
  | removeCluster id =>
    simp [execRow, RowCall.target, RowCall.effect, Table.find?_erase, eq_comm (a := id)]
  | recordObservation id observed generation =>
    simpa [execRow, RowCall.target, RowCall.effect, eq_comm (a := id)] using
      find?_recordObservation rows id wanted observed generation
  | setCondition id condition =>
    simpa [execRow, RowCall.target, RowCall.effect, eq_comm (a := id)] using
      find?_setCondition rows id wanted condition
  | recordAttempt id failureCount nextAttemptAt =>
    simpa [execRow, RowCall.target, RowCall.effect, eq_comm (a := id)] using
      find?_recordAttempt rows id wanted failureCount nextAttemptAt

def Call.clustersAfter (call : Call) (world : World Provider) : ClusterTable :=
  match call with
  | .row call => (execRow call world.store.clusters world.now).2
  | _ => world.store.clusters

def Call.intentsAfter (call : Call) (world : World Provider) : IntentTable :=
  match call with
  | .outbox call => (execOutbox call world.store.intents world.now).2
  | _ => world.store.intents

def Call.policyAfter (call : Call) (world : World Provider) : Option StoredPolicy :=
  match call with
  | .control (.seedPolicy policy) => some (world.store.policy.getD policy)
  | _ => world.store.policy

section Frames

variable {sha256 : String → String} {platform : Platform Provider} {thread : ℕ} {call : Call}
  {world world' : World Provider} {answer : call.Res}

theorem execControl_frame (call : ControlCall) (store : Store) (now : ℕ) :
    (execControl sha256 call store now).2.clusters = store.clusters ∧
      (execControl sha256 call store now).2.intents = store.intents ∧
      (execControl sha256 call store now).2.quarantined = store.quarantined ∧
      (execControl sha256 call store now).2.allocations = store.allocations ∧
      (execControl sha256 call store now).2.assignments = store.assignments := by
  cases call with
  | seedPolicy policy =>
    cases stored : store.policy <;> simp [execControl, seedPolicy, stored]
  | recordPoolObservation name observed => simp [execControl, recordPoolObservation]
  | _ => simp [execControl]

theorem execProcess_frame {call : ProcessCall} {answer : call.Res}
    (answered : execProcess thread call world = some (answer, world')) :
    world'.store = world.store ∧ world'.provider = world.provider := by
  cases call with
  | lockAdmit project =>
    cases held : world.admitLocks project with
    | none =>
      simp [execProcess, held] at answered
      subst answered
      exact ⟨rfl, rfl⟩
    | some holder => simp [execProcess, held] at answered
  | takeToken now =>
    cases bucket : world.tokens <;>
    · simp [execProcess, bucket] at answered
      rw [← answered.2]
      exact ⟨rfl, rfl⟩
  | nowUnix =>
    cases answered
    exact ⟨rfl, rfl⟩
  | _ =>
    cases answered
    exact ⟨rfl, rfl⟩

section

variable (answered : exec platform thread call world = some (answer, world'))

include answered

theorem clusters_exec : world'.store.clusters = call.clustersAfter world := by
  cases call with
  | process call => rw [(execProcess_frame answered).1]; rfl
  | control call =>
    cases answered
    exact (execControl_frame call world.store world.now).1
  | _ =>
    cases answered
    rfl

theorem intents_exec : world'.store.intents = call.intentsAfter world := by
  cases call with
  | process call => rw [(execProcess_frame answered).1]; rfl
  | control call =>
    cases answered
    exact (execControl_frame call world.store world.now).2.1
  | _ =>
    cases answered
    rfl

theorem provider_exec (harmless : call.mutates = false) : world'.provider = world.provider := by
  cases call with
  | process call => exact (execProcess_frame answered).2
  | backend call =>
    cases call with
    | observe id =>
      simp [exec, execBackend] at answered
      rw [← answered.2]
    | _ => cases harmless
  | pool call =>
    cases call with
    | applyPool spec allocations => cases harmless
    | deletePool name => cases harmless
    | _ =>
      simp [exec, execPool] at answered
      rw [← answered.2]
  | _ =>
    cases answered
    rfl

theorem policy_exec : world'.store.policy = call.policyAfter world := by
  cases call with
  | process call => rw [(execProcess_frame answered).1]; rfl
  | control call =>
    cases answered
    cases call with
    | seedPolicy policy =>
      cases stored : world.store.policy <;>
        simp [seedPolicy, Call.policyAfter, stored]
    | _ => rfl
  | _ =>
    cases answered
    rfl

/-- Calls that write neither pools, nor allocations, nor the quarantine flag. -/
def Call.keepsCatalog : Call → Bool
  | .admin _ => false
  | _ => true

theorem quarantined_exec
    (keeps : call.keepsCatalog = true) : world'.store.quarantined = world.store.quarantined := by
  cases call with
  | admin call => cases keeps
  | process call => rw [(execProcess_frame answered).1]
  | control call =>
    cases answered
    exact (execControl_frame call world.store world.now).2.2.1
  | _ =>
    cases answered
    rfl

theorem allocations_exec (keeps : call.keepsCatalog = true) :
    world'.store.allocations = world.store.allocations := by
  cases call with
  | admin call => cases keeps
  | process call => rw [(execProcess_frame answered).1]
  | control call =>
    cases answered
    exact (execControl_frame call world.store world.now).2.2.2.1
  | _ =>
    cases answered
    rfl

theorem pools_exec (keeps : call.keepsCatalog = true) (name : String) :
    (world'.store.pools.find? name).map StoredPool.wanted =
      (world.store.pools.find? name).map StoredPool.wanted := by
  cases call with
  | admin call => cases keeps
  | process call => rw [(execProcess_frame answered).1]
  | control call =>
    cases answered
    cases call with
    | recordPoolObservation wanted observed =>
      simp only [recordPoolObservation]
      rw [Table.find?_modify]
      · split
        · rw [Option.map_map]
          rfl
        · rfl
      · intro pool
        rfl
    | seedPolicy policy =>
      cases stored : world.store.policy <;> simp [seedPolicy, stored]
    | _ => rfl
  | _ =>
    cases answered
    rfl

theorem admitLocks_exec {project : String} (unlocked : call ≠ .process (.lockAdmit project))
    (kept : call ≠ .process (.unlockAdmit project)) :
    world'.admitLocks project = world.admitLocks project := by
  cases call with
  | process call =>
    cases call with
    | lockAdmit wanted =>
      have differs : project ≠ wanted := by
        rintro rfl
        exact unlocked rfl
      cases held : world.admitLocks wanted with
      | none =>
        simp [exec, execProcess, held] at answered
        rw [← answered, World.setLock_admitLocks, if_neg differs]
      | some holder => simp [exec, execProcess, held] at answered
    | unlockAdmit wanted =>
      have differs : project ≠ wanted := by
        rintro rfl
        exact kept rfl
      simp [exec, execProcess] at answered
      rw [← answered, World.setLock_admitLocks, if_neg differs]
    | takeToken now =>
      cases bucket : world.tokens <;>
      · simp [exec, execProcess, bucket] at answered
        rw [← answered.2]
    | _ =>
      cases answered
      rfl
  | _ =>
    cases answered
    rfl

end

variable {key : String} {row : StoredCluster} {id : ClusterId}

theorem fingerprintAt_intentsAfter {fingerprint : String}
    (held : fingerprintAt (call.intentsAfter world) key = some fingerprint) :
    fingerprintAt world.store.intents key = some fingerprint ∨
      call = .outbox (.beginIntent key fingerprint) := by
  cases call with
  | outbox call =>
    cases call with
    | beginIntent wanted posted =>
      have after : fingerprintAt (beginIntent world.store.intents
        wanted posted world.now).2 key = some fingerprint := held
      rw [fingerprintAt_beginIntent] at after
      split at after
      · next opened =>
          simp at after
          right
          rw [opened.1, after]
      · exact .inl after
    | completeIntent wanted response =>
      have after : fingerprintAt (completeIntent world.store.intents
        wanted response world.now) key = some fingerprint := held
      rw [fingerprintAt_completeIntent] at after
      exact .inl after
    | getIntent wanted => exact .inl held
    | reapIntents appliedBefore => exact .inl (fingerprintAt_reapIntents held)
  | _ => exact .inl held

theorem applied_of_intentsAfter {record : IntentRecord}
    (found : (call.intentsAfter world).find? key = some record) (applied : record.status = .applied)
    (other : ∀ response, call ≠ .outbox (.completeIntent key response)) :
    world.store.intents.find? key = some record := by
  cases call with
  | outbox call =>
    cases call with
    | beginIntent wanted posted => exact applied_of_beginIntent found applied
    | completeIntent wanted response =>
      rw [← found]
      refine (find?_completeIntent ?_).symm
      rintro rfl
      exact other response rfl
    | getIntent wanted => exact found
    | reapIntents appliedBefore => exact find?_of_reapIntents found
  | _ => exact found

/-- The outbox goes on agreeing with a row while only the row's intent is opened under its key. -/
theorem Agrees.exec (agrees : Agrees row world)
    (answered : exec platform thread call world = some (answer, world'))
    (opens : ∀ fingerprint, call = .outbox (.beginIntent row.intentKey fingerprint) →
      fingerprint = paramsFingerprint row.spec) : Agrees row world' := by
  intro recorded held
  rw [intents_exec answered] at held
  rcases fingerprintAt_intentsAfter held with old | opened
  · exact agrees recorded old
  · exact opens recorded opened

variable (answered : exec platform thread call world = some (answer, world'))

include answered

theorem find?_exec (wanted : ClusterId) : world'.store.clusters.find? wanted = match call with
      | .row call =>
        if call.target = some wanted then
          call.effect world.now (world.store.clusters.find? wanted)
        else world.store.clusters.find? wanted
      | _ => world.store.clusters.find? wanted := by
  rw [clusters_exec answered]
  cases call with
  | row call => exact find?_execRow call world.store.clusters world.now wanted
  | _ => rfl

theorem stored_exec (stored : (world.store.clusters.find? id).isSome = true)
    (stays : call ≠ .row (.removeCluster id)) : (world'.store.clusters.find? id).isSome = true := by
  rw [find?_exec answered id]
  cases call with
  | row call =>
    simp only
    split
    · next targets =>
        cases call with
        | removeCluster wanted =>
          cases targets
          exact absurd rfl stays
        | upsertDesired wanted spec => rfl
        | _ => simpa [RowCall.effect] using stored
    · exact stored
  | _ => exact stored

/-- How a call led to the row that is stored under an id after it. -/
inductive RowStep (id : ClusterId) (before : World Provider) : Call → StoredCluster → Prop
  | posted (spec : ClusterSpec) :
      RowStep id before (.row (.upsertDesired id spec))
        (upsertedRow (before.store.clusters.find? id) id spec before.now)
  | flipped {previous : StoredCluster} (desired : DesiredState)
      (stored : before.store.clusters.find? id = some previous) :
      RowStep id before (.row (.setDesired id desired))
        (withDesired desired before.now previous)
  | observed {previous : StoredCluster} (state : Option ClusterState) (generation : ℕ)
      (stored : before.store.clusters.find? id = some previous) :
      RowStep id before (.row (.recordObservation id state generation))
        (withObservation state generation previous)
  | kept {call : Call} {previous row : StoredCluster}
      (stored : before.store.clusters.find? id = some previous)
      (spec : row.spec = previous.spec) (generation : row.generation = previous.generation)
      (desired : row.desired = previous.desired)
      (observedState : row.observedState = previous.observedState) : RowStep id before call row

theorem rowStep_exec
    (found : world'.store.clusters.find? id = some row) : RowStep id world call row := by
  have lookup := find?_exec answered id
  rw [found] at lookup
  cases call with
  | row call =>
    simp only at lookup
    split at lookup
    · next targets =>
        cases call with
        | get wanted => cases targets
        | list => cases targets
        | removeCluster wanted => cases lookup
        | upsertDesired wanted spec =>
          cases targets
          cases lookup
          exact .posted spec
        | setDesired wanted desired =>
          cases targets
          rcases Option.map_eq_some_iff.mp lookup.symm with ⟨previous, stored, rfl⟩
          exact .flipped desired stored
        | recordObservation wanted state generation =>
          cases targets
          rcases Option.map_eq_some_iff.mp lookup.symm with ⟨previous, stored, rfl⟩
          exact .observed state generation stored
        | _ =>
          cases targets
          rcases Option.map_eq_some_iff.mp lookup.symm with ⟨previous, stored, rfl⟩
          exact .kept stored rfl rfl rfl rfl
    · exact .kept lookup.symm rfl rfl rfl rfl
  | _ => exact .kept lookup.symm rfl rfl rfl rfl

theorem posted_or_kept (found : world'.store.clusters.find? id = some row) :
    (∃ spec, call = .row (.upsertDesired id spec) ∧
      row = upsertedRow (world.store.clusters.find? id) id spec world.now) ∨
    ∃ previous, world.store.clusters.find? id = some previous ∧
      previous.generation = row.generation ∧ previous.spec = row.spec := by
  cases rowStep_exec answered found with
  | posted spec => exact .inl ⟨spec, rfl, rfl⟩
  | flipped desired stored => exact .inr ⟨_, stored, rfl, rfl⟩
  | observed state generation stored => exact .inr ⟨_, stored, rfl, rfl⟩
  | kept stored spec generation => exact .inr ⟨_, stored, generation.symm, spec.symm⟩

end Frames

end Mobula
