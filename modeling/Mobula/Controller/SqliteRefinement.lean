import Mobula.Controller.SqliteStore
import Mobula.Provision.Demo

/-!
# The SQLite store refines the in-memory store

Every operation keeps the rows of the tables those that the records would be written as, and
gets the same answer from both stores, up to the order of lists. What has to be assumed is that
numbers stay below 2⁶³, the generations of clusters among them, and that the arguments are
values of their types: 32-bit numbers and maps listed in key order.
-/

namespace Mobula

open Foundation Json Table ClusterTable

variable {depth : ℕ}

theorem Engine.fromJson_asStr (engine : Engine) :
    Engine.fromJson (.str engine.asStr) = some engine := by
  cases engine <;> rfl

theorem ClusterState.fromJson_asStr (state : ClusterState) :
    ClusterState.fromJson (.str state.asStr) = some state := by
  cases state <;> decide

theorem DriftCondition.fromJson_asStr (condition : DriftCondition) :
    DriftCondition.fromJson (.str condition.asStr) = some condition := by
  cases condition <;> decide

structure WorkerGroup.Fits (group : WorkerGroup) : Prop where
  minReplicas : group.minReplicas < 2 ^ 32
  maxReplicas : group.maxReplicas < 2 ^ 32
  replicas : group.replicas < 2 ^ 32

structure ClusterSpec.Fits (spec : ClusterSpec) : Prop where
  workerGroups : ∀ group ∈ spec.workerGroups, group.Fits
  ttlSeconds : ∀ seconds ∈ spec.ttlSeconds, seconds < 2 ^ 64
  idleTimeoutSecs : ∀ seconds ∈ spec.idleTimeoutSecs, seconds < 2 ^ 64

structure AllocationSpec.Fits (allocation : AllocationSpec) : Prop where
  nominal : Json.Ordered allocation.nominal
  borrowingLimit : Json.Ordered allocation.borrowingLimit
  lendingLimit : Json.Ordered allocation.lendingLimit

theorem WorkerGroup.fromJson_toJson {group : WorkerGroup} (fits : group.Fits) :
    WorkerGroup.fromJson group.toJson = some group := by
  have small {n : ℕ} (below : n < 2 ^ 32) : decodeBelow (2 ^ 32) (.nat n) = some n :=
    decodeBelow_nat below (by decide)
  simp [WorkerGroup.fromJson, WorkerGroup.toJson, slots, Slot.required,
    Slot.optional, asStr?, decodeOption_str, small fits.minReplicas,
    small fits.maxReplicas, small fits.replicas, -Nat.reducePow]

theorem ClusterSpec.fromJson_toJson {spec : ClusterSpec} (fits : spec.Fits) :
    ClusterSpec.fromJson spec.toJson = some spec := by
  have groups : decodeList WorkerGroup.fromJson
      (.arr (spec.workerGroups.map WorkerGroup.toJson)) = some spec.workerGroups :=
    decodeList_map fun group member =>
      WorkerGroup.fromJson_toJson (fits.workerGroups group member)
  have ttl := decodeOption_nat fits.ttlSeconds (le_refl _)
  have idle := decodeOption_nat fits.idleTimeoutSecs (le_refl _)
  simp [ClusterSpec.fromJson, ClusterSpec.toJson, slots, Slot.required,
    Slot.optional, Slot.defaulted, asStr?, decodeOption_str,
    Engine.fromJson_asStr, groups, ttl, idle, -Nat.reducePow]

theorem readable_nat {n : ℕ} : (Json.nat n).Readable depth := by
  cases depth <;> exact ⟨n, rfl⟩

theorem readable_str {text : String} : (Json.str text).Readable depth := by
  cases depth <;> trivial

theorem ClusterSpec.readable_toJson (spec : ClusterSpec) :
    spec.toJson.Readable Json.RECURSION_LIMIT := by
  have optionalText {depth : ℕ} (value : Option String) : (option .str value).Readable depth :=
    readable_option value fun text => readable_str
  have optionalNumber {depth : ℕ} (value : Option ℕ) : (option .nat value).Readable depth :=
    readable_option value fun n => readable_nat
  simp [ClusterSpec.toJson, RECURSION_LIMIT, Readable, ReadableFields,
    readableItems_iff, WorkerGroup.toJson, readable_nat, optionalText, optionalNumber]

theorem AllocationSpec.fromJson_serialized {allocation : AllocationSpec} (fits : allocation.Fits) :
    AllocationSpec.fromJson allocation.serialized = some allocation := by
  have map {entries : List (String × String)} (ordered : Ordered entries) :
      decodeMap asStr? (mapJson entries) = some entries :=
    decodeMap_obj ordered fun _ _ => rfl
  simp [AllocationSpec.fromJson, AllocationSpec.serialized, slots, Slot.required,
    asStr?, map fits.nominal, map fits.borrowingLimit, map fits.lendingLimit]

theorem AllocationSpec.readable_serialized (allocation : AllocationSpec) :
    allocation.serialized.Readable Json.RECURSION_LIMIT := by
  have fields (entries : List (String × String)) (depth : ℕ) :
      ReadableFields depth (entries.map fun entry => (entry.1, .str entry.2)) := by
    induction entries with
    | nil => trivial
    | cons entry entries ih => exact ⟨readable_str, ih⟩
  simp [AllocationSpec.serialized, mapJson, RECURSION_LIMIT, Readable, ReadableFields, fields]

theorem decodeNullable_name {α : Type} {decode : Json → Option α} {name : α → String}
    (undone : ∀ value, decode (.str (name value)) = some value) (value : Option α) :
    decodeNullable decode (value.map fun present => (Json.str (name present)).compress) =
      .ok value := by
  rcases value with _ | present
  · rfl
  have read := decodeColumn_compress readable_str (undone present)
  simp [decodeNullable, read, Except.map]

def StoredCluster.columns (cluster : StoredCluster) : ClusterColumns where
  id := cluster.id
  specJson := cluster.spec.toJson.compress
  generation := asI64 cluster.generation
  desired := cluster.desired.asStr
  observedState := cluster.observedState.map fun state => (Json.str state.asStr).compress
  observedGeneration := asI64 cluster.observedGeneration
  condition := cluster.condition.map fun raised => (Json.str raised.asStr).compress
  failureCount := cluster.failureCount
  nextAttemptAt := asI64 cluster.nextAttemptAt
  createdAt := asI64 cluster.createdAt
  terminatedAt := cluster.terminatedAt.map asI64

structure StoredCluster.Fits (cluster : StoredCluster) : Prop where
  spec : cluster.spec.Fits
  generation : cluster.generation < 2 ^ 64
  observedGeneration : cluster.observedGeneration < 2 ^ 63
  failureCount : cluster.failureCount < 2 ^ 32
  nextAttemptAt : cluster.nextAttemptAt < 2 ^ 64
  createdAt : cluster.createdAt < 2 ^ 64
  terminatedAt : ∀ time ∈ cluster.terminatedAt, time < 2 ^ 64

def RepresentsCluster (row : ClusterColumns) (cluster : StoredCluster) : Prop :=
  row = cluster.columns ∧ cluster.Fits

theorem desiredFromStr_asStr {desired : DesiredState} :
    desiredFromStr desired.asStr = .ok desired := by
  cases desired <;> rfl

theorem map_asUnsigned_asI64 {time : Option ℕ} (small : ∀ t ∈ time, t < 2 ^ 64) :
    (time.map asI64).map (asUnsigned 64) = time := by
  rcases time with _ | t
  · rfl
  · simp [asUnsigned_asI64 (small t rfl)]

theorem rowToCluster_eq {row : ClusterColumns} {cluster : StoredCluster}
    (represents : RepresentsCluster row cluster) : rowToCluster row = .ok cluster := by
  rcases represents with ⟨rfl, fits⟩
  have spec := decodeColumn_compress cluster.spec.readable_toJson
    (ClusterSpec.fromJson_toJson fits.spec)
  have observed := decodeNullable_name ClusterState.fromJson_asStr cluster.observedState
  have condition := decodeNullable_name DriftCondition.fromJson_asStr cluster.condition
  have count : asUnsigned 32 cluster.failureCount = cluster.failureCount :=
    asUnsigned_natCast fits.failureCount
  simp only [rowToCluster, StoredCluster.columns, spec, observed, condition, desiredFromStr_asStr,
    bind, Except.bind, asUnsigned_asI64 fits.generation,
    asUnsigned_asI64 (fits.observedGeneration.trans (by decide)),
    count, asUnsigned_asI64 fits.nextAttemptAt, asUnsigned_asI64 fits.createdAt,
    map_asUnsigned_asI64 fits.terminatedAt]

def IntentStatus.asStr : IntentStatus → String
  | .pending => "pending"
  | .applied => "applied"

def IntentRecord.columns (record : IntentRecord) : IntentColumns where
  intentKey := record.key
  paramsFingerprint := record.paramsFingerprint
  status := record.status.asStr
  responseJson := record.responseJson
  createdAt := asI64 record.createdAt
  completedAt := record.completedAt.map asI64

structure IntentRecord.Fits (record : IntentRecord) : Prop where
  createdAt : record.createdAt < 2 ^ 64
  completedAt : ∀ time ∈ record.completedAt, time < 2 ^ 63

def RepresentsIntent (row : IntentColumns) (record : IntentRecord) : Prop :=
  row = record.columns ∧ record.Fits

theorem rowToIntent_eq {row : IntentColumns} {record : IntentRecord}
    (represents : RepresentsIntent row record) : rowToIntent row = record := by
  rcases represents with ⟨rfl, fits⟩
  have status : intentStatusFromStr record.status.asStr = record.status := by
    cases record.status <;> rfl
  simp only [rowToIntent, IntentRecord.columns, status, asUnsigned_asI64 fits.createdAt,
    map_asUnsigned_asI64 fun time completed => (fits.completedAt time completed).trans (by decide)]

def RepresentsAllocation (row : AllocationColumns) (allocation : AllocationSpec) : Prop :=
  row = ⟨allocation.pool, allocation.project, allocation.serialized.compress⟩ ∧ allocation.Fits

theorem rowToAllocation_eq {row : AllocationColumns} {allocation : AllocationSpec}
    (represents : RepresentsAllocation row allocation) : rowToAllocation row = .ok allocation := by
  rcases represents with ⟨rfl, fits⟩
  exact decodeColumn_compress allocation.readable_serialized
    (AllocationSpec.fromJson_serialized fits)

def RepresentsAssignment (row : AssignmentColumns) (held : RoleAssignment) : Prop :=
  row = ⟨held.principal, held.role, held.scope, asI64 held.createdAt⟩ ∧ held.createdAt < 2 ^ 64

theorem rowToAssignment_eq {row : AssignmentColumns} {held : RoleAssignment}
    (represents : RepresentsAssignment row held) : rowToAssignment row = held := by
  rcases represents with ⟨rfl, small⟩
  simp only [rowToAssignment, asUnsigned_asI64 small]

/-- The same rows in some order, or the same failure. -/
def SameRowsListed {α : Type} : StoreResult (List α) → StoreResult (List α) → Prop
  | .ok first, .ok second => first.Perm second
  | .error first, .error second => first = second
  | _, _ => False

def SameRowAnswer : (call : RowCall) → call.Res → call.Res → Prop
  | .list, first, second => SameRowsListed first second
  | _, first, second => first = second

/-- Equal answers, up to the order of listed rows. -/
def SameAnswer : (call : StoreCall) → call.Res → call.Res → Prop
  | .row call, first, second => SameRowAnswer call first second
  | .listAllocations _, first, second => SameRowsListed first second
  | .listRoleAssignments _, first, second => SameRowsListed first second
  | _, first, second => first = second

/-- Arguments are values of their types; new generations and due times stay below a bound. -/
def RowCall.Below (bound : ℕ) (clusters : ClusterTable) : RowCall → Prop
  | .upsertDesired id spec =>
    spec.Fits ∧ nextGeneration (clusters.find? id) spec < bound
  | .recordObservation _ _ generation => generation < 2 ^ 63
  | .recordAttempt _ failureCount nextAttemptAt => failureCount < 2 ^ 32 ∧ nextAttemptAt < bound
  | _ => True

theorem RowCall.Below.mono {clusters : ClusterTable} {call : RowCall} {bound wider : ℕ}
    (below : call.Below bound clusters) (le : bound ≤ wider) : call.Below wider clusters := by
  cases call with
  | upsertDesired id spec => exact ⟨below.1, below.2.trans_le le⟩
  | recordAttempt id failureCount nextAttemptAt => exact ⟨below.1, below.2.trans_le le⟩
  | recordObservation id observed generation => exact below
  | _ => trivial

def OutboxCall.InRange : OutboxCall → Prop
  | .reapIntents appliedBefore => appliedBefore < 2 ^ 63
  | _ => True

namespace SqliteStore

abbrev MirrorsClusters (rows : ClusterRows) (clusters : ClusterTable) : Prop :=
  Table.Mirrors RepresentsCluster rows clusters

variable {rows : ClusterRows} {clusters : ClusterTable} {id : ClusterId} {now : ℕ}

theorem nextGeneration_eq (mirrors : MirrorsClusters rows clusters) (id : ClusterId)
    (spec : ClusterSpec) :
    nextGeneration rows id spec = .ok (ClusterTable.nextGeneration (clusters.find? id) spec) := by
  unfold nextGeneration ClusterTable.nextGeneration
  rcases mirrors.lookup id with
    ⟨noRow, noCluster⟩ | ⟨_, cluster, rowFound, found, ⟨rfl, fits⟩, _⟩
  · rw [noRow, noCluster]
  · have current := decodeColumn_compress cluster.spec.readable_toJson
      (ClusterSpec.fromJson_toJson fits.spec)
    rw [rowFound, found]
    simp only [StoredCluster.columns, current, asUnsigned_asI64 fits.generation, bind, Except.bind]
    split <;> rfl

theorem upsertDesired_simulates {spec : ClusterSpec} (mirrors : MirrorsClusters rows clusters)
    (small : now < 2 ^ 64) (fits : spec.Fits)
    (bounded : ClusterTable.nextGeneration (clusters.find? id) spec < 2 ^ 64) :
    (upsertDesired id spec now rows).1 =
        .ok (ClusterTable.nextGeneration (clusters.find? id) spec) ∧
      MirrorsClusters (upsertDesired id spec now rows).2
        (ClusterTable.upsertDesired clusters id spec now) := by
  simp [upsertDesired, transaction, nextGeneration_eq mirrors, bind, Except.bind, insertOrUpdate]
  rcases mirrors.lookup id with
    ⟨noRow, noCluster⟩ | ⟨_, cluster, rowFound, found, ⟨rfl, clusterFits⟩, _, sameId⟩
  · simp only [noRow, ClusterTable.upsertDesired, noCluster] at bounded ⊢
    refine mirrors.insert ⟨?_, ?_⟩ rfl
    · simp [StoredCluster.columns, ClusterTable.upsertedRow, DesiredState.asStr]
    · exact ⟨fits, bounded, by simp [ClusterTable.upsertedRow], by simp [ClusterTable.upsertedRow],
        by simp [ClusterTable.upsertedRow], small, by simp [ClusterTable.upsertedRow]⟩
  · simp only [rowFound, ClusterTable.upsertDesired, found] at bounded ⊢
    refine mirrors.insert ⟨?_, ?_⟩ sameId
    · simp [StoredCluster.columns, ClusterTable.upsertedRow, sameId]
    · exact { clusterFits with spec := fits, generation := bounded }

theorem get_eq (mirrors : MirrorsClusters rows clusters) (id : ClusterId) :
    get rows id = .ok (clusters.find? id) := by
  unfold get
  rcases mirrors.lookup id with
    ⟨noRow, noCluster⟩ | ⟨row, cluster, rowFound, found, represents, _⟩
  · rw [noRow, noCluster]
  · simp [rowFound, found, rowToCluster_eq represents, Except.map]

theorem withDesired_represents {row : ClusterColumns} {cluster : StoredCluster}
    (represents : RepresentsCluster row cluster) (desired : DesiredState) (small : now < 2 ^ 64) :
    RepresentsCluster
      { row with
        desired := desired.asStr
        terminatedAt :=
          if desired = .terminated then some (row.terminatedAt.getD (asI64 now)) else none }
      (withDesired desired now cluster) := by
  rcases represents with ⟨rfl, fits⟩
  by_cases terminated : desired = .terminated
  · cases stamped : cluster.terminatedAt with
    | none =>
      refine ⟨by simp [StoredCluster.columns, withDesired, terminated, stamped],
        { fits with terminatedAt := ?_ }⟩
      simpa [withDesired, terminated, stamped] using small
    | some earlier =>
      refine ⟨by simp [StoredCluster.columns, withDesired, terminated, stamped],
        { fits with terminatedAt := ?_ }⟩
      simpa [withDesired, terminated, stamped] using fits.terminatedAt earlier stamped
  · refine ⟨by simp [StoredCluster.columns, withDesired, terminated],
      { fits with terminatedAt := ?_ }⟩
    simp [withDesired, terminated]

theorem setDesired_simulates {desired : DesiredState} (mirrors : MirrorsClusters rows clusters)
    (small : now < 2 ^ 64) : MirrorsClusters (setDesired rows id desired now).2
      (ClusterTable.setDesired clusters id desired now) := by
  unfold setDesired
  rw [apply_ite Prod.snd, ite_self]
  apply mirrors.update_key
  · exact fun _ => rfl
  · exact fun _ => rfl
  · exact fun row cluster represents => withDesired_represents represents desired small

theorem setDesired_answer {desired : DesiredState} (mirrors : MirrorsClusters rows clusters) :
    (setDesired rows id desired now).1 =
      if clusters.find? id = none then .error ⟨"no such cluster " ++ id⟩ else .ok () := by
  unfold setDesired
  simp only [mirrors.affected_key_eq_zero id]
  split <;> rfl

section

variable (mirrors : MirrorsClusters rows clusters)

include mirrors

theorem recordObservation_simulates {observed : Option ClusterState} {generation : ℕ}
    (small : generation < 2 ^ 63) :
    MirrorsClusters (recordObservation rows id observed generation).2
      (ClusterTable.recordObservation clusters id observed generation) := by
  apply mirrors.update_key
  · exact fun _ => rfl
  · exact fun _ => rfl
  rintro row cluster ⟨rfl, fits⟩
  have largest : max cluster.observedGeneration generation < 2 ^ 63 :=
    max_lt fits.observedGeneration small
  have same : max (asI64 cluster.observedGeneration) (asI64 generation) =
      asI64 (max cluster.observedGeneration generation) := by
    rw [asI64_of_lt fits.observedGeneration, asI64_of_lt small, asI64_of_lt largest]
    push_cast
    rfl
  refine ⟨?_, { fits with observedGeneration := largest }⟩
  simp [StoredCluster.columns, ClusterTable.withObservation, same]

theorem setCondition_simulates {condition : Option DriftCondition} :
    MirrorsClusters (setCondition rows id condition).2
      (ClusterTable.setCondition clusters id condition) := by
  apply mirrors.update_key
  · exact fun _ => rfl
  · exact fun _ => rfl
  rintro row cluster ⟨rfl, fits⟩
  exact ⟨rfl, { fits with }⟩

theorem recordAttempt_simulates {failureCount nextAttemptAt : ℕ} (count : failureCount < 2 ^ 32)
    (time : nextAttemptAt < 2 ^ 64) :
    MirrorsClusters (recordAttempt rows id failureCount nextAttemptAt).2
      (ClusterTable.recordAttempt clusters id failureCount nextAttemptAt) := by
  apply mirrors.update_key
  · exact fun _ => rfl
  · exact fun _ => rfl
  rintro row cluster ⟨rfl, fits⟩
  exact ⟨rfl, { fits with failureCount := count, nextAttemptAt := time }⟩

theorem removeCluster_simulates : (removeCluster rows id).1 = .ok (clusters.find? id).isSome ∧
      MirrorsClusters (removeCluster rows id).2 (clusters.erase id) := by
  refine ⟨?_, ?_⟩
  · have none := mirrors.affected_key_eq_zero id
    rcases found : clusters.find? id with _ | cluster
    · simp [removeCluster, none.mpr found]
    have some : rows.affected (fun row => row.id = id) ≠ 0 := by
      rw [Ne, none, found]
      simp
    simp [removeCluster, Nat.pos_of_ne_zero some]
  · refine mirrors.retain fun row cluster _ sameKey => ?_
    rw [sameKey]

theorem execRow_simulates (small : now < 2 ^ 64)
    {call : RowCall} (storable : call.Below (2 ^ 64) clusters) :
    SameRowAnswer call (execRow call rows now).1 (Mobula.execRow call clusters now).1 ∧
      MirrorsClusters (execRow call rows now).2 (Mobula.execRow call clusters now).2 := by
  cases call with
  | upsertDesired id spec => exact upsertDesired_simulates mirrors small storable.1 storable.2
  | get id => exact ⟨get_eq mirrors id, mirrors⟩
  | list =>
    rcases mirrors.decoded fun _ _ => rowToCluster_eq with ⟨listed, reordered, read⟩
    refine ⟨?_, mirrors⟩
    simpa [SameRowAnswer, SameRowsListed, execRow, Mobula.execRow, read] using reordered
  | setDesired id desired =>
    have answer := @setDesired_answer rows clusters id now desired mirrors
    have kept := @setDesired_simulates rows clusters id now desired mirrors small
    cases found : clusters.find? id with
    | none =>
      have unchanged : ClusterTable.setDesired clusters id desired now = clusters := by
        simp [ClusterTable.setDesired, Table.modify, found]
      rw [unchanged] at kept
      simpa [SameRowAnswer, execRow, Mobula.execRow, found] using
        ⟨answer.trans (if_pos found), kept⟩
    | some cluster =>
      have present : clusters.find? id ≠ none := by simp [found]
      simpa [SameRowAnswer, execRow, Mobula.execRow, found] using
        ⟨answer.trans (if_neg present), kept⟩
  | removeCluster id => exact removeCluster_simulates mirrors
  | recordObservation id observed generation =>
    exact ⟨rfl, recordObservation_simulates mirrors storable⟩
  | setCondition id condition => exact ⟨rfl, setCondition_simulates mirrors⟩
  | recordAttempt id failureCount nextAttemptAt =>
    exact ⟨rfl, recordAttempt_simulates mirrors storable.1 storable.2⟩

end

abbrev MirrorsIntents (rows : IntentRows) (intents : IntentTable) : Prop :=
  Table.Mirrors RepresentsIntent rows intents

variable {outbox : IntentRows} {intents : IntentTable} {key : String}

theorem beginIntent_simulates {fingerprint : String} (mirrors : MirrorsIntents outbox intents)
    (small : now < 2 ^ 63) : (beginIntent key fingerprint now outbox).1 =
        .ok (IntentTable.beginIntent intents key fingerprint now).1 ∧
      MirrorsIntents (beginIntent key fingerprint now outbox).2
        (IntentTable.beginIntent intents key fingerprint now).2 := by
  unfold beginIntent transaction IntentTable.beginIntent
  rcases mirrors.lookup key with
    ⟨noRow, noRecord⟩ | ⟨_, record, rowFound, found, ⟨rfl, fits⟩, _⟩
  · simp [noRow, noRecord]
    exact mirrors.insert ⟨rfl, small.trans (by decide), by simp⟩ rfl
  · simp [rowFound, found, IntentRecord.columns]
    by_cases same : record.paramsFingerprint = fingerprint <;> simpa [same] using mirrors

theorem completeIntent_simulates {response : String} (mirrors : MirrorsIntents outbox intents)
    (small : now < 2 ^ 63) : MirrorsIntents (completeIntent outbox key response now).2
      (IntentTable.completeIntent intents key response now) := by
  apply mirrors.update_key
  · exact fun _ => rfl
  · exact fun _ => rfl
  rintro row record ⟨rfl, fits⟩
  exact ⟨rfl, { fits with completedAt := by simpa using small }⟩

theorem isReapable_eq {row : IntentColumns} {record : IntentRecord} {appliedBefore : ℕ}
    (represents : RepresentsIntent row record) (small : appliedBefore < 2 ^ 63) :
    isReapable appliedBefore row = IntentTable.isReapable appliedBefore record := by
  rcases represents with ⟨rfl, fits⟩
  have status : (record.status.asStr = "applied") ↔ record.status = .applied := by
    cases record.status <;> decide
  rcases completed : record.completedAt with _ | time
  · simp [isReapable, IntentTable.isReapable, IntentRecord.columns, completed]
  have bounded := fits.completedAt time completed
  simp [isReapable, IntentTable.isReapable, IntentRecord.columns, completed, status,
    asI64_of_lt bounded, asI64_of_lt small]

theorem reapIntents_simulates {appliedBefore : ℕ} (mirrors : MirrorsIntents outbox intents)
    (small : appliedBefore < 2 ^ 63) : (reapIntents outbox appliedBefore).1 =
        .ok (intents.rows.length - (IntentTable.reapIntents intents appliedBefore).rows.length) ∧
      MirrorsIntents (reapIntents outbox appliedBefore).2
        (IntentTable.reapIntents intents appliedBefore) := by
  refine ⟨?_, ?_⟩
  · have picked : outbox.affected (isReapable appliedBefore) =
        (intents.retain (IntentTable.isReapable appliedBefore)).rows.length :=
      (mirrors.retain fun row record represents _ => isReapable_eq represents small).length_eq
    have split := List.length_eq_length_filter_add (l := intents.rows)
      (IntentTable.isReapable appliedBefore)
    simp [reapIntents, picked, IntentTable.reapIntents, retain]
    omega
  · apply mirrors.retain
    intro row record represents _
    rw [isReapable_eq represents small]

theorem execOutbox_simulates (mirrors : MirrorsIntents outbox intents) (small : now < 2 ^ 63)
    {call : OutboxCall} (inRange : call.InRange) :
    (execOutbox call outbox now).1 = (Mobula.execOutbox call intents now).1 ∧
      MirrorsIntents (execOutbox call outbox now).2 (Mobula.execOutbox call intents now).2 := by
  cases call with
  | beginIntent key fingerprint => exact beginIntent_simulates mirrors small
  | completeIntent key response => exact ⟨rfl, completeIntent_simulates mirrors small⟩
  | getIntent key =>
    refine ⟨?_, mirrors⟩
    rcases mirrors.lookup key with
      ⟨noRow, noRecord⟩ | ⟨row, record, rowFound, found, represents, _⟩
    · simp [execOutbox, Mobula.execOutbox, noRow, noRecord]
    · simp [execOutbox, Mobula.execOutbox, rowFound, found, rowToIntent_eq represents]
  | reapIntents appliedBefore => exact reapIntents_simulates mirrors inRange

section Catalogs

variable {store : SqliteStore} {model : Store}

abbrev MirrorsAllocations (store : SqliteStore) (model : Store) : Prop :=
  Table.Mirrors RepresentsAllocation store.allocations model.allocations

abbrev MirrorsAssignments (store : SqliteStore) (model : Store) : Prop :=
  Table.Mirrors RepresentsAssignment store.roleAssignments model.assignments

/-- Every table of the SQLite store represents that of the in-memory store. -/
structure Represents (store : SqliteStore) (model : Store) : Prop where
  clusters : MirrorsClusters store.clusters model.clusters
  intents : MirrorsIntents store.intents model.intents
  quarantined : store.isQuarantined = model.quarantined
  allocations : MirrorsAllocations store model
  assignments : MirrorsAssignments store model

theorem isQuarantined_setQuarantine (quarantined : Bool) :
    (store.setQuarantine quarantined).isQuarantined = quarantined := by
  cases found : store.control.find? "quarantine" with
  | none =>
    cases quarantined <;>
      simp [isQuarantined, setQuarantine, insertOrUpdate, found, find?_insert]
  | some row =>
    have sameKey : "quarantine" = row.key := (key_of_find? found).symm
    cases quarantined <;>
      simp [isQuarantined, setQuarantine, insertOrUpdate, found, find?_insert, ← sameKey]

theorem upsertAllocation_simulates {allocation : AllocationSpec}
    (mirrors : MirrorsAllocations store model) (fits : allocation.Fits) :
    Table.Mirrors RepresentsAllocation (store.upsertAllocation allocation).allocations
      (model.allocations.insert allocation) := by
  apply mirrors.insertOrUpdate
  · rfl
  · exact ⟨rfl, fits⟩
  · intro existing sameKey
    simp at sameKey
    simp [RepresentsAllocation, sameKey.1, sameKey.2, fits]

theorem listAllocations_simulates (mirrors : MirrorsAllocations store model) (pool : String) :
    SameRowsListed (store.listAllocations pool) (.ok (model.allocationsOf pool)) := by
  have selected : Mirrors RepresentsAllocation (store.allocations.retain fun row => row.pool = pool)
      (model.allocations.retain fun allocation => allocation.pool = pool) := by
    apply mirrors.retain
    rintro row allocation ⟨rfl, _⟩ _
    rfl
  rcases selected.decoded fun _ _ => rowToAllocation_eq with ⟨listed, reordered, read⟩
  simp only [listAllocations, read]
  exact reordered

theorem deleteAllocation_simulates (represents : store.Represents model) (pool project : String) :
    (store.deleteAllocation pool project).1 = (model.exec (.deleteAllocation pool project) now).1 ∧
      (store.deleteAllocation pool project).2.Represents
        (model.exec (.deleteAllocation pool project) now).2 := by
  have picked : (fun row : AllocationColumns => row.pool = pool && row.project = project) =
      fun row => decide ((row.pool, row.project) = (pool, project)) := by
    funext row
    simp
  have deleted : Mirrors RepresentsAllocation
      (store.allocations.retain fun row => !(row.pool = pool && row.project = project))
      (model.allocations.erase (pool, project)) := by
    apply represents.allocations.retain
    intro row allocation _ sameKey
    rw [congrFun picked row, sameKey]
    rfl
  simp only [deleteAllocation, picked, represents.allocations.affected_key_eq_zero, Store.exec,
    execAdmin, Store.catalog]
  cases found : model.allocations.find? (pool, project) with
  | none =>
    rw [erase_of_find?_eq_none found] at deleted
    exact ⟨rfl, { represents with allocations := deleted }⟩
  | some _ => exact ⟨rfl, { represents with allocations := deleted }⟩

theorem upsertRoleAssignment_simulates {principal role scope : String}
    (mirrors : MirrorsAssignments store model) (small : now < 2 ^ 64) :
    MirrorsAssignments (store.upsertRoleAssignment principal role scope now)
      (model.upsertRoleAssignment principal role scope now) := by
  simp only [MirrorsAssignments, upsertRoleAssignment, insertOrIgnore, Store.upsertRoleAssignment]
  rcases mirrors.lookup (principal, role, scope) with
    ⟨noRow, noneHeld⟩ | ⟨row, held, rowFound, found, represents, _, sameKey⟩
  · rw [noRow, noneHeld]
    exact mirrors.insert ⟨rfl, small⟩ rfl
  · rw [rowFound, found]
    -- the stored assignment is stored once more
    have same : (⟨principal, role, scope, held.createdAt⟩ : RoleAssignment) = held := by
      simp at sameKey
      simp [← sameKey.1, ← sameKey.2.1, ← sameKey.2.2]
    intro wanted
    simp [same, find?_insert, sameKey]
    split
    case isTrue isHeld =>
      rw [isHeld, rowFound]
      exact .some represents
    case isFalse => exact mirrors wanted

theorem listRoleAssignments_simulates (mirrors : MirrorsAssignments store model)
    (principal : Option String) :
    (store.listRoleAssignments principal).Perm (model.listRoleAssignments principal) := by
  have selected : Mirrors RepresentsAssignment
      (store.roleAssignments.retain fun row => principal.all (row.principal = ·))
      (model.assignments.retain fun held => principal.all (held.principal = ·)) := by
    apply mirrors.retain
    rintro row held ⟨rfl, _⟩ _
    rfl
  have read := selected.mapped fun _ _ => rowToAssignment_eq
  exact ((List.perm_insertionSort _ _).trans read).trans (List.perm_insertionSort _ _).symm

theorem deleteRoleAssignment_simulates (represents : store.Represents model)
    (principal role scope : String) : (store.deleteRoleAssignment principal role scope).1 =
        (model.deleteRoleAssignment principal role scope).1 ∧
      (store.deleteRoleAssignment principal role scope).2.Represents
        (model.deleteRoleAssignment principal role scope).2 := by
  have picked : (fun row : AssignmentColumns =>
      row.principal = principal && row.role = role && row.scope = scope) =
      fun row => decide ((row.principal, row.role, row.scope) = (principal, role, scope)) := by
    funext row
    simp [Bool.and_assoc]
  have deleted : Mirrors RepresentsAssignment (store.roleAssignments.retain fun row =>
        !(row.principal = principal && row.role = role && row.scope = scope))
      (model.assignments.erase (principal, role, scope)) := by
    apply represents.assignments.retain
    intro row held _ sameKey
    rw [congrFun picked row, sameKey]
    rfl
  simp only [deleteRoleAssignment, picked, represents.assignments.affected_key_eq_zero,
    Store.deleteRoleAssignment]
  cases found : model.assignments.find? (principal, role, scope) with
  | none =>
    rw [erase_of_find?_eq_none found] at deleted
    exact ⟨rfl, { represents with assignments := deleted }⟩
  | some _ => exact ⟨rfl, { represents with assignments := deleted }⟩

end Catalogs

end SqliteStore

open SqliteStore

/-- The call is made with values of their types, and no number it stores reaches 2⁶³. -/
def StoreCall.InRange (store : Store) : StoreCall → Prop
  | .row call => call.Below (2 ^ 63) store.clusters
  | .outbox call => call.InRange
  | .upsertAllocation allocation => allocation.Fits
  | _ => True

theorem SqliteStore.exec_simulates {store : SqliteStore} {model : Store} {now : ℕ}
    (represents : store.Represents model) (small : now < 2 ^ 63) {call : StoreCall}
    (inRange : call.InRange model) :
    SameAnswer call (store.exec call now).1 (model.exec call now).1 ∧
      (store.exec call now).2.Represents (model.exec call now).2 := by
  cases call with
  | row call =>
    rcases execRow_simulates represents.clusters
      (small.trans (by decide)) (inRange.mono (by decide)) with ⟨answers, still⟩
    exact ⟨answers, { represents with clusters := still }⟩
  | outbox call =>
    rcases execOutbox_simulates represents.intents small inRange with ⟨answers, still⟩
    exact ⟨answers, { represents with intents := still }⟩
  | isQuarantined => exact ⟨congrArg Except.ok represents.quarantined, represents⟩
  | setQuarantine quarantined =>
    exact ⟨rfl, { represents with quarantined := isQuarantined_setQuarantine quarantined }⟩
  | upsertAllocation allocation =>
    exact ⟨rfl, { represents with
      allocations := upsertAllocation_simulates represents.allocations inRange }⟩
  | listAllocations pool =>
    exact ⟨listAllocations_simulates represents.allocations pool, represents⟩
  | deleteAllocation pool project => exact deleteAllocation_simulates represents pool project
  | upsertRoleAssignment principal role scope =>
    exact ⟨rfl, { represents with
      assignments := upsertRoleAssignment_simulates represents.assignments
        (small.trans (by decide)) }⟩
  | listRoleAssignments principal =>
    exact ⟨listRoleAssignments_simulates represents.assignments principal, represents⟩
  | deleteRoleAssignment principal role scope =>
    exact deleteRoleAssignment_simulates represents principal role scope

/-- Operations come with the clock reading they are made at. -/
def SqliteStore.machine : Machine (fun op : StoreCall × ℕ => op.1.Res) SqliteStore :=
  fun op store => store.exec op.1 op.2

def Store.machine : Machine (fun op : StoreCall × ℕ => op.1.Res) Store :=
  fun op store => store.exec op.1 op.2

def InRange (op : StoreCall × ℕ) (store : Store) : Prop :=
  op.2 < 2 ^ 63 ∧ op.1.InRange store

theorem SqliteStore.represents_empty : SqliteStore.empty.Represents Store.empty where
  clusters := Mirrors.empty
  intents := Mirrors.empty
  quarantined := rfl
  allocations := Mirrors.empty
  assignments := Mirrors.empty

/-- As long as numbers stay below 2⁶³, the answers of the SQLite store are those of the in-memory
store, the rows of a list in any order. -/
theorem sqlite_refines_memory {ops : List (StoreCall × ℕ)}
    (inRange : Store.machine.Admits InRange ops Store.empty) :
    Machine.Agree (fun op => SameAnswer op.1) SqliteStore.machine Store.machine ops
      SqliteStore.empty Store.empty := by
  apply Machine.agree_of_simulation _ represents_empty inRange
  intro op store model represents admitted
  exact exec_simulates represents admitted.1 admitted.2

theorem headOnly_fits {project : String} : (headOnly project).Fits where
  workerGroups := by simp [headOnly]
  ttlSeconds := by simp [headOnly]
  idleTimeoutSecs := by simp [headOnly]

/-- One cluster created, observed, terminated and listed. -/
theorem sqlite_refines_memory_lifetime :
    Machine.Agree (fun op => SameAnswer op.1) SqliteStore.machine Store.machine
      [(.row (.upsertDesired "c1" (headOnly "p")), 5),
        (.row (.recordObservation "c1" (some .running) 1), 6),
        (.row (.setDesired "c1" .terminated), 7),
        (.row .list, 8)] SqliteStore.empty Store.empty := by
  apply sqlite_refines_memory
  exact ⟨⟨by decide, headOnly_fits, (by decide : 1 < 2 ^ 63)⟩,
    ⟨by decide, (by decide : 1 < 2 ^ 63)⟩, ⟨by decide, trivial⟩, ⟨by decide, trivial⟩, trivial⟩

end Mobula
