import Mobula.Api.Access
import Mobula.Controller.Reconcile
import Mathlib.Data.List.Infix

/-!
# Cluster requests

The handlers behind `POST /api/v1/clusters`, `DELETE /api/v1/clusters/{id}` and the two
lifecycle commands. The project's admission lock is held from before the quota check of a
creation until the response.
-/

namespace Mobula

open Foundation

def storeError : Response := ⟨500, .text "store error"⟩

def noSuchCluster : Response := ⟨404, .text "no such cluster"⟩

variable (seed : PolicyConfig) (identity : Caller)

def subjectOf : Option String :=
  identity.map (·.subject)

def answerWith (decision : AuditDecision) (reason : Option String) (action : String)
    (id : ClusterId) (response : Response) : Program Response := do
  let now ← Calls.nowUnix
  emit { ts := now, subject := subjectOf identity, decision := decision, reason := reason,
         action := some action, cluster := some id, status := some response.status }
  return response

def effectivePolicy : Program (StoreResult (Option StoredPolicy)) := do
  match ← Calls.getPolicy with
  | .error failure => return .error failure
  | .ok (some policy) => return .ok (some policy)
  | .ok none =>
    match seedFromConfig seed with
    | none => return .ok none
    | some policy =>
      match ← Calls.seedPolicy policy with
      | .error failure => return .error failure
      | .ok true => return .ok (some policy)
      | .ok false => Calls.getPolicy

def groupSamples (samples : List UsageSample) : SeriesTable :=
  samples.foldl
    (fun series sample =>
      let key := (sample.pool, sample.resource)
      let readings := ((series.find? key).map Prod.snd).getD []
      series.insert (key, readings ++ [(sample.ts, sample.quantity)]))
    .empty

/-- What a project has used in a window of time. -/
def windowedConsumption (project : String) (start stop : ℕ) :
    Program (StoreResult ResourceMap) := do
  match ← Calls.usageSamples (some project) none 0 stop with
  | .error failure => return .error failure
  | .ok samples => return .ok (windowedResourceHours (groupSamples samples) start stop)

/-- The outcome of a gate: pass, or answer the request. -/
inductive Gate where
  | pass
  | answer (response : Response)

def gpuGateIn (seed : PolicyConfig) (identity : Caller) (id : ClusterId)
    (spec : ClusterSpec) : List StoredPool → Program Gate
  | [] => return .pass
  | pool :: pools => do
      match ← Calls.listAllocations pool.name with
      | .error _ => return .answer storeError
      | .ok allocations =>
        if allocations.any (·.project = spec.project) then
          match checkClusterGpuIsolation pool.spec seed.gpuDefaultSharing allocations.length
            spec with
          | .ok () => return .pass
          | .error violation =>
            return .answer (← answerWith identity .deny (some "gpu_tenant_isolation")
              "create_cluster" id ⟨400, .gpuSharing violation⟩)
        else gpuGateIn seed identity id spec pools

variable (id : ClusterId)

def gpuGate (spec : ClusterSpec) : Program Gate := do
  match ← Calls.listPools with
  | .error _ => return .answer storeError
  | .ok pools => gpuGateIn seed identity id spec pools

def otherLive (project : String) (id : ClusterId) (rows : List StoredCluster) :
    List ClusterSpec :=
  (rows.filter fun row =>
    row.spec.project = project && row.id ≠ id && row.desired = .running).map (·.spec)

def accountingFailed : Response :=
  ⟨500, .text "quota accounting failed: an existing cluster has an invalid spec"⟩

/-- Admit the request against the quota; the caller holds the project's lock. -/
def quotaGate (spec : ClusterSpec) (limit : ResourceMap) : Program Gate :=
  match clusterDemand spec with
  | .error failure => return .answer ⟨400, .invalidSpec failure⟩
  | .ok (_, requested) => do
      match ← Calls.list with
      | .error _ => return .answer storeError
      | .ok rows =>
        match sumMaxDemand (otherLive spec.project id rows) with
        | .error _ => return .answer accountingFailed
        | .ok inUse =>
          match admitQuota spec.project limit inUse requested with
          | .ok () => return .pass
          | .error exceeded =>
            return .answer (← answerWith identity .deny (some "quota_exceeded")
              "create_cluster" id ⟨409, .quota exceeded⟩)

def budgetGate (project : String) : Option Budget → Program Gate
  | none => return .pass
  | some budget => do
      let stop ← Calls.nowUnix
      match ← windowedConsumption project (stop - budget.windowSecs) stop with
      | .error _ => return .answer storeError
      | .ok consumed =>
        match admitBudget project budget consumed with
        | .ok () => return .pass
        | .error exceeded =>
          return .answer (← answerWith identity .deny (some "budget_exceeded")
            "create_cluster" id ⟨409, .budget exceeded⟩)

def noteQueue (project : String) : Program Unit := do
  match ← queueAssignmentForProject project with
  | .ok (some _) =>
    let now ← Calls.nowUnix
    emit { ts := now, subject := subjectOf identity, action := some "queue_assign",
           cluster := some id }
  | _ => return ()

def createdBody (generation : ℕ) : Body :=
  .json (.object [("id", .str id), ("generation", .nat generation)])

def storeCluster (spec : ClusterSpec) : Program Response := do
  match ← Calls.upsertDesired id spec with
  | .error _ => return storeError
  | .ok generation =>
    let response ← answerWith identity .allow none "create_cluster" id
      ⟨201, createdBody id generation⟩
    noteQueue identity id spec.project
    return response

def budgetThenStore (spec : ClusterSpec) (budget : Option Budget) : Program Response := do
  match ← budgetGate identity id spec.project budget with
  | .answer response => return response
  | .pass => storeCluster identity id spec

def quotaThenStore (spec : ClusterSpec) (limit : ResourceMap) (budget : Option Budget)
    : Program Response := do
  match ← quotaGate identity id spec limit with
  | .answer response => return response
  | .pass => budgetThenStore identity id spec budget

/-- The rest of a creation; a project with a quota admits one request at a time. -/
def admitAndStore (spec : ClusterSpec) (policy : Option StoredPolicy) : Program Response :=
  match quotaFor policy spec.project with
  | none => budgetThenStore identity id spec (budgetFor policy spec.project)
  | some limit => do
      Calls.lockAdmit spec.project
      let response ← quotaThenStore identity id spec limit (budgetFor policy spec.project)
      Calls.unlockAdmit spec.project
      return response

def isolateThenStore (spec : ClusterSpec) (policy : Option StoredPolicy) : Program Response := do
  match ← gpuGate seed identity id spec with
  | .answer response => return response
  | .pass => admitAndStore identity id spec policy

structure CreateCluster where
  id : ClusterId
  spec : ClusterSpec
  deriving DecidableEq, Repr

/-- The specification that is stored: the owner is who asked, not what the body says. -/
def CreateCluster.ownedSpec (body : CreateCluster) (identity : Caller) : ClusterSpec :=
  { body.spec with owner := identity.map (·.owner) }

def createCluster (body : CreateCluster) : Program Response := do
  match ← authorizeScoped identity .write .cluster body.spec.project with
  | some denial => return denial
  | none =>
    let spec := body.ownedSpec identity
    match ← effectivePolicy seed with
    | .error _ => return storeError
    | .ok policy => isolateThenStore seed identity body.id spec policy

def purgeCluster (stored : StoredCluster) : Program Response :=
  if stored.desired = .terminated ∧ observedGone stored.observedState then do
    match ← Calls.removeCluster id with
    | .error _ => return storeError
    | .ok true =>
      answerWith identity .allow none "purge_cluster" id
        ⟨200, .text "cluster tombstone purged"⟩
    | .ok false => return noSuchCluster
  else
    return ⟨409, .text "cannot purge a live cluster: it must be terminated and observed gone first"⟩

def deleteCluster (purge : Bool) : Program Response := do
  match ← Calls.get id with
  | .error _ => return storeError
  | .ok none => return noSuchCluster
  | .ok (some stored) =>
    match ← authorizeScoped identity .write .cluster stored.spec.project with
    | some denial => return denial
    | none =>
      if purge then purgeCluster identity id stored
      else
        match ← Calls.setDesired id .terminated with
        | .ok () => answerWith identity .allow none "delete_cluster" id ⟨202, .empty⟩
        | .error failure =>
          if "no such cluster".toList.IsInfix failure.backend.toList then
            return noSuchCluster
          else return storeError

inductive LifecycleCommand where
  | suspend
  | resume
  deriving DecidableEq, Repr

namespace LifecycleCommand

def desired : LifecycleCommand → DesiredState
  | .suspend => .suspended
  | .resume => .running

def action : LifecycleCommand → String
  | .suspend => "suspend_cluster"
  | .resume => "resume_cluster"

def transitionalState : LifecycleCommand → ClusterState
  | .suspend => .suspending
  | .resume => .provisioning

/-- Whether the command starts a legal edge from a row as it was read. -/
def legal (command : LifecycleCommand) (row : StoredCluster) : Bool :=
  row.desired ≠ .terminated && row.observedState.any (·.canTransition command.transitionalState)

end LifecycleCommand

def ClusterState.toJson (state : ClusterState) : Json :=
  .str state.asStr

def queueOwned (queue : QueueAssignment) : Response :=
  ⟨409, .json (.object
    [("error", .str "queue_owned_suspend"),
      ("message", .str ("cluster's project is admitted through queue '" ++ queue.queueName ++
        "' — Kueue owns suspend there"))])⟩

def illegalTransition (source : Option ClusterState) (target : ClusterState) : Response :=
  ⟨409, .json (.object
    [("error", .str "illegal_state_transition"), ("from", .option ClusterState.toJson source),
      ("to", target.toJson)])⟩

def lifecycleBody (command : LifecycleCommand) (row : StoredCluster) : Body :=
  .json (.object
    [("id", .str id), ("state", command.transitionalState.toJson),
      ("generation", .nat row.generation)])

def lifecycleCommand (command : LifecycleCommand) : Program Response := do
  match ← authorize identity .write .cluster with
  | some denial => return denial
  | none =>
    match ← Calls.get id with
    | .error _ => return storeError
    | .ok none => return noSuchCluster
    | .ok (some row) =>
      match ← queueAssignmentForProject row.spec.project with
      | .error _ => return storeError
      | .ok (some queue) =>
        answerWith identity .deny (some "queue_owned_suspend") command.action id
          (queueOwned queue)
      | .ok none =>
        if command.legal row then
          match ← Calls.setDesired id command.desired with
          | .error _ => return storeError
          | .ok () =>
            answerWith identity .allow none command.action id
              ⟨202, lifecycleBody id command row⟩
        else
          answerWith identity .deny (some "illegal_state_transition") command.action id
            (illegalTransition row.observedState command.transitionalState)

end Mobula
