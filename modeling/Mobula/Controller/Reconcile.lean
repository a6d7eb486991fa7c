import Mobula.Controller.World

/-!
# The reconcile loop

The level-triggered loop over cluster rows. A tick first reaps expired clusters, old intents and
dead tombstones, then reconciles every row. A failing step ends the function it occurs in; the
loops over rows collect failures per row or stop at the first one, as the source does.
-/

namespace Mobula

open Foundation

def INTENT_RETENTION_SECS : ℕ := 3600

def BACKOFF_BASE_SECS : ℕ := 5

def BACKOFF_CEIL_SECS : ℕ := 300

def saturatingAdd (bits first second : ℕ) : ℕ :=
  min (first + second) (2 ^ bits - 1)

def backoffSecs (failureCount : ℕ) : ℕ :=
  min (BACKOFF_BASE_SECS * 2 ^ min (failureCount - 1) 20) BACKOFF_CEIL_SECS

def observedGone : Option ClusterState → Bool
  | none => true
  | some .terminated => true
  | some _ => false

variable (row : StoredCluster) (now : ℕ)

def isPurgeableTombstone (retention : ℕ) : Bool :=
  row.desired = .terminated && observedGone row.observedState &&
    row.terminatedAt.any fun stamp => retention ≤ now - stamp

def isExpired : Bool :=
  row.desired = .running && row.observedState = some .running &&
    row.spec.ttlSeconds.any fun ttl => ttl ≤ now - row.createdAt

def jobIsTerminal (status : String) : Bool :=
  let upper := status.toList.map Char.toUpper
  upper = "SUCCEEDED".toList || upper = "FAILED".toList || upper = "STOPPED".toList

def lastActivityAt (last : ℕ) (jobs : List JobRecord) (now : ℕ) : ℕ :=
  match jobs with
  | [] => last
  | job :: jobs =>
    if jobIsTerminal job.status then
      lastActivityAt (max last (saturatingAdd 64 job.submittedAt (job.durationSecs.getD 0)))
        jobs now
    else now

def isIdleExpired (lastActivity now : ℕ) : Bool :=
  row.desired = .running && row.observedState = some .running &&
    row.spec.idleTimeoutSecs.any fun idle => idle ≤ now - lastActivity

/-- Whether the specification has to be applied, given what was observed. -/
def needsApply (observed : Option ClusterState) (observedGeneration desiredGeneration : ℕ)
    (queued : Bool) : Bool :=
  match observed with
  | none => true
  | some .terminated => true
  | some .terminating => true
  | some .suspended => !queued
  | some _ => observedGeneration < desiredGeneration

inductive ReconcileError where
  | store (error : StoreError)
  | provision (error : ProvisionError)
  | staleIntent (key : String)
  deriving DecidableEq, Repr

/-- What a reconcile step has done. -/
inductive Action where
  | noOp
  | applied
  | terminated
  | suspended
  | drift
  | backoff
  deriving DecidableEq, Repr

abbrev ReconcileResult (α : Type) := Except ReconcileError α

def queueAssignmentIn (project : String) :
    List StoredPool → Program (StoreResult (Option QueueAssignment))
  | [] => return .ok none
  | pool :: pools => do
      match ← Calls.listAllocations pool.name with
      | .error failure => return .error failure
      | .ok allocations =>
        match allocations.find? (·.project = project) with
        | some allocation => return .ok (some ⟨allocation.project, pool.spec.elastic⟩)
        | none => queueAssignmentIn project pools

def queueAssignmentForProject (project : String) :
    Program (StoreResult (Option QueueAssignment)) := do
  match ← Calls.listPools with
  | .error failure => return .error failure
  | .ok pools => queueAssignmentIn project pools

/-- An absent backing cluster is an observation, not a failure. -/
def observation : ProvisionResult ObservedCluster → ProvisionResult (Option ObservedCluster)
  | .ok cluster => .ok (some cluster)
  | .error (.notFound _) => .ok none
  | .error failure => .error failure

variable (observed : Option ObservedCluster)

/-- The generation the provider reports, zero if it does not. -/
def observedGenerationOf : ℕ :=
  (observed.bind (·.observedGeneration)).getD 0

inductive Decision where
  | stop (action : Action)
  | settle (action : Action) (condition : Option DriftCondition)
  deriving DecidableEq, Repr

def applyThroughOutbox (queue : Option QueueAssignment) : Program (ReconcileResult Decision) := do
  let key := row.intentKey
  match ← Calls.beginIntent key (paramsFingerprint row.spec) with
  | .error failure => return .error (.store failure)
  | .ok .paramMismatch => return .error (.staleIntent key)
  | .ok (.proceed _) =>
    match ← Calls.ensureNamespacePosture with
    | .error failure => return .error (.provision failure)
    | .ok () =>
      match ← Calls.apply row.id row.spec row.generation key queue with
      | .error failure => return .error (.provision failure)
      | .ok response =>
        match ← Calls.completeIntent key response.toJson.compress with
        | .error failure => return .error (.store failure)
        | .ok () => return .ok (.settle .applied none)

/-- The condition of a live cluster at the desired generation. -/
def driftCheck : Decision :=
  match observed.bind (·.specFingerprint) with
  | some fingerprint =>
    if fingerprint ≠ ownedSpecFingerprint row.spec then .settle .drift (some .specDrift)
    else .settle .noOp none
  | none => .settle .noOp none

def decideRunning (queue : Option QueueAssignment) : Program (ReconcileResult Decision) :=
  if observed.map (·.state) = some .degraded then
    return .ok (.settle .drift (some .degraded))
  else if needsApply (observed.map (·.state)) (observedGenerationOf observed) row.generation
      queue.isSome then do
    match ← Calls.takeToken now with
    | false => return .ok (.stop .backoff)
    | true => applyThroughOutbox row queue
  else return .ok (driftCheck row observed)

def decideTerminated : Program (ReconcileResult Decision) :=
  if observed.any (·.state ≠ .terminated) then do
    match ← Calls.terminate row.id with
    | .error failure => return .error (.provision failure)
    | .ok () => return .ok (.settle .terminated none)
  else return .ok (.settle .noOp none)

def suspendDone : ClusterState → Bool
  | .suspended => true
  | .terminated => true
  | .terminating => true
  | _ => false

def decideSuspended (queue : Option QueueAssignment) : Program (ReconcileResult Decision) :=
  if queue.isSome then return .ok (.settle .noOp none)
  else if observed.any (!suspendDone ·.state) then do
    match ← Calls.suspend row.id with
    | .error failure => return .error (.provision failure)
    | .ok () => return .ok (.settle .suspended none)
  else return .ok (.settle .noOp none)

def decideAction (queue : Option QueueAssignment) : Program (ReconcileResult Decision) :=
  match row.desired with
  | .running => decideRunning row now observed queue
  | .terminated => decideTerminated row observed
  | .suspended => decideSuspended row observed queue

/-- Whether an actuated or converged running cluster made progress. -/
def progressed (action : Action) (desired : DesiredState) (final : Option ClusterState) :
    Option Bool :=
  match action with
  | .applied =>
    some (match final with
      | none => false
      | some .terminated => false
      | some .terminating => false
      | some _ => true)
  | .noOp => if desired = .running then some true else none
  | _ => none

def accountBackoff (action : Action) (final : Option ClusterState) : Program (StoreResult Unit) :=
  match progressed action row.desired final with
  | some false =>
    let failureCount := saturatingAdd 32 row.failureCount 1
    Calls.recordAttempt row.id failureCount (saturatingAdd 64 now (backoffSecs failureCount))
  | some true =>
    if row.failureCount ≠ 0 ∨ row.nextAttemptAt ≠ 0 then Calls.recordAttempt row.id 0 0
    else return .ok ()
  | none => return .ok ()

def storeCondition (condition : Option DriftCondition) : Program (StoreResult Unit) :=
  if condition ≠ row.condition then Calls.setCondition row.id condition else return .ok ()

def settle (action : Action) (condition : Option DriftCondition) :
    Program (ReconcileResult Action) := do
  match observation (← Calls.observe row.id) with
  | .error failure => return .error (.provision failure)
  | .ok final =>
    match ← Calls.recordObservation row.id (final.map (·.state)) (observedGenerationOf final) with
    | .error failure => return .error (.store failure)
    | .ok () =>
      match ← storeCondition row condition with
      | .error failure => return .error (.store failure)
      | .ok () =>
        match ← accountBackoff row now action (final.map (·.state)) with
        | .error failure => return .error (.store failure)
        | .ok () => return .ok action

/-- The pass over a row that is neither backing off nor quarantined. -/
def actuateRow : Program (ReconcileResult Action) := do
  match ← queueAssignmentForProject row.spec.project with
  | .error failure => return .error (.store failure)
  | .ok queue =>
    match ← decideAction row now observed queue with
    | .error failure => return .error failure
    | .ok (.stop action) => return .ok action
    | .ok (.settle action condition) => settle row now action condition

/-- One step towards the desired state of a listed row. -/
def reconcileOne : Program (ReconcileResult Action) :=
  if row.desired = .running ∧ now < row.nextAttemptAt then return .ok .backoff
  else do
    match observation (← Calls.observe row.id) with
    | .error failure => return .error (.provision failure)
    | .ok observed =>
      match ← Calls.isQuarantined with
      | .error failure => return .error (.store failure)
      | .ok true =>
        match ← Calls.recordObservation row.id (observed.map (·.state))
          (observedGenerationOf observed) with
        | .error failure => return .error (.store failure)
        | .ok () => return .ok .noOp
      | .ok false => actuateRow row now observed

abbrev PassReport := List (String × ReconcileResult Action)

def reconcileRows (now : ℕ) : List StoredCluster → Program PassReport
  | [] => return []
  | row :: rows => do
      let result ← reconcileOne row now
      let others ← reconcileRows now rows
      return (row.id, result) :: others

def reconcileAllAt : Program PassReport := do
  match ← Calls.list with
  | .error failure => return [("<list>", .error (.store failure))]
  | .ok rows => reconcileRows now rows

def reconcileAll : Program PassReport := do
  let now ← Calls.nowUnix
  reconcileAllAt now

/-- Whether a cluster is over its age cap, or idle for longer than it may be. -/
def isReaped (jobs : List JobRecord) (now : ℕ) : Bool :=
  let own := jobs.filter (·.cluster = row.id)
  isExpired row now || isIdleExpired row (lastActivityAt row.createdAt own now) now

def reapExpiredRows (now : ℕ) (jobs : List JobRecord) :
    List StoredCluster → Program (ReconcileResult (List String))
  | [] => return .ok []
  | row :: rows =>
    if isReaped row jobs now then do
      match ← Calls.setDesired row.id .terminated with
      | .error failure => return .error (.store failure)
      | .ok () =>
        let later ← reapExpiredRows now jobs rows
        return later.map (row.id :: ·)
    else reapExpiredRows now jobs rows

def reapExpired : Program (ReconcileResult (List String)) := do
  match ← Calls.list with
  | .error failure => return .error (.store failure)
  | .ok rows =>
    match ← Calls.listJobs with
    | .error failure => return .error (.store failure)
    | .ok jobs => reapExpiredRows now jobs rows

def reapTerminatedRows (now retention : ℕ) :
    List StoredCluster → Program (ReconcileResult (List String))
  | [] => return .ok []
  | row :: rows =>
    if isPurgeableTombstone row now retention then do
      match ← Calls.reapNetworkPolicies row.id with
      | .error _ => reapTerminatedRows now retention rows
      | .ok () =>
        match ← Calls.removeCluster row.id with
        | .error failure => return .error (.store failure)
        | .ok removed =>
          let later ← reapTerminatedRows now retention rows
          return later.map fun ids => if removed then row.id :: ids else ids
    else reapTerminatedRows now retention rows

def reapTerminated (retention : ℕ) : Program (ReconcileResult (List String)) := do
  match ← Calls.list with
  | .error failure => return .error (.store failure)
  | .ok rows => reapTerminatedRows now retention rows

/-- The part of a tick before the tombstone sweep; failures are logged only. -/
def reapBeforeSweep : Program Unit := do
  let _ ← reapExpired (← Calls.nowUnix)
  let cutoff := (← Calls.nowUnix) - INTENT_RETENTION_SECS
  let _ ← Calls.reapIntents cutoff
  return ()

def sweepTombstones (retention : ℕ) : Program Unit := do
  let _ ← reapTerminated (← Calls.nowUnix) retention
  return ()

def tick (retention : ℕ) : Program Unit := do
  reapBeforeSweep
  sweepTombstones retention
  let _ ← reconcileAll
  return ()

/-- Quarantine at the first backing cluster that is newer than its row. -/
def detectStaleRows : List StoredCluster → Program (ReconcileResult Bool)
  | [] => return .ok false
  | row :: rows => do
      match ← Calls.observe row.id with
      | .ok observed =>
        if observed.observedGeneration.any (row.generation < ·) then
          match ← Calls.setQuarantine true with
          | .error failure => return .error (.store failure)
          | .ok () => return .ok true
        else detectStaleRows rows
      | .error (.notFound _) => detectStaleRows rows
      | .error failure => return .error (.provision failure)

def detectStaleRestore : Program (ReconcileResult Bool) := do
  match ← Calls.list with
  | .error failure => return .error (.store failure)
  | .ok rows => detectStaleRows rows

/-- The check made before the loop starts; the loop starts whatever it answers. -/
def bootCheck : Program Unit := do
  let _ ← detectStaleRestore
  return ()

end Mobula
