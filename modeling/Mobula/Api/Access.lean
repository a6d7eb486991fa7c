import Mobula.Auth
import Mobula.Controller.World
import Mobula.Pool

/-!
# Authorization of requests

The handlers' authorization helpers as programs: which assignments of a caller
count, and when a request is refused. A refusal leaves an audit row. Next to
each program stands the pure decision it takes when it runs alone on a store.
-/

namespace Mobula

open Foundation

structure ClusterView where
  id : ClusterId
  generation : ℕ
  desired : String
  observedState : Option String
  observedGeneration : ℕ
  condition : Option String
  project : String
  engine : String
  rayVersion : String
  estMinHourly : Option ℚ
  estMaxHourly : Option ℚ

structure RayJobSummary where
  jobId : Option String
  submissionId : Option String
  status : Option String
  entrypoint : Option String
  startTime : Option ℕ
  endTime : Option ℕ
  message : Option String

structure ResourceStat where
  used : Option ℚ
  total : ℚ

structure ClusterMetrics where
  clusterId : String
  cpu : Option ResourceStat
  gpu : Option ResourceStat
  memory : Option ResourceStat
  objectStoreMemory : Option ResourceStat
  activeNodes : Option ℕ
  pendingNodes : Option ℕ
  failedNodes : Option ℕ

inductive Body where
  | empty
  | bytes (content : List UInt8)
  | text (message : String)
  | json (value : Json)
  | cluster (view : ClusterView)
  | clusters (views : List ClusterView)
  | jobs (summaries : List RayJobSummary)
  | metrics (summary : ClusterMetrics)
  | invalidSpec (error : PolicyError)
  | invalidPool (error : PoolSpecError)
  | invalidFlavor (flavor resource : String) (error : QuantityError)
  | invalidAllocation (error : AllocationSpecError)
  | gpuSharing (violation : GpuSharingViolation)
  | quota (exceeded : QuotaExceeded)
  | budget (exceeded : BudgetExceeded)

structure Response where
  status : ℕ
  body : Body

/-- Record an audit event; a failure to persist it is never reported. -/
def emit (event : AuditEvent) : Program Unit := do
  let _ ← Calls.recordAudit event
  return ()

def parseAssignments (rows : List RoleAssignment) : List (Role × String) :=
  rows.filterMap fun row => (Role.parse row.role).map fun role => (role, row.scope)

def assignmentsFor (principal : String) : Program (List (Role × String)) := do
  match ← Calls.listRoleAssignments (some principal) with
  | .ok rows => return parseAssignments rows
  | .error _ => return []

variable (store : Store) (identity : Identity)

def assignmentsForIdentity : Program (List (Role × String)) := do
  let bySubject ← assignmentsFor identity.subject
  match identity.username with
  | none => return bySubject
  | some username =>
    if username ≠ identity.subject then
      let byUsername ← assignmentsFor username
      return appendNew bySubject byUsername
    else return bySubject

def effectiveAssignments : Program (List (Role × String)) := do
  let stored ← assignmentsForIdentity identity
  return appendNew identity.projectRoles stored

def refuse (action : PermissionType) (target : Target) : Program (Option Response) := do
  let now ← Calls.nowUnix
  emit { ts := now, subject := some identity.subject, decision := .deny,
         reason := some "insufficient_permission", status := some 403,
         required := some ⟨action.asStr, target.asStr⟩,
         grantedRoles := identity.roles.map Role.asStr }
  return some ⟨403, .text "insufficient permission"⟩

/-- Refuse unless the caller's roles, or an assignment covering the project, suffice. -/
def authorizeScoped (identity : Caller) (action : PermissionType) (target : Target)
    (project : String) : Program (Option Response) :=
  match identity with
  | none => return none
  | some identity =>
    if identity.permits action target then return none
    else do
      let assignments ← effectiveAssignments identity
      if identity.permitsScoped action target assignments project then return none
      else refuse identity action target

def authorize (identity : Caller) (action : PermissionType) (target : Target) :
    Program (Option Response) :=
  match identity with
  | none => return none
  | some identity =>
    if identity.permits action target then return none else refuse identity action target

def Store.storedAssignmentsOf : List (Role × String) :=
  let bySubject := parseAssignments (store.listRoleAssignments (some identity.subject))
  match identity.username with
  | none => bySubject
  | some username =>
    if username ≠ identity.subject then
      appendNew bySubject (parseAssignments (store.listRoleAssignments (some username)))
    else bySubject

def Store.assignmentsOf : List (Role × String) :=
  appendNew identity.projectRoles (store.storedAssignmentsOf identity)

/-- Whether a scoped check lets a caller through; without authentication it always does. -/
def Store.permitsScoped (store : Store) (identity : Caller) (action : PermissionType)
    (target : Target) (project : String) : Bool :=
  identity.all fun identity =>
    identity.permitsScoped action target (store.assignmentsOf identity) project

/-- The caller may write clusters of the project. -/
def Store.mayWrite (identity : Caller) (project : String) : Bool :=
  store.permitsScoped identity .write .cluster project

end Mobula
