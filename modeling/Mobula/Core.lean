import Mathlib.Data.Rat.Defs

/-!
# Domain types

The provider-agnostic types shared by the API, the store and the reconcilers. Machine integers
are natural numbers. Amounts that the program keeps as `f64` are exact rationals. A `BTreeMap`
that is only ever serialized is its list of entries in key order.
-/

namespace Mobula

abbrev ClusterId := String

/-- The compute engine a cluster is provisioned on. -/
inductive Engine where
  | ray
  | dask
  deriving DecidableEq, Repr, Inhabited

namespace Engine

def asStr : Engine → String
  | .ray => "ray"
  | .dask => "dask"

theorem asStr_injective {first second : Engine} (same : first.asStr = second.asStr) :
    first = second := by
  cases first <;> cases second <;> first | rfl | exact absurd same (by decide)

end Engine

structure WorkerGroup where
  name : String
  cpu : String
  memory : String
  gpu : Option String
  minReplicas : ℕ
  maxReplicas : ℕ
  replicas : ℕ
  deriving DecidableEq, Repr

structure ClusterSpec where
  name : String
  project : String
  engine : Engine
  rayVersion : String
  image : String
  headCpu : String
  headMemory : String
  workerGroups : List WorkerGroup
  ttlSeconds : Option ℕ
  idleTimeoutSecs : Option ℕ
  owner : Option String
  deriving DecidableEq, Repr

inductive ClusterState where
  | pending
  | provisioning
  | running
  | degraded
  | updating
  | suspending
  | suspended
  | terminating
  | terminated
  deriving DecidableEq, Repr

namespace ClusterState

/-- Legal transitions for a lifecycle command issued by a user. -/
def canTransition : ClusterState → ClusterState → Bool
  | pending, provisioning => true
  | pending, terminating => true
  | provisioning, running => true
  | provisioning, degraded => true
  | provisioning, terminating => true
  | running, degraded => true
  | running, updating => true
  | running, suspending => true
  | running, terminating => true
  | degraded, running => true
  | degraded, terminating => true
  | updating, running => true
  | updating, degraded => true
  | suspending, suspended => true
  | suspended, provisioning => true
  | suspended, terminating => true
  | terminating, terminated => true
  | _, _ => false

def asStr : ClusterState → String
  | .pending => "pending"
  | .provisioning => "provisioning"
  | .running => "running"
  | .degraded => "degraded"
  | .updating => "updating"
  | .suspending => "suspending"
  | .suspended => "suspended"
  | .terminating => "terminating"
  | .terminated => "terminated"

end ClusterState

inductive DriftCondition where
  | specDrift
  | degraded
  deriving DecidableEq, Repr

def DriftCondition.asStr : DriftCondition → String
  | .specDrift => "spec_drift"
  | .degraded => "degraded"

inductive GpuSharing where
  | wholeGpu
  | mig
  | timeSlice
  deriving DecidableEq, Repr, Inhabited

structure TaintSpec where
  key : String
  value : String
  effect : String
  deriving DecidableEq, Repr

structure FlavorSpec where
  name : String
  resources : List (String × String)
  nodeLabels : List (String × String)
  taints : List TaintSpec
  deriving DecidableEq, Repr

structure PoolSpec where
  name : String
  flavors : List FlavorSpec
  cohort : String
  fairSharingWeight : ℚ
  elastic : Bool
  gpuSharing : Option GpuSharing
  deriving DecidableEq, Repr

/-- The share of a project in a pool. -/
structure AllocationSpec where
  pool : String
  project : String
  namespaceName : String
  nominal : List (String × String)
  borrowingLimit : List (String × String)
  lendingLimit : List (String × String)
  deriving DecidableEq, Repr

/-- Where the workloads of a project are queued. -/
structure QueueAssignment where
  queueName : String
  elastic : Bool
  deriving DecidableEq, Repr

structure JobRecord where
  id : String
  cluster : ClusterId
  submitter : String
  status : String
  durationSecs : Option ℕ
  submittedAt : ℕ
  deriving DecidableEq, Repr

inductive AuditDecision where
  | allow
  | deny
  deriving DecidableEq, Repr, Inhabited

structure AuditRequired where
  action : String
  target : String
  deriving DecidableEq, Repr

structure AuditEvent where
  ts : ℕ
  subject : Option String := none
  decision : AuditDecision := .allow
  reason : Option String := none
  action : Option String := none
  cluster : Option String := none
  method : Option String := none
  path : Option String := none
  status : Option ℕ := none
  latencyMs : Option ℕ := none
  required : Option AuditRequired := none
  grantedRoles : List String := []
  deriving DecidableEq, Repr

end Mobula
