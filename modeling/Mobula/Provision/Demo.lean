import Mobula.Controller.World

/-!
# The demo provisioner

The in-memory backend behind `mobula serve --demo`, which serves here to run the control plane
on concrete inputs. The demo process has no pool provisioner, and its posture and network-policy
calls are the interface's defaults.
-/

namespace Mobula

open Foundation

structure DemoCluster where
  id : ClusterId
  state : ClusterState
  generation : ℕ
  fingerprint : String
  deriving DecidableEq, Repr

abbrev DemoClusters := Table DemoCluster.id

namespace DemoProvisioner

variable (id : ClusterId)

def baseUrl : String :=
  "http://" ++ id ++ ".demo.local:8265"

variable (cluster : DemoCluster)

def terminateState : DemoCluster :=
  { cluster with state := .terminated }

def suspendState : DemoCluster :=
  if cluster.state ≠ .terminated then { cluster with state := .suspended } else cluster

def resumeState : DemoCluster :=
  if cluster.state = .suspended then { cluster with state := .running } else cluster

@[simp]
theorem suspendState_id : (suspendState cluster).id = cluster.id := by
  unfold suspendState
  split <;> rfl

@[simp]
theorem resumeState_id : (resumeState cluster).id = cluster.id := by
  unfold resumeState
  split <;> rfl

def observe (clusters : DemoClusters) : ProvisionResult ObservedCluster :=
  match clusters.find? id with
  | some cluster =>
    .ok ⟨id, cluster.state, some cluster.generation, some cluster.fingerprint, some (baseUrl id)⟩
  | none => .error (.notFound id)

def platform (sha256 : String → String) (weightText : ℚ → Numeral) : Platform DemoClusters where
  sha256 := sha256
  weightText := weightText
  apply id spec generation _ _ clusters :=
    (.ok ⟨generation, some (baseUrl id)⟩,
      clusters.insert ⟨id, .running, generation, KubeRay.ownedSpecFingerprint spec⟩)
  ensureNamespacePosture clusters := (.ok (), clusters)
  terminate id clusters := (.ok (), clusters.modify id terminateState)
  reapNetworkPolicies _ clusters := (.ok (), clusters)
  suspend id clusters := (.ok (), clusters.modify id suspendState)
  resume id clusters := (.ok (), clusters.modify id resumeState)
  observe := observe
  kueuePresent _ := false
  applyPool _ _ clusters := (.error (.backend "no pool provisioner"), clusters)
  deletePool _ clusters := (.error (.backend "no pool provisioner"), clusters)
  observePool _ _ := .ok none

end DemoProvisioner

/-- The demo backend with fixed functions for the hash and for printing weights. -/
def demoPlatform : Platform DemoClusters :=
  DemoProvisioner.platform (fun text => text) (fun _ => Numeral.ofNat 0)

/-- The demo backend, except that a terminated cluster is gone at once. -/
def forgettingPlatform : Platform DemoClusters :=
  { demoPlatform with terminate := fun id clusters => (.ok (), clusters.erase id) }

def demoWorld (store : Store) : World DemoClusters where
  store := store
  provider := .empty
  clock := fun reading => reading
  admitLocks := fun _ => none
  tokens := none
  converged := []

def headOnly (project : String) : ClusterSpec where
  name := "demo"
  project := project
  engine := .ray
  rayVersion := "2.9.0"
  image := "rayproject/ray"
  headCpu := "1"
  headMemory := "1Gi"
  workerGroups := []
  ttlSeconds := none
  idleTimeoutSecs := none
  owner := none

def postedRow (id : ClusterId) (spec : ClusterSpec) : StoredCluster :=
  ClusterTable.upsertedRow none id spec 0

abbrev postedHead : StoredCluster := postedRow "c1" (headOnly "p")

/-- A cluster that was deleted before it was ever observed. -/
def deadRow : StoredCluster :=
  { postedHead with desired := .terminated, terminatedAt := some 0 }

def storeOf (row : StoredCluster) : Store :=
  { Store.empty with clusters := Table.empty.insert row }

/-- Two clusters of one project. -/
def twinStore : Store :=
  { storeOf postedHead with
    clusters := (storeOf postedHead).clusters.insert (postedRow "c2" (headOnly "p")) }

def noPolicy : PolicyConfig :=
  ⟨none, .empty, .empty, .wholeGpu⟩

def oneHead : ResourceMap :=
  ResourceMap.ofEntries [(CPU, 1), (MEMORY, 1)]

/-- Boot configuration that gives one project room for one head node. -/
def roomForOneHead : PolicyConfig :=
  ⟨none, Table.empty.insert ("p", oneHead), .empty, .wholeGpu⟩

end Mobula
