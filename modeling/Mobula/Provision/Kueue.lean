import Mobula.Controller.PoolReconcile
import Mobula.Provision.Engines

/-!
# Pools as queue objects

A pool is a cohort, one resource flavor per flavor, a cluster queue, and one
local queue per allocation. Every object carries the name of the pool it was
last applied for as a label; tearing a pool down deletes what carries its label.
-/

namespace Mobula

open Foundation

namespace Kueue

def API_VERSION : String := "kueue.x-k8s.io/v1beta2"

def POOL_LABEL : String := "mobula.dev/pool"

def NOMINAL_ANNOTATION : String := "mobula.dev/nominal"

def BORROWING_LIMIT_ANNOTATION : String := "mobula.dev/borrowing-limit"

def LENDING_LIMIT_ANNOTATION : String := "mobula.dev/lending-limit"

def manifest (kind : String) (metadata spec : List (String × Json)) : Json :=
  .object
    [("apiVersion", .str API_VERSION), ("kind", .str kind), ("metadata", .object metadata),
      ("spec", .object spec)]

def poolLabels (pool : String) : Json :=
  .object [(POOL_LABEL, .str pool)]

def toResourceFlavor (pool : String) (flavor : FlavorSpec) : Json :=
  manifest "ResourceFlavor" [("name", .str flavor.name), ("labels", poolLabels pool)]
    [("nodeLabels", stringMap flavor.nodeLabels),
      ("nodeTaints", .arr (flavor.taints.map (·.toJson)))]

variable (weightText : ℚ → Numeral) (pool : PoolSpec)

def toCohort : Json :=
  manifest "Cohort" [("name", .str pool.cohort), ("labels", poolLabels pool.name)] []

def weightJson (weight : ℚ) : Json :=
  if weight.den = 1 ∧ |weight| < 9000000000000000 then .num (.ofInt weight.num)
  else .num (weightText weight)

/-- The resources that any flavor offers, sorted and without repetition. -/
def coveredResources : List String :=
  (pool.flavors.flatMap fun flavor => flavor.resources.map (·.1)).dedup.insertionSort (· ≤ ·)

def toClusterQueue : Json :=
  let flavors := pool.flavors.map fun flavor => Json.object
    [("name", .str flavor.name),
      ("resources", .arr (flavor.resources.map fun quota =>
        .object [("name", .str quota.1), ("nominalQuota", .str quota.2)]))]
  manifest "ClusterQueue" [("name", .str pool.name), ("labels", poolLabels pool.name)]
    [("cohortName", .str pool.cohort), ("namespaceSelector", .object []),
      ("fairSharing", .object [("weight", weightJson weightText pool.fairSharingWeight)]),
      ("resourceGroups", .arr
        [.object
          [("coveredResources", .arr ((coveredResources pool).map .str)),
            ("flavors", .arr flavors)]])]

def toLocalQueue (alloc : AllocationSpec) : Json :=
  manifest "LocalQueue"
    [("name", .str alloc.project), ("namespace", .str alloc.namespaceName),
      ("labels", poolLabels alloc.pool),
      ("annotations", .object
        [(NOMINAL_ANNOTATION, .str (stringMap alloc.nominal).compress),
          (BORROWING_LIMIT_ANNOTATION, .str (stringMap alloc.borrowingLimit).compress),
          (LENDING_LIMIT_ANNOTATION, .str (stringMap alloc.lendingLimit).compress)])]
    [("clusterQueue", .str alloc.pool)]

end Kueue

namespace KueueClient

open Kueue

def toDynamic (manifest : Json) : AppliedFields where
  labels := (((manifest.index "metadata").get? "labels").bind (·.asStringMap?)).getD []
  annotations := (((manifest.index "metadata").get? "annotations").bind (·.asStringMap?)).getD []
  spec := (manifest.get? "spec").getD .null

variable (pool : String) (kind : ObjectKind) (name : String)

def cohortKey : ObjectKey := ⟨.cohort, none, name⟩

def flavorKey : ObjectKey := ⟨.resourceFlavor, none, name⟩

def clusterQueueKey : ObjectKey := ⟨.clusterQueue, none, name⟩

def localQueueKey (namespaceName name : String) : ObjectKey :=
  ⟨.localQueue, some namespaceName, name⟩

def applyPool (weightText : ℚ → Numeral) (spec : PoolSpec) (allocations : List AllocationSpec) :
    Kube Unit := do
  Kube.patch (cohortKey spec.cohort) (toDynamic (toCohort spec))
  spec.flavors.forM fun flavor =>
    Kube.patch (flavorKey flavor.name) (toDynamic (toResourceFlavor spec.name flavor))
  Kube.patch (clusterQueueKey spec.name) (toDynamic (toClusterQueue weightText spec))
  allocations.forM fun alloc =>
    Kube.patch (localQueueKey alloc.namespaceName alloc.project) (toDynamic (toLocalQueue alloc))

def labelled (pool : String) (object : KubeObject) : Bool :=
  object.key.kind = kind && object.label? POOL_LABEL = some pool

def deleteLabelled : Kube Unit := do
  let listed ← Kube.list (labelled kind pool)
  listed.forM fun object => Kube.deleteOkGone object.key

/-- Local queues first, then what they refer to. -/
def deletePool : Kube Unit := do
  deleteLabelled pool .localQueue
  [ObjectKind.cohort, .resourceFlavor, .clusterQueue].forM (deleteLabelled pool)

end KueueClient

/-- What the provisioners take from their surroundings. -/
structure Surroundings where
  sha256 : String → String
  weightText : ℚ → Numeral
  observePool : String → Kubernetes → ProvisionResult (Option PoolObservation)

/--
The production backend. What the router learns from an observation is not
written down here; it may come to know an engine between any two calls.
-/
def kubernetesPlatform (surroundings : Surroundings) (router : EngineRouter) :
    Platform Kubernetes where
  sha256 := surroundings.sha256
  weightText := surroundings.weightText
  apply id spec generation _ queue kubernetes :=
    (router.apply id spec generation queue).send kubernetes
  ensureNamespacePosture kubernetes := router.ensureNamespacePosture.send kubernetes
  terminate id kubernetes := (router.terminate id).send kubernetes
  reapNetworkPolicies id kubernetes := (router.reapNetworkPolicies id).send kubernetes
  suspend id kubernetes := (router.suspend id).send kubernetes
  resume id kubernetes := (router.resume id).send kubernetes
  observe id kubernetes := ((router.observe id).send kubernetes).1
  kueuePresent kubernetes := kubernetes.kueuePresent
  applyPool spec allocations kubernetes :=
    (EngineRouter.backend
      (KueueClient.applyPool surroundings.weightText spec allocations)).send kubernetes
  deletePool name kubernetes :=
    (EngineRouter.backend (KueueClient.deletePool name)).send kubernetes
  observePool := surroundings.observePool

def oneNamespace : EngineRouter :=
  ⟨⟨"ray", false⟩, ⟨"ray"⟩, rfl⟩

def plainSurroundings : Surroundings :=
  ⟨fun text => text, fun _ => Numeral.ofNat 0, fun _ _ => .ok none⟩

abbrev plainPlatform : Platform Kubernetes := kubernetesPlatform plainSurroundings oneNamespace

/-- A control plane with an empty store and a namespace to provision into. -/
def freshControlPlane : World Kubernetes where
  store := .empty
  provider :=
    ⟨⟨Table.empty.insert ⟨⟨.namespaceObject, none, "ray"⟩, ⟨[], [], .null⟩, [], .null⟩,
      fun _ => none⟩, fun _ => none, false⟩
  clock := fun reading => reading
  admitLocks := fun _ => none
  tokens := none
  converged := []

/-- The same control plane where the queueing system is installed. -/
def queueingControlPlane : World Kubernetes :=
  { freshControlPlane with provider.kueuePresent := true }

def gpuPool : PoolSpec :=
  ⟨"gpu", [⟨"a100", [("cpu", "64")], [], []⟩], "research", 1, false, none⟩

def gpuShare (nominal : String) : AllocationSpec :=
  ⟨"gpu", "p", "ray", [("cpu", nominal)], [], []⟩

/-- The small installation, with a pool that was never applied. -/
def unappliedPool : World Kubernetes :=
  { queueingControlPlane with
    store.pools := Table.empty.insert (Catalog.upsertedPool none "gpu" gpuPool 0)
    store.allocations := Table.empty.insert (gpuShare "1") }

end Mobula
