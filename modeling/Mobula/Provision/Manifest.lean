import Mobula.Core
import Mobula.Foundation.Json

/-!
# Engine manifests

The custom resources that the two engine translators render for a cluster specification, and the
fingerprints of the fields the control plane owns on them. Objects built with `Json.object` have
sorted keys, as the serializer's map has.
-/

namespace Mobula

open Foundation

def FIELD_MANAGER : String := "mobula"

def MANAGED_BY_LABEL : String := "app.kubernetes.io/managed-by"

def CLUSTER_ID_LABEL : String := "mobula.dev/cluster-id"

def OWNER_LABEL : String := "mobula.dev/owner"

def GENERATION_ANNOTATION : String := "mobula.dev/generation"

def QUEUE_LABEL : String := "kueue.x-k8s.io/queue-name"

def ELASTIC_JOB_ANNOTATION : String := "kueue.x-k8s.io/elastic-job"

def optionalField (key : String) : Option String → List (String × Json)
  | none => []
  | some value => [(key, .str value)]

def generationStamp (generation : ℕ) : String × Json :=
  (GENERATION_ANNOTATION, .str (toString generation))

def resources (cpu memory : String) (gpu : Option String) : Json :=
  let caps := Json.object
    ([("cpu", .str cpu), ("memory", .str memory)] ++ optionalField "nvidia.com/gpu" gpu)
  .object [("limits", caps), ("requests", caps)]

def podLabels (clusterId : ClusterId) (owner : Option String) : Json :=
  .object ([(CLUSTER_ID_LABEL, .str clusterId)] ++ optionalField OWNER_LABEL owner)

namespace KubeRay

def API_VERSION : String := "ray.io/v1"

def KIND : String := "RayCluster"

variable (group : Json) (clusterId : ClusterId)

def podTemplate (containerName image cpu memory : String) (gpu : Option String)
    (generation : Option ℕ) (owner : Option String) : Json :=
  let imageField := if image = "" then [] else [("image", Json.str image)]
  let container := Json.object
    ([("name", .str containerName), ("resources", resources cpu memory gpu)] ++ imageField)
  let annotations := match generation with
    | none => []
    | some generation => [("annotations", Json.object [generationStamp generation])]
  .object
    [("metadata", .object ([("labels", podLabels clusterId owner)] ++ annotations)),
      ("spec", .object [("containers", .arr [container])])]

variable (spec : ClusterSpec)

def headGroupSpec (generation : Option ℕ) : Json :=
  .object
    [("rayStartParams", .object [("dashboard-host", .str "0.0.0.0")]),
      ("template", podTemplate clusterId "ray-head" spec.image spec.headCpu spec.headMemory none
        generation spec.owner)]

def workerGroupSpec (group : WorkerGroup) (image : String) (autoscaling : Bool)
    (generation : Option ℕ) (owner : Option String) : Json :=
  let replicas := if autoscaling then [] else [("replicas", Json.nat group.replicas)]
  .object
    ([("groupName", .str group.name), ("minReplicas", .nat group.minReplicas),
      ("maxReplicas", .nat group.maxReplicas), ("rayStartParams", .object []),
      ("template", podTemplate clusterId "ray-worker" image group.cpu group.memory group.gpu
        generation owner)] ++ replicas)

def labels (owner : Option String) (queue : Option QueueAssignment) : Json :=
  .object
    ([(MANAGED_BY_LABEL, .str FIELD_MANAGER), (CLUSTER_ID_LABEL, .str clusterId)] ++
      optionalField OWNER_LABEL owner ++ optionalField QUEUE_LABEL (queue.map (·.queueName)))

def annotations (generation : ℕ) (queue : Option QueueAssignment) : Json :=
  let elastic := if queue.any (·.elastic) then [(ELASTIC_JOB_ANNOTATION, Json.str "true")] else []
  .object ([generationStamp generation] ++ elastic)

/-- The RayCluster manifest; an elastic queue forces the autoscaler on. -/
def toRaycluster (autoscaling : Bool) (generation : ℕ) (queue : Option QueueAssignment) : Json :=
  let autoscaling := autoscaling || queue.any (·.elastic)
  let workers := spec.workerGroups.map fun group =>
    workerGroupSpec clusterId group spec.image autoscaling (some generation) spec.owner
  .object
    [("apiVersion", .str API_VERSION), ("kind", .str KIND),
      ("metadata", .object
        [("name", .str clusterId), ("labels", labels clusterId spec.owner queue),
          ("annotations", annotations generation queue)]),
      ("spec", .object
        [("rayVersion", .str spec.rayVersion), ("enableInTreeAutoscaling", .bool autoscaling),
          ("suspend", .bool false),
          ("headGroupSpec", headGroupSpec clusterId spec (some generation)),
          ("workerGroupSpecs", .arr workers)])]

/-- The fields owned on a RayCluster; replica counts are deliberately left out. -/
def ownedSpecFingerprint : String :=
  let workers := spec.workerGroups.map fun group => Json.object
    [("name", .str group.name), ("cpu", .str group.cpu), ("memory", .str group.memory),
      ("gpu", .option .str group.gpu), ("min", .nat group.minReplicas),
      ("max", .nat group.maxReplicas)]
  Json.compress (.object
    [("ray_version", .str spec.rayVersion), ("image", .str spec.image),
      ("head_cpu", .str spec.headCpu), ("head_memory", .str spec.headMemory),
      ("workers", .arr workers)])

def firstContainer : Option Json := do
  let template ← group.get? "template"
  let spec ← template.get? "spec"
  let containers ← spec.get? "containers"
  let items ← containers.asArray?
  items.head?

def containerRequests : Option Json := do
  let container ← firstContainer group
  let resources ← container.get? "resources"
  resources.get? "requests"

def containerResources : Option (String × String) := do
  let requests ← containerRequests group
  let cpu ← requests.get? "cpu"
  let cpu ← cpu.asStr?
  let memory ← requests.get? "memory"
  let memory ← memory.asStr?
  return (cpu, memory)

def containerGpu : Option String := do
  let requests ← containerRequests group
  let gpu ← requests.get? "nvidia.com/gpu"
  gpu.asStr?

def containerImage : Option String := do
  let container ← firstContainer group
  let image ← container.get? "image"
  image.asStr?

def liveWorker : Option Json := do
  let (cpu, memory) ← containerResources group
  return .object
    [("name", .str (((group.get? "groupName").bind (·.asStr?)).getD "")), ("cpu", .str cpu),
      ("memory", .str memory), ("gpu", .option .str (containerGpu group)),
      ("min", .nat (((group.get? "minReplicas").bind (·.asU64?)).getD 0)),
      ("max", .nat (((group.get? "maxReplicas").bind (·.asU64?)).getD 0))]

def fingerprintFromCr (crSpec : Json) : Option String := do
  let head ← crSpec.get? "headGroupSpec"
  let (headCpu, headMemory) ← containerResources head
  let groups := ((crSpec.get? "workerGroupSpecs").bind (·.asArray?)).getD []
  return Json.compress (.object
    [("ray_version", .str (((crSpec.get? "rayVersion").bind (·.asStr?)).getD "")),
      ("image", .str ((containerImage head).getD "")), ("head_cpu", .str headCpu),
      ("head_memory", .str headMemory), ("workers", .arr (groups.filterMap liveWorker))])

def statusToState (status : Json) : ClusterState :=
  match (status.get? "state").bind (·.asStr?) with
  | some "ready" => .running
  | some "suspended" => .suspended
  | some "unhealthy" => .degraded
  | _ => .provisioning

end KubeRay

namespace Dask

def API_VERSION : String := "kubernetes.dask.org/v1"

def KIND : String := "DaskCluster"

def SCHEDULER_COMM_PORT : ℕ := 8786

def SCHEDULER_DASHBOARD_PORT : ℕ := 8787

def WORKER_DASHBOARD_PORT : ℕ := 8788

variable (clusterId : ClusterId) (spec : ClusterSpec) (generation : Option ℕ)

def podMetadata (owner : Option String) : Json :=
  let annotations := match generation with
    | none => []
    | some generation => [("annotations", Json.object [generationStamp generation])]
  .object ([("labels", podLabels clusterId owner)] ++ annotations)

def probe (initialDelay period : ℕ) : Json :=
  .object
    [("httpGet", .object [("port", .str "http-dashboard"), ("path", .str "/health")]),
      ("initialDelaySeconds", .nat initialDelay), ("periodSeconds", .nat period)]

def containerPort (name : String) (port : ℕ) : Json :=
  .object [("name", .str name), ("containerPort", .nat port), ("protocol", .str "TCP")]

def servicePort (name : String) (port : ℕ) : Json :=
  .object
    [("name", .str name), ("protocol", .str "TCP"), ("port", .nat port), ("targetPort", .str name)]

def schedulerSpec (owner : Option String) : Json :=
  let container := Json.object
    [("name", .str "scheduler"), ("image", .str spec.image),
      ("imagePullPolicy", .str "IfNotPresent"), ("args", .arr [.str "dask-scheduler"]),
      ("ports", .arr
        [containerPort "tcp-comm" SCHEDULER_COMM_PORT,
          containerPort "http-dashboard" SCHEDULER_DASHBOARD_PORT]),
      ("resources", resources spec.headCpu spec.headMemory none),
      ("readinessProbe", probe 5 10), ("livenessProbe", probe 15 20)]
  .object
    [("metadata", podMetadata clusterId generation owner),
      ("spec", .object [("containers", .arr [container])]),
      ("service", .object
        [("type", .str "ClusterIP"),
          ("selector", .object
            [("dask.org/cluster-name", .str clusterId), ("dask.org/component", .str "scheduler")]),
          ("ports", .arr
            [servicePort "tcp-comm" SCHEDULER_COMM_PORT,
              servicePort "http-dashboard" SCHEDULER_DASHBOARD_PORT])])]

/-- The caps of the default worker group; a specification without groups uses the head's. -/
def workerCaps : String × String × Option String :=
  match spec.workerGroups.head? with
  | some group => (group.cpu, group.memory, group.gpu)
  | none => (spec.headCpu, spec.headMemory, none)

def workerSpec (replicas : ℕ) (generation : Option ℕ) (owner : Option String) : Json :=
  let (cpu, memory, gpu) := workerCaps spec
  let container := Json.object
    [("name", .str "worker"), ("image", .str spec.image),
      ("imagePullPolicy", .str "IfNotPresent"),
      ("args", .arr
        [.str "dask-worker", .str "--name", .str "$(DASK_WORKER_NAME)", .str "--dashboard",
          .str "--dashboard-address", .str (toString WORKER_DASHBOARD_PORT)]),
      ("resources", resources cpu memory gpu)]
  .object
    [("replicas", .nat replicas), ("metadata", podMetadata clusterId generation owner),
      ("spec", .object [("containers", .arr [container])])]

/-- The DaskCluster manifest, rendered from the first worker group. -/
def toDaskcluster (generation : ℕ) : Json :=
  let replicas := (spec.workerGroups.head?.map (·.replicas)).getD 0
  let labels := Json.object
    ([(MANAGED_BY_LABEL, .str FIELD_MANAGER), (CLUSTER_ID_LABEL, .str clusterId)] ++
      optionalField OWNER_LABEL spec.owner)
  .object
    [("apiVersion", .str API_VERSION), ("kind", .str KIND),
      ("metadata", .object
        [("name", .str clusterId), ("labels", labels),
          ("annotations", .object [generationStamp generation])]),
      ("spec", .object
        [("scheduler", schedulerSpec clusterId spec (some generation) spec.owner),
          ("worker", workerSpec clusterId spec replicas (some generation) spec.owner)])]

def ownedSpecFingerprint : String :=
  let (cpu, memory, gpu) := match spec.workerGroups.head? with
    | some group => (group.cpu, group.memory, group.gpu)
    | none => ("", "", none)
  Json.compress (.object
    [("image", .str spec.image), ("head_cpu", .str spec.headCpu),
      ("head_memory", .str spec.headMemory), ("worker_cpu", .str cpu),
      ("worker_memory", .str memory), ("worker_gpu", .option .str gpu)])

def firstContainer (group : Json) : Option Json := do
  let spec ← group.get? "spec"
  let containers ← spec.get? "containers"
  let items ← containers.asArray?
  items.head?

def containerRequests (container : Json) : Option (String × String) := do
  let resources ← container.get? "resources"
  let requests ← resources.get? "requests"
  let cpu ← requests.get? "cpu"
  let cpu ← cpu.asStr?
  let memory ← requests.get? "memory"
  let memory ← memory.asStr?
  return (cpu, memory)

def containerGpu (container : Json) : Option String := do
  let resources ← container.get? "resources"
  let requests ← resources.get? "requests"
  let gpu ← requests.get? "nvidia.com/gpu"
  gpu.asStr?

def liveWorker (crSpec : Json) : Option (String × String × Option String) := do
  let group ← crSpec.get? "worker"
  let container ← firstContainer group
  let (cpu, memory) ← containerRequests container
  return (cpu, memory, containerGpu container)

def fingerprintFromCr (crSpec : Json) : Option String := do
  let scheduler ← crSpec.get? "scheduler"
  let container ← firstContainer scheduler
  let (headCpu, headMemory) ← containerRequests container
  let image := ((container.get? "image").bind (·.asStr?)).getD ""
  let (cpu, memory, gpu) := (liveWorker crSpec).getD ("", "", none)
  return Json.compress (.object
    [("image", .str image), ("head_cpu", .str headCpu), ("head_memory", .str headMemory),
      ("worker_cpu", .str cpu), ("worker_memory", .str memory),
      ("worker_gpu", .option .str gpu)])

def statusToState (status : Json) : ClusterState :=
  match (status.get? "phase").bind (·.asStr?) with
  | some "Running" => .running
  | some "Failed" => .degraded
  | _ => .provisioning

end Dask

def renderManifest (clusterId : ClusterId) (spec : ClusterSpec) (autoscaling : Bool)
    (generation : ℕ) (queue : Option QueueAssignment) : Json :=
  match spec.engine with
  | .ray => KubeRay.toRaycluster clusterId spec autoscaling generation queue
  | .dask => Dask.toDaskcluster clusterId spec generation

/-- The owned-field fingerprint of the engine a specification names. -/
def ownedSpecFingerprint (spec : ClusterSpec) : String :=
  match spec.engine with
  | .ray => KubeRay.ownedSpecFingerprint spec
  | .dask => Dask.ownedSpecFingerprint spec

end Mobula
