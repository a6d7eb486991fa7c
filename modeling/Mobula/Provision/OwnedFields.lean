import Mobula.Provision.Manifest

/-!
# The owned fields of a cluster

A fingerprint is the text of a record of owned fields, written from a specification and read
back from a live object: the first container of each group is looked at. A worker group without
requests is passed over.
-/

namespace Mobula

open Foundation Json List

namespace KubeRay

structure WorkerFields where
  name : String
  cpu : String
  memory : String
  gpu : Option String
  min : ℕ
  max : ℕ
  deriving DecidableEq, Repr

structure OwnedFields where
  rayVersion : String
  image : String
  headCpu : String
  headMemory : String
  workers : List WorkerFields
  deriving DecidableEq, Repr

def WorkerFields.toJson (fields : WorkerFields) : Json :=
  .object
    [("name", .str fields.name), ("cpu", .str fields.cpu), ("memory", .str fields.memory),
      ("gpu", .option .str fields.gpu), ("min", .nat fields.min), ("max", .nat fields.max)]

def OwnedFields.toJson (fields : OwnedFields) : Json :=
  .object
    [("ray_version", .str fields.rayVersion), ("image", .str fields.image),
      ("head_cpu", .str fields.headCpu), ("head_memory", .str fields.headMemory),
      ("workers", .arr (fields.workers.map WorkerFields.toJson))]

theorem WorkerFields.toJson_injective {first second : WorkerFields}
    (same : first.toJson = second.toJson) : first = second := by
  have fields := object_injective same rfl (by simp)
  cases first
  cases second
  simpa using fields

theorem OwnedFields.toJson_injective {first second : OwnedFields}
    (same : first.toJson = second.toJson) : first = second := by
  have fields := object_injective same rfl (by simp)
  cases first
  cases second
  simp [arr.injEq] at fields
  have workers := map_injective_iff.mpr (fun _ _ => WorkerFields.toJson_injective) fields.2.2.2.2
  simp [fields, workers]

variable (container : Json) (spec : ClusterSpec)

def ownedFields : OwnedFields where
  rayVersion := spec.rayVersion
  image := spec.image
  headCpu := spec.headCpu
  headMemory := spec.headMemory
  workers := spec.workerGroups.map fun group =>
    ⟨group.name, group.cpu, group.memory, group.gpu, group.minReplicas, group.maxReplicas⟩

theorem ownedSpecFingerprint_eq :
    ownedSpecFingerprint spec = (ownedFields spec).toJson.compress := by
  simp [ownedSpecFingerprint, ownedFields, OwnedFields.toJson]
  rfl

def readWorker (group : Json) : Option WorkerFields := do
  let (cpu, memory) ← containerResources group
  return ⟨((group.get? "groupName").bind (·.asStr?)).getD "", cpu, memory, containerGpu group,
    ((group.get? "minReplicas").bind (·.asU64?)).getD 0,
    ((group.get? "maxReplicas").bind (·.asU64?)).getD 0⟩

variable (crSpec : Json)

def readFields : Option OwnedFields := do
  let head ← crSpec.get? "headGroupSpec"
  let (headCpu, headMemory) ← containerResources head
  let groups := ((crSpec.get? "workerGroupSpecs").bind (·.asArray?)).getD []
  return ⟨((crSpec.get? "rayVersion").bind (·.asStr?)).getD "", (containerImage head).getD "",
    headCpu, headMemory, groups.filterMap readWorker⟩

theorem liveWorker_eq (group : Json) :
    liveWorker group = (readWorker group).map WorkerFields.toJson := by
  rcases found : containerResources group with _ | requests
  · simp [liveWorker, readWorker, found]
  · simp [liveWorker, readWorker, found, WorkerFields.toJson]

theorem fingerprintFromCr_eq :
    fingerprintFromCr crSpec = (readFields crSpec).map (·.toJson.compress) := by
  rcases head : crSpec.get? "headGroupSpec" with _ | head'
  · simp [fingerprintFromCr, readFields, head]
  rcases found : containerResources head' with _ | requests
  · simp [fingerprintFromCr, readFields, head, found]
  simp [fingerprintFromCr, readFields, head, found, OwnedFields.toJson, liveWorker_eq,
    map_filterMap]

theorem fingerprintFromCr_eq_iff {crSpec : Json} {spec : ClusterSpec} :
    fingerprintFromCr crSpec = some (ownedSpecFingerprint spec) ↔
      readFields crSpec = some (ownedFields spec) := by
  simp [fingerprintFromCr_eq, ownedSpecFingerprint_eq]
  constructor
  · rintro ⟨fields, read, same⟩
    rw [read, OwnedFields.toJson_injective (compress_injective same)]
  · intro read
    exact ⟨ownedFields spec, read, rfl⟩

structure WrittenCaps where
  cpu : Option Json
  memory : Option Json
  gpu : Option Json

structure WrittenContainer where
  image : Option Json
  requests : WrittenCaps
  limits : WrittenCaps

structure WrittenGroup where
  name : Option Json
  min : Option Json
  max : Option Json
  containers : List WrittenContainer

/-- What a manifest says about versions, groups and containers, replica counts aside. -/
structure WrittenFields where
  rayVersion : Option Json
  head : List WrittenContainer
  workers : List WrittenGroup

def containersOf (group : Json) : List Json :=
  ((((group.get? "template").bind (·.get? "spec")).bind (·.get? "containers")).bind
    (·.asArray?)).getD []

def writtenCaps (kind : String) : WrittenCaps :=
  let written (resource : String) : Option Json :=
    ((container.get? "resources").bind (·.get? kind)).bind (·.get? resource)
  ⟨written "cpu", written "memory", written "nvidia.com/gpu"⟩

def writtenContainer : WrittenContainer :=
  ⟨container.get? "image", writtenCaps container "requests", writtenCaps container "limits"⟩

def writtenContainers (group : Json) : List WrittenContainer :=
  (containersOf group).map writtenContainer

def writtenGroup (group : Json) : WrittenGroup :=
  ⟨group.get? "groupName", group.get? "minReplicas", group.get? "maxReplicas",
    writtenContainers group⟩

def writtenFields : WrittenFields :=
  ⟨crSpec.get? "rayVersion",
    ((crSpec.get? "headGroupSpec").map writtenContainers).getD [],
    (((crSpec.get? "workerGroupSpecs").bind (·.asArray?)).getD []).map writtenGroup⟩

theorem firstContainer_eq (group : Json) : firstContainer group = (containersOf group).head? := by
  unfold firstContainer containersOf
  rcases group.get? "template" with _ | template
  · rfl
  rcases spec : template.get? "spec" with _ | spec'
  · simp [spec]
  rcases containers : spec'.get? "containers" with _ | value
  · simp [spec, containers]
  cases items : value.asArray? <;> simp [spec, containers, items]

def WrittenCaps.read (caps : WrittenCaps) : Option (String × String) := do
  let cpu ← caps.cpu.bind (·.asStr?)
  let memory ← caps.memory.bind (·.asStr?)
  return (cpu, memory)

theorem containerResources_eq (group : Json) :
    containerResources group = (writtenContainers group).head?.bind (·.requests.read) := by
  rw [containerResources, containerRequests, firstContainer_eq, writtenContainers, head?_map]
  rcases (containersOf group).head? with _ | container
  · rfl
  rcases resources : container.get? "resources" with _ | resources'
  · simp [writtenContainer, writtenCaps, WrittenCaps.read, resources]
  rcases requests : resources'.get? "requests" with _ | requests'
  · simp [writtenContainer, writtenCaps, WrittenCaps.read, resources, requests]
  simp [writtenContainer, writtenCaps, WrittenCaps.read, resources, requests, Option.bind_assoc]

theorem containerGpu_eq (group : Json) : containerGpu group =
      (writtenContainers group).head?.bind (·.requests.gpu.bind (·.asStr?)) := by
  rw [containerGpu, containerRequests, firstContainer_eq, writtenContainers, head?_map]
  rcases (containersOf group).head? with _ | container
  · rfl
  · simp [writtenContainer, writtenCaps, Option.bind_assoc]

theorem containerImage_eq (group : Json) :
    containerImage group = (writtenContainers group).head?.bind (·.image.bind (·.asStr?)) := by
  rw [containerImage, firstContainer_eq, writtenContainers, head?_map]
  rcases (containersOf group).head? with _ | container
  · rfl
  · simp [writtenContainer]

/-- The part of a written group that is read back. -/
def WrittenGroup.read (group : WrittenGroup) : Option WorkerFields := do
  let (cpu, memory) ← group.containers.head?.bind (·.requests.read)
  return ⟨(group.name.bind (·.asStr?)).getD "", cpu, memory,
    group.containers.head?.bind (·.requests.gpu.bind (·.asStr?)),
    (group.min.bind (·.asU64?)).getD 0, (group.max.bind (·.asU64?)).getD 0⟩

theorem readWorker_eq (group : Json) : readWorker group = (writtenGroup group).read := by
  rw [readWorker, WrittenGroup.read, containerResources_eq, containerGpu_eq]
  rfl

/-- The part of what is written that is read back: of the first containers the requests, and of
the head's the image. -/
def WrittenFields.read (fields : WrittenFields) : Option OwnedFields := do
  let (headCpu, headMemory) ← fields.head.head?.bind (·.requests.read)
  return ⟨(fields.rayVersion.bind (·.asStr?)).getD "",
    (fields.head.head?.bind (·.image.bind (·.asStr?))).getD "", headCpu, headMemory,
    fields.workers.filterMap WrittenGroup.read⟩

theorem readFields_eq : readFields crSpec = (writtenFields crSpec).read := by
  have workers (groups : List Json) :
      (groups.map writtenGroup).filterMap WrittenGroup.read = groups.filterMap readWorker := by
    rw [filterMap_map]
    exact filterMap_congr fun group _ => (readWorker_eq group).symm
  rcases head : crSpec.get? "headGroupSpec" with _ | head'
  · simp [readFields, WrittenFields.read, writtenFields, head]
  simp [readFields, WrittenFields.read, writtenFields, head, workers, containerResources_eq,
    containerImage_eq]

section Template

variable {group : Json} {clusterId : ClusterId} {name image cpu memory : String}
  {gpu : Option String} {generation : Option ℕ} {owner : Option String}

def templateContainer (name image cpu memory : String) (gpu : Option String) : Json :=
  .object
    ([("name", .str name), ("resources", resources cpu memory gpu)] ++
      if image = "" then [] else [("image", Json.str image)])

def caps (cpu memory : String) (gpu : Option String) : Json :=
  .object ([("cpu", .str cpu), ("memory", .str memory)] ++ optionalField "nvidia.com/gpu" gpu)

theorem cpu_caps : (caps cpu memory gpu).get? "cpu" = some (.str cpu) := by
  simp [caps]

theorem memory_caps : (caps cpu memory gpu).get? "memory" = some (.str memory) := by
  simp [caps]

theorem gpu_caps : (caps cpu memory gpu).get? "nvidia.com/gpu" = gpu.map .str := by
  cases gpu <;> simp [caps, optionalField]

variable (template : group.get? "template" =
  some (podTemplate clusterId name image cpu memory gpu generation owner))

include template

theorem firstContainer_of_template :
    firstContainer group = some (templateContainer name image cpu memory gpu) := by
  simp [firstContainer, template, podTemplate, templateContainer, asArray?]

theorem containerRequests_of_template : containerRequests group = some (caps cpu memory gpu) := by
  simp [containerRequests, firstContainer_of_template template, templateContainer, resources, caps]

theorem containerResources_of_template : containerResources group = some (cpu, memory) := by
  simp [containerResources, containerRequests_of_template template, cpu_caps, memory_caps, asStr?]

theorem containerGpu_of_template : containerGpu group = gpu := by
  cases gpu <;> simp [containerGpu, containerRequests_of_template template, gpu_caps, asStr?]

theorem containerImage_of_template : (containerImage group).getD "" = image := by
  by_cases empty : image = "" <;>
    simp [containerImage, firstContainer_of_template template, templateContainer, empty, asStr?]

end Template

/-- The numbers of a specification fit the words that hold them. -/
def InRange : Prop :=
  ∀ group ∈ spec.workerGroups, group.minReplicas < 2 ^ 32 ∧ group.maxReplicas < 2 ^ 32

theorem readWorker_workerGroupSpec (clusterId : ClusterId) {group : WorkerGroup} (image : String)
    (autoscaling : Bool) (generation : Option ℕ) (owner : Option String)
    (small : group.minReplicas < 2 ^ 32 ∧ group.maxReplicas < 2 ^ 32) :
    readWorker (workerGroupSpec clusterId group image autoscaling generation owner) =
      some ⟨group.name, group.cpu, group.memory, group.gpu, group.minReplicas,
        group.maxReplicas⟩ := by
  have template : (workerGroupSpec clusterId group image autoscaling generation owner).get?
      "template" = some (podTemplate clusterId "ray-worker" image group.cpu group.memory group.gpu
        generation owner) := by
    simp [workerGroupSpec]
  rw [readWorker, containerResources_of_template template, containerGpu_of_template template]
  simp [workerGroupSpec, asStr?, asU64?_nat (small.1.trans (by decide)),
    asU64?_nat (small.2.trans (by decide))]

/-- What is rendered is read back, whatever the cluster is called and wherever it is queued. -/
theorem readFields_toRaycluster {spec : ClusterSpec} (inRange : InRange spec)
    (clusterId : ClusterId) (autoscaling : Bool) (generation : ℕ) (queue : Option QueueAssignment) :
    readFields ((toRaycluster clusterId spec autoscaling generation queue).index "spec") =
      some (ownedFields spec) := by
  have head : (headGroupSpec clusterId spec (some generation)).get? "template" = some
      (podTemplate clusterId "ray-head" spec.image spec.headCpu spec.headMemory none
        (some generation) spec.owner) := by
    simp [headGroupSpec]
  have groups : (spec.workerGroups.map fun group => workerGroupSpec clusterId group spec.image
      (autoscaling || queue.any (·.elastic)) (some generation) spec.owner).filterMap readWorker =
      (ownedFields spec).workers := by
    rw [filterMap_map, ownedFields, ← filterMap_eq_map]
    refine filterMap_congr ?_
    intro group groupMem
    exact readWorker_workerGroupSpec clusterId spec.image _ (some generation) spec.owner
      (inRange group groupMem)
  simp [readFields, toRaycluster, containerResources_of_template head,
    containerImage_of_template head, asStr?, asArray?, groups]
  rfl

/-- The fingerprint of a rendered object is that of another specification exactly if the two agree
on what is owned. -/
theorem ray_fingerprint_round_trip {spec : ClusterSpec} (inRange : InRange spec)
    (other : ClusterSpec) (clusterId : ClusterId) (autoscaling : Bool) (generation : ℕ)
    (queue : Option QueueAssignment) :
    fingerprintFromCr ((toRaycluster clusterId spec autoscaling generation queue).index "spec") =
        some (ownedSpecFingerprint other) ↔
      spec.rayVersion = other.rayVersion ∧ spec.image = other.image ∧
        spec.headCpu = other.headCpu ∧ spec.headMemory = other.headMemory ∧
        List.Forall₂ (fun group group' => group.name = group'.name ∧ group.cpu = group'.cpu ∧
          group.memory = group'.memory ∧ group.gpu = group'.gpu ∧
          group.minReplicas = group'.minReplicas ∧ group.maxReplicas = group'.maxReplicas)
          spec.workerGroups other.workerGroups := by
  rw [fingerprintFromCr_eq_iff,
    readFields_toRaycluster inRange clusterId autoscaling generation queue]
  simp only [ownedFields, Option.some.injEq, OwnedFields.mk.injEq]
  rw [← forall₂_eq_eq_eq, forall₂_map_left_iff, forall₂_map_right_iff]
  simp only [WorkerFields.mk.injEq]

def scaledSpec (replicas : ℕ) : ClusterSpec :=
  ⟨"demo", "p", .ray, "2.9.0", "rayproject/ray", "1", "1Gi",
    [⟨"w", "1", "1Gi", none, 1, 4, replicas⟩], none, none, none⟩

/-- The current number of replicas is not owned. -/
theorem ray_fingerprint_round_trip_scaled :
    fingerprintFromCr ((toRaycluster "c1" (scaledSpec 1) false 1 none).index "spec") =
      some (ownedSpecFingerprint (scaledSpec 3)) :=
  (ray_fingerprint_round_trip (by simp [InRange, scaledSpec]) (scaledSpec 3) "c1" false 1
    none).mpr ⟨rfl, rfl, rfl, rfl, .cons ⟨rfl, rfl, rfl, rfl, rfl, rfl⟩ .nil⟩

def workerGroupsOf (manifest : Json) : List Json :=
  (((manifest.index "spec").get? "workerGroupSpecs").bind (·.asArray?)).getD []

def autoscalingOf (manifest : Json) : Option Json :=
  (manifest.index "spec").get? "enableInTreeAutoscaling"

/-- A manifest owns the replica counts exactly when the autoscaler does not, and never owns the
scaling strategy. -/
theorem replica_ownership (clusterId : ClusterId) (spec : ClusterSpec) (autoscaling : Bool)
    (generation : ℕ) (queue : Option QueueAssignment) :
    let manifest := toRaycluster clusterId spec autoscaling generation queue
    autoscalingOf manifest = some (.bool (autoscaling || queue.any (·.elastic))) ∧
      (∀ group ∈ workerGroupsOf manifest,
        ((group.get? "replicas").isSome ↔ autoscalingOf manifest = some (.bool false)) ∧
          group.get? "scaleStrategy" = none) ∧
      ((workerGroupsOf manifest).map fun group =>
          (group.get? "groupName", group.get? "minReplicas", group.get? "maxReplicas")) =
        spec.workerGroups.map fun group =>
          (some (.str group.name), some (.nat group.minReplicas),
            some (.nat group.maxReplicas)) := by
  intro manifest
  have flag : autoscalingOf manifest = some (.bool (autoscaling || queue.any (·.elastic))) := by
    simp [manifest, autoscalingOf, toRaycluster]
  have groups : workerGroupsOf manifest = spec.workerGroups.map fun group =>
      workerGroupSpec clusterId group spec.image (autoscaling || queue.any (·.elastic))
        (some generation) spec.owner := by
    simp [manifest, workerGroupsOf, toRaycluster, asArray?]
  rw [flag, groups]
  refine ⟨rfl, ?_, ?_⟩
  · intro group groupMem
    obtain ⟨source, _, rfl⟩ := mem_map.mp groupMem
    cases autoscaling || queue.any (·.elastic) <;> simp [workerGroupSpec]
  · simp [workerGroupSpec]

end KubeRay

namespace Dask

/-- The text of the owned fields, for given caps of the workers. -/
def ownedText (spec : ClusterSpec) (caps : String × String × Option String) : String :=
  Json.compress (.object
    [("image", .str spec.image), ("head_cpu", .str spec.headCpu),
      ("head_memory", .str spec.headMemory), ("worker_cpu", .str caps.1),
      ("worker_memory", .str caps.2.1), ("worker_gpu", .option .str caps.2.2)])

theorem ownedText_inj {spec : ClusterSpec} {caps caps' : String × String × Option String} :
    ownedText spec caps = ownedText spec caps' ↔ caps = caps' := by
  constructor
  · intro same
    have fields := object_injective (compress_injective same) rfl (by simp)
    simpa [Prod.ext_iff] using fields
  · rintro rfl
    rfl

theorem fingerprintFromCr_toDaskcluster (clusterId : ClusterId) (spec : ClusterSpec)
    (generation : ℕ) : fingerprintFromCr ((toDaskcluster clusterId spec generation).index "spec") =
      some (ownedText spec (workerCaps spec)) := by
  rcases caps : workerCaps spec with ⟨cpu, memory, gpu⟩
  cases gpu <;> simp [fingerprintFromCr, toDaskcluster, schedulerSpec, workerSpec, firstContainer,
    containerRequests, containerGpu, liveWorker, resources, optionalField, caps, asArray?,
    asStr?, ownedText]

/-- What is rendered is read back, except for the caps of workers that no group asks for. -/
theorem fingerprintFromCr_toDaskcluster_iff (clusterId : ClusterId) (spec : ClusterSpec)
    (generation : ℕ) : fingerprintFromCr ((toDaskcluster clusterId spec generation).index "spec") =
        some (ownedSpecFingerprint spec) ↔
      spec.workerGroups ≠ [] ∨ spec.headCpu = "" ∧ spec.headMemory = "" := by
  simp [fingerprintFromCr_toDaskcluster]
  cases groups : spec.workerGroups with
  | nil =>
    have owned : ownedSpecFingerprint spec = ownedText spec ("", "", none) := by
      simp [ownedSpecFingerprint, groups, ownedText]
    rw [owned, ownedText_inj]
    simp [workerCaps, groups]
  | cons group groups' =>
    have owned : ownedSpecFingerprint spec = ownedText spec (workerCaps spec) := by
      simp [ownedSpecFingerprint, workerCaps, groups, ownedText]
    simp [owned]

end Dask

end Mobula
