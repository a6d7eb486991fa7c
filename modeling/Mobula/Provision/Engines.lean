import Mobula.Provision.NetworkPolicy

/-!
# The engine provisioners and their router

An apply names its engine. Every other call looks the engine up, and asks the Dask provisioner
when the cluster is not known: a cluster that it observes is its own, any other is a Ray
cluster.
-/

namespace Mobula

open Foundation Request Kube

def parseU64 (text : String) : Option ℕ :=
  let digits := match text.toList with
    | '+' :: digits => digits
    | digits => digits
  let value := Nat.ofDigitChars 10 digits 0
  if digits ≠ [] ∧ digits.all Char.isDigit ∧ value < 2 ^ 64 then some value else none

def stampedGeneration (object : KubeObject) : Option ℕ :=
  (object.annotation? GENERATION_ANNOTATION).bind parseU64

structure KubeRayProvisioner where
  namespaceName : String
  autoscaling : Bool

namespace KubeRayProvisioner

variable (ray : KubeRayProvisioner)

def crKey (id : ClusterId) : ObjectKey :=
  ⟨.rayCluster, some ray.namespaceName, id⟩

def apiBaseUrl (id : ClusterId) : String :=
  "http://" ++ id ++ "-head-svc." ++ ray.namespaceName ++ ".svc:8265"

/-- The fields applied to the custom resource; only its specification is the manifest's. -/
def crFields (id : ClusterId) (spec : ClusterSpec) (generation : ℕ)
    (queue : Option QueueAssignment) : AppliedFields where
  labels := [(MANAGED_BY_LABEL, FIELD_MANAGER), (CLUSTER_ID_LABEL, id)] ++
    (queue.map fun queue => (QUEUE_LABEL, queue.queueName)).toList
  annotations := [(GENERATION_ANNOTATION, toString generation)]
  spec := (KubeRay.toRaycluster id spec ray.autoscaling generation queue).index "spec"

def apply (id : ClusterId) (spec : ClusterSpec) (generation : ℕ)
    (queue : Option QueueAssignment) : Kube ApplyResponse := do
  ensureAllow ray.namespaceName (KubeRay.clusterAllowNetworkPolicy id spec.owner)
  Kube.patch (ray.crKey id) (ray.crFields id spec generation queue)
  return ⟨generation, some (ray.apiBaseUrl id)⟩

def terminate (id : ClusterId) : Kube Unit := do
  Kube.deleteOkGone (ray.crKey id)
  deleteClusterAllow ray.namespaceName id

def reapNetworkPolicies (id : ClusterId) : Kube Unit :=
  deleteClusterAllow ray.namespaceName id

def setSuspend (id : ClusterId) (suspend : Bool) : Kube Unit :=
  Kube.mergeSpec (ray.crKey id) "suspend" (.bool suspend)

def observe (id : ClusterId) : Kube ObservedCluster := do
  match ← Kube.getOpt (ray.crKey id) with
  | none => throw (.notFound id)
  | some object =>
    return ⟨id, KubeRay.statusToState object.status, stampedGeneration object,
      KubeRay.fingerprintFromCr object.applied.spec, some (ray.apiBaseUrl id)⟩

def list : Kube (List ObservedCluster) := do
  let objects ← Kube.list fun object =>
    Kube.inNamespace .rayCluster ray.namespaceName object &&
      object.label? MANAGED_BY_LABEL = some FIELD_MANAGER
  return objects.map fun object =>
    ⟨object.key.name, KubeRay.statusToState object.status, stampedGeneration object,
      KubeRay.fingerprintFromCr object.applied.spec, some (ray.apiBaseUrl object.key.name)⟩

end KubeRayProvisioner

namespace Dask

def DASK_CLUSTER_NAME_LABEL : String := "dask.org/cluster-name"

def DASK_COMPONENT_LABEL : String := "dask.org/component"

def podPhase (pod : KubeObject) : String :=
  ((pod.status.get? "phase").bind (·.asStr?)).getD "Unknown"

def podReady (pod : KubeObject) : Bool :=
  ((pod.status.get? "conditions").bind (·.asArray?)).any fun conditions =>
    conditions.any fun condition =>
      (condition.get? "type").bind (·.asStr?) = some "Ready" &&
        (condition.get? "status").bind (·.asStr?) = some "True"

def podRunningReady (pod : KubeObject) : Bool :=
  podPhase pod = "Running" && podReady pod

/-- The state that the pods of a cluster show; none without pods. -/
def observedStateFromPods (pods : List KubeObject) : Option ClusterState :=
  let scheduler := pods.find? fun pod => pod.label? DASK_COMPONENT_LABEL = some "scheduler"
  let workersReady := pods.filter fun pod =>
    pod.label? DASK_COMPONENT_LABEL = some "worker" && podRunningReady pod
  if pods.isEmpty then none
  else if scheduler.any fun pod => podPhase pod = "Failed" then some .degraded
  else if scheduler.any podRunningReady && !workersReady.isEmpty then some .running
  else if pods.any fun pod => podPhase pod = "Failed" then some .degraded
  else some .provisioning

end Dask

structure DaskProvisioner where
  namespaceName : String

namespace DaskProvisioner

variable (dask : DaskProvisioner)

def crKey (id : ClusterId) : ObjectKey :=
  ⟨.daskCluster, some dask.namespaceName, id⟩

def crFields (id : ClusterId) (spec : ClusterSpec) (generation : ℕ) : AppliedFields where
  labels := [(MANAGED_BY_LABEL, FIELD_MANAGER), (CLUSTER_ID_LABEL, id)] ++
    (spec.owner.map fun owner => (OWNER_LABEL, owner)).toList
  annotations := [(GENERATION_ANNOTATION, toString generation)]
  spec := (Dask.toDaskcluster id spec generation).index "spec"

def apply (id : ClusterId) (spec : ClusterSpec) (generation : ℕ) : Kube ApplyResponse := do
  ensureAllow dask.namespaceName (Dask.clusterAllowNetworkPolicy id spec.owner)
  Kube.patch (dask.crKey id) (crFields id spec generation)
  return ⟨generation, none⟩

def terminate (id : ClusterId) : Kube Unit := do
  Kube.deleteOkGone (dask.crKey id)
  deleteClusterAllow dask.namespaceName id

def reapNetworkPolicies (id : ClusterId) : Kube Unit :=
  deleteClusterAllow dask.namespaceName id

def suspend (_ : ClusterId) : Kube Unit :=
  return ()

def resume (_ : ClusterId) : Kube Unit :=
  return ()

def mapAbsent (id : ClusterId) (failure : ApiError) : ProvisionError :=
  if failure.code = 404 then .notFound id else .backend failure.message

def listClusterPods (id : ClusterId) : Kube (List KubeObject) :=
  Kube.list fun object =>
    Kube.inNamespace .pod dask.namespaceName object &&
      object.label? Dask.DASK_CLUSTER_NAME_LABEL = some id

/-- The pods show the state; the phase of the resource counts when no pods are seen. -/
def observe (id : ClusterId) : Kube ObservedCluster := do
  match ← (Server.getOpt (dask.crKey id)).adapt (mapAbsent id) with
  | none => throw (.notFound id)
  | some object =>
    let phase := Dask.statusToState object.status
    let pods : Except ProvisionError (List KubeObject) ← (dask.listClusterPods id).attempt
    let state := match pods with
      | .ok pods => (Dask.observedStateFromPods pods).getD phase
      | .error _ => phase
    return ⟨id, state, stampedGeneration object,
      Dask.fingerprintFromCr object.applied.spec, none⟩

def list : Kube (List ObservedCluster) := do
  let managed (object : KubeObject) : Bool :=
    Kube.inNamespace .daskCluster dask.namespaceName object &&
      object.label? MANAGED_BY_LABEL = some FIELD_MANAGER
  let objects ← Request.adapt Kube.ofApi <|
    tryCatch (Server.list managed) fun failure =>
      if failure.code = 404 then return [] else throw failure
  return objects.map fun object =>
    ⟨object.key.name, Dask.statusToState object.status, stampedGeneration object,
      Dask.fingerprintFromCr object.applied.spec, none⟩

end DaskProvisioner

/-- The cluster, and what the router knows about the engines of its clusters. -/
structure Kubernetes where
  cluster : KubeCluster
  engines : ClusterId → Option Engine
  kueuePresent : Bool

/-- Both provisioners work in one namespace. -/
structure EngineRouter where
  ray : KubeRayProvisioner
  dask : DaskProvisioner
  shared : dask.namespaceName = ray.namespaceName

namespace EngineRouter

variable (router : EngineRouter)

abbrev Routed := Request Kubernetes ProvisionError

def backend {α : Type} (request : Kube α) : Routed α :=
  request.onPart (·.cluster) fun cluster kubernetes => { kubernetes with cluster := cluster }

def lookup (id : ClusterId) : Routed (Option Engine) :=
  fun kubernetes => (.ok (kubernetes.engines id), kubernetes)

def remember (id : ClusterId) (engine : Engine) : Routed Unit :=
  fun kubernetes =>
    (.ok (), { kubernetes with engines := Function.update kubernetes.engines id (some engine) })

/-- The engine of a cluster: the one remembered, or what asking the Dask provisioner suggests. -/
def engineOf (id : ClusterId) : Routed Engine := do
  match ← lookup id with
  | some engine => return engine
  | none =>
    let probed : Except ProvisionError ObservedCluster ←
      (backend (router.dask.observe id)).attempt
    let engine := match probed with
      | .ok _ => Engine.dask
      | .error _ => Engine.ray
    remember id engine
    return engine

def apply (id : ClusterId) (spec : ClusterSpec) (generation : ℕ)
    (queue : Option QueueAssignment) : Routed ApplyResponse := do
  remember id spec.engine
  match spec.engine with
  | .ray => backend (router.ray.apply id spec generation queue)
  | .dask => backend (router.dask.apply id spec generation)

def ensureNamespacePosture : Routed Unit :=
  backend (Mobula.ensureNamespacePosture router.ray.namespaceName)

def terminate (id : ClusterId) : Routed Unit := do
  match ← router.engineOf id with
  | .ray => backend (router.ray.terminate id)
  | .dask => backend (router.dask.terminate id)

/-- The policy has the same name for both engines. -/
def reapNetworkPolicies (id : ClusterId) : Routed Unit := do
  backend (router.ray.reapNetworkPolicies id)
  backend (router.dask.reapNetworkPolicies id)

def suspend (id : ClusterId) : Routed Unit := do
  match ← router.engineOf id with
  | .ray => backend (router.ray.setSuspend id true)
  | .dask => backend (DaskProvisioner.suspend id)

def resume (id : ClusterId) : Routed Unit := do
  match ← router.engineOf id with
  | .ray => backend (router.ray.setSuspend id false)
  | .dask => backend (DaskProvisioner.resume id)

def observe (id : ClusterId) : Routed ObservedCluster := do
  match ← lookup id with
  | some .ray => backend (router.ray.observe id)
  | some .dask => backend (router.dask.observe id)
  | none =>
    let probed : Except ProvisionError ObservedCluster ←
      (backend (router.dask.observe id)).attempt
    match probed with
    | .ok observed => do
        remember id .dask
        return observed
    | .error (.notFound _) => do
        remember id .ray
        backend (router.ray.observe id)
    | .error failure => throw failure

/-- Everything that is managed, which the router remembers as it goes. -/
def list : Routed (List ObservedCluster) := do
  let ray ← backend router.ray.list
  ray.forM fun observed => remember observed.id .ray
  let dask ← backend router.dask.list
  dask.forM fun observed => remember observed.id .dask
  return ray ++ dask

/-- The cluster has no network policy left. -/
def PolicyAbsent (id : ClusterId) (kubernetes : Kubernetes) : Prop :=
  LacksPolicy router.ray.namespaceName id kubernetes.cluster

variable {router} {id : ClusterId} {kubernetes final : Kubernetes}

theorem policyAbsent_backend {α : Type} {request : Kube α}
    (kept : Keeps (LacksPolicy router.ray.namespaceName id) request) :
    Keeps (router.PolicyAbsent id) (backend request) :=
  kept.onPart fun _ _ => rfl

variable (wanted : ClusterId)

theorem policyAbsent_lookup : Keeps (router.PolicyAbsent id) (lookup wanted) :=
  fun _ absent => absent

theorem policyAbsent_remember (engine : Engine) :
    Keeps (router.PolicyAbsent id) (remember wanted engine) :=
  fun _ absent => absent

theorem lacksPolicy_daskObserve (namespaceName : String) (wanted : ClusterId) :
    Keeps (LacksPolicy namespaceName id) (router.dask.observe wanted) := by
  refine Server.holds_getOpt.adapt.bind ?_
  rintro (_ | object)
  · exact keeps_throw
  · exact (holds_list _).attempt.bind fun _ => keeps_pure

theorem policyAbsent_engineOf : Keeps (router.PolicyAbsent id) (router.engineOf wanted) := by
  refine (policyAbsent_lookup wanted).bind ?_
  intro known
  cases known with
  | some engine => exact keeps_pure
  | none =>
    refine (policyAbsent_backend (lacksPolicy_daskObserve _ wanted)).attempt.bind fun _ => ?_
    exact (policyAbsent_remember wanted _).bind fun _ => keeps_pure

theorem policyAbsent_apply {wanted : ClusterId} (spec : ClusterSpec) (generation : ℕ)
    (queue : Option QueueAssignment) (differs : wanted ≠ id) :
    Keeps (router.PolicyAbsent id) (router.apply wanted spec generation queue) := by
  have otherPolicy (ports : List ℕ) (owner : Option String) :
      manifestName (clusterAllowPolicy ports wanted owner) ≠ clusterAllowPolicyName id := by
    rw [manifestName_clusterAllowPolicy]
    intro same
    exact differs (clusterAllowPolicyName_injective same)
  have otherKind {key : ObjectKey} {fields : AppliedFields} (kind : key.kind ≠ .networkPolicy) :
      Keeps (LacksPolicy router.ray.namespaceName id) (patch key fields) := by
    refine holds_patch ?_
    intro same
    exact kind (congrArg ObjectKey.kind same)
  refine (policyAbsent_remember wanted spec.engine).bind fun _ => ?_
  cases spec.engine with
  | ray =>
    refine policyAbsent_backend ((lacksPolicy_ensureAllow (otherPolicy _ _)).bind fun _ => ?_)
    exact (otherKind (by simp [KubeRayProvisioner.crKey])).bind fun _ => keeps_pure
  | dask =>
    refine policyAbsent_backend ((lacksPolicy_ensureAllow (otherPolicy _ _)).bind fun _ => ?_)
    exact (otherKind (by simp [DaskProvisioner.crKey])).bind fun _ => keeps_pure

theorem policyAbsent_ensureNamespacePosture :
    Keeps (router.PolicyAbsent id) router.ensureNamespacePosture :=
  policyAbsent_backend lacksPolicy_ensureNamespacePosture

theorem policyAbsent_terminate : Keeps (router.PolicyAbsent id) (router.terminate wanted) := by
  refine (policyAbsent_engineOf wanted).bind ?_
  intro engine
  cases engine with
  | ray =>
    exact policyAbsent_backend (lacks_deleteOkGone.bind fun _ => lacksPolicy_deleteClusterAllow)
  | dask =>
    exact policyAbsent_backend (lacks_deleteOkGone.bind fun _ => lacksPolicy_deleteClusterAllow)

theorem policyAbsent_reapNetworkPolicies :
    Keeps (router.PolicyAbsent id) (router.reapNetworkPolicies wanted) :=
  (policyAbsent_backend lacksPolicy_deleteClusterAllow).bind fun _ =>
    policyAbsent_backend lacksPolicy_deleteClusterAllow

theorem policyAbsent_suspend : Keeps (router.PolicyAbsent id) (router.suspend wanted) := by
  refine (policyAbsent_engineOf wanted).bind ?_
  intro engine
  cases engine with
  | ray => exact policyAbsent_backend lacks_mergeSpec
  | dask => exact policyAbsent_backend keeps_pure

theorem policyAbsent_resume : Keeps (router.PolicyAbsent id) (router.resume wanted) := by
  refine (policyAbsent_engineOf wanted).bind ?_
  intro engine
  cases engine with
  | ray => exact policyAbsent_backend lacks_mergeSpec
  | dask => exact policyAbsent_backend keeps_pure

theorem ok_of_backend {α : Type} {request : Kube α} {value : α}
    (sent : (backend request).send kubernetes = (.ok value, final)) :
    request.send kubernetes.cluster = (.ok value, final.cluster) := by
  simp [backend, send_onPart] at sent
  rw [← sent.2]
  exact Prod.ext sent.1 rfl

theorem policyAbsent_of_reapNetworkPolicies
    (sent : (router.reapNetworkPolicies id).send kubernetes = (.ok (), final)) :
    router.PolicyAbsent id final := by
  rcases ok_of_bind sent with ⟨_, middle, _, second⟩
  have deleted := lacksPolicy_of_deleteClusterAllow (ok_of_backend second)
  rwa [router.shared] at deleted

theorem policyAbsent_of_terminate (sent : (router.terminate id).send kubernetes = (.ok (), final)) :
    router.PolicyAbsent id final := by
  rcases ok_of_bind sent with ⟨engine, middle, _, terminated⟩
  cases engine with
  | ray =>
    rcases ok_of_bind (ok_of_backend terminated) with ⟨_, _, _, second⟩
    exact lacksPolicy_of_deleteClusterAllow second
  | dask =>
    rcases ok_of_bind (ok_of_backend terminated) with ⟨_, _, _, second⟩
    have deleted := lacksPolicy_of_deleteClusterAllow second
    rwa [router.shared] at deleted

end EngineRouter

end Mobula
