import Mobula.Provision.Kueue

/-!
# Serve services

A service is a RayService object. Its pods carry the label that the pods of a cluster carry, and
its network policy is named and made as a cluster's. Nothing keeps the names of services apart
from the ids of clusters.
-/

namespace Mobula

open Foundation Server

inductive UpgradeStrategy where
  | canary
  | inPlace
  deriving DecidableEq, Repr

structure ServiceSpec where
  rayVersion : String
  image : String
  serveConfigV2 : String
  headCpu : String
  headMemory : String
  workerReplicas : ℕ
  workerCpu : String
  workerMemory : String
  upgrade : UpgradeStrategy

namespace KubeRay

def SERVICE_KIND : String := "RayService"

def upgradeType : UpgradeStrategy → String
  | .canary => "NewCluster"
  | .inPlace => "None"

/-- The worker group of a service; its size is fixed. -/
def serviceWorker (spec : ServiceSpec) : WorkerGroup where
  name := "worker"
  cpu := spec.workerCpu
  memory := spec.workerMemory
  gpu := none
  minReplicas := spec.workerReplicas
  maxReplicas := spec.workerReplicas
  replicas := spec.workerReplicas

def rayClusterConfig (name : String) (spec : ServiceSpec) : Json :=
  .object
    [("rayVersion", .str spec.rayVersion),
      ("headGroupSpec", .object
        [("rayStartParams", .object [("dashboard-host", .str "0.0.0.0")]),
          ("template", podTemplate name "ray-head" spec.image spec.headCpu spec.headMemory none
            none none)]),
      ("workerGroupSpecs", .arr
        [workerGroupSpec name (serviceWorker spec) spec.image false none none])]

def toRayservice (name : String) (spec : ServiceSpec) : Json :=
  .object
    [("apiVersion", .str API_VERSION), ("kind", .str SERVICE_KIND),
      ("metadata", .object
        [("name", .str name),
          ("labels", .object
            [(MANAGED_BY_LABEL, .str FIELD_MANAGER), (CLUSTER_ID_LABEL, .str name)])]),
      ("spec", .object
        [("serveConfigV2", .str spec.serveConfigV2),
          ("upgradeStrategy", .object [("type", .str (upgradeType spec.upgrade))]),
          ("rayClusterConfig", rayClusterConfig name spec)])]

end KubeRay

namespace KubeRayProvisioner

variable (ray : KubeRayProvisioner)

def serviceKey (name : String) : ObjectKey :=
  ⟨.rayService, some ray.namespaceName, name⟩

def deploy (name : String) (spec : ServiceSpec) : Kube Unit := do
  ensureAllow ray.namespaceName (KubeRay.clusterAllowNetworkPolicy name none)
  Kube.patch (ray.serviceKey name)
    ⟨[(MANAGED_BY_LABEL, FIELD_MANAGER), (CLUSTER_ID_LABEL, name)], [],
      (KubeRay.toRayservice name spec).index "spec"⟩

def delete (name : String) : Kube Unit := do
  Kube.deleteOkGone (ray.serviceKey name)
  deleteClusterAllow ray.namespaceName name

end KubeRayProvisioner

/-- The templates of the pods of a service, by its specification. -/
def servicePodTemplates (spec : Json) : List Json :=
  let config := spec.index "rayClusterConfig"
  (config.index "headGroupSpec").index "template" ::
    ((config.index "workerGroupSpecs").asArray?.getD []).map (·.index "template")

/-- A pod carries the labels of the template that it is made from. -/
def MadeFrom (template : Json) (pod : KubeObject) : Prop :=
  ∀ key value, ((template.index "metadata").index "labels").get? key = some (.str value) →
    pod.label? key = some value

/-- A policy selects the pods that carry all the labels it matches. -/
def Selects (policy : Json) (pod : KubeObject) : Prop :=
  ∃ labels, ((policy.index "podSelector").index "matchLabels").asStringMap? = some labels ∧
    ∀ entry ∈ labels, pod.label? entry.1 = some entry.2

section Selection

variable {name : String} {id : ClusterId} {pod : KubeObject}

theorem selects_clusterAllowPolicy {ports : List ℕ} {owner : Option String} :
    Selects ((clusterAllowPolicy ports id owner).index "spec") pod ↔
      pod.label? CLUSTER_ID_LABEL = some id := by
  have labels : (((clusterAllowPolicy ports id owner).index "spec").index "podSelector").index
      "matchLabels" = .obj [(CLUSTER_ID_LABEL, .str id)] := by
    simp only [clusterAllowPolicy, spec_policyManifest, Json.index_object]
    rfl
  rw [Selects, labels]
  simp [Json.asStringMap?, Json.asObject?, Json.asStr?]

theorem label_of_madeFrom_podTemplate {container image cpu memory : String} {gpu : Option String}
    {generation : Option ℕ} {owner : Option String}
    (made : MadeFrom (KubeRay.podTemplate name container image cpu memory gpu generation owner)
      pod) : pod.label? CLUSTER_ID_LABEL = some name := by
  apply made
  simp [KubeRay.podTemplate, podLabels]

/-- Every pod of a service is labelled with its name. -/
theorem label_of_servicePod {spec : ServiceSpec} {template : Json}
    (templateMem : template ∈ servicePodTemplates ((KubeRay.toRayservice name spec).index "spec"))
    (made : MadeFrom template pod) : pod.label? CLUSTER_ID_LABEL = some name := by
  have templates : servicePodTemplates ((KubeRay.toRayservice name spec).index "spec") =
      [KubeRay.podTemplate name "ray-head" spec.image spec.headCpu spec.headMemory none none none,
        KubeRay.podTemplate name "ray-worker" spec.image spec.workerCpu spec.workerMemory none none
          none] := by
    simp [servicePodTemplates, KubeRay.toRayservice, KubeRay.rayClusterConfig,
      KubeRay.workerGroupSpec, KubeRay.serviceWorker, Json.asArray?]
  rw [templates, List.mem_pair] at templateMem
  rcases templateMem with rfl | rfl <;> exact label_of_madeFrom_podTemplate made

end Selection

namespace KubeRayProvisioner

variable {ray : KubeRayProvisioner} {name : String} {id : ClusterId} {found : Option KubeObject}

theorem clusterPolicyKey_ne (differ : name ≠ id) :
    policyKey ray.namespaceName (clusterAllowPolicyName id) ≠
      policyKey ray.namespaceName (clusterAllowPolicyName name) := by
  intro same
  exact differ (clusterAllowPolicyName_injective (congrArg ObjectKey.name same)).symm

theorem holds_deploy (differ : name ≠ id) (spec : ServiceSpec) :
    Request.Keeps (Server.Holds (policyKey ray.namespaceName (clusterAllowPolicyName id)) found)
      (ray.deploy name spec) := by
  refine (holds_ensureAllow ?_).bind fun _ => Kube.holds_patch (by simp [serviceKey, policyKey])
  rw [KubeRay.clusterAllowNetworkPolicy, manifestName_clusterAllowPolicy]
  exact (clusterPolicyKey_ne differ).symm

theorem holds_delete (differ : name ≠ id) :
    Request.Keeps (Server.Holds (policyKey ray.namespaceName (clusterAllowPolicyName id)) found)
      (ray.delete name) :=
  (Kube.holds_deleteOkGone (by simp [serviceKey, policyKey])).bind fun _ =>
    Kube.holds_deleteOkGone (clusterPolicyKey_ne differ)

/-- Deploying and deleting a service leave the policy of a cluster as it is, and no policy of the
cluster selects a pod of the service, if and only if the service is not named like the cluster. -/
theorem services_spare_cluster_iff (ray : KubeRayProvisioner) (name : String) (id : ClusterId) :
    ((∀ spec cluster, ((ray.deploy name spec).send cluster).2.objects.find?
          (policyKey ray.namespaceName (clusterAllowPolicyName id)) =
        cluster.objects.find? (policyKey ray.namespaceName (clusterAllowPolicyName id))) ∧
      (∀ cluster, ((ray.delete name).send cluster).2.objects.find?
          (policyKey ray.namespaceName (clusterAllowPolicyName id)) =
        cluster.objects.find? (policyKey ray.namespaceName (clusterAllowPolicyName id))) ∧
      ∀ spec, ∀ template ∈ servicePodTemplates ((KubeRay.toRayservice name spec).index "spec"),
        ∀ pod, MadeFrom template pod → ∀ owner,
          ¬Selects ((KubeRay.clusterAllowNetworkPolicy id owner).index "spec") pod ∧
          ¬Selects ((Dask.clusterAllowNetworkPolicy id owner).index "spec") pod) ↔
      name ≠ id := by
  constructor
  · rintro ⟨-, kept, -⟩ rfl
    -- a service of that name takes the policy with it
    let policy : KubeObject :=
      ⟨policyKey ray.namespaceName (clusterAllowPolicyName name), ⟨[], [], .null⟩, [], .null⟩
    have stays := kept (calm (Table.empty.insert policy))
    have gone : ((ray.delete name).send (calm (Table.empty.insert policy))).2.objects.find?
        policy.key = none := by
      simp only [delete, deleteClusterAllow, Kube.deleteOkGone, Request.send_bind,
        Request.send_adapt, send_deleteIfPresent_calm, Except.mapError]
      simp [calm, Table.find?_erase, policy]
    rw [gone] at stays
    simp [calm, Table.find?_insert, policy] at stays
  · intro differ
    refine ⟨?_, ?_, ?_⟩
    · intro spec cluster
      exact holds_deploy differ spec cluster rfl
    · intro cluster
      exact holds_delete differ cluster rfl
    · intro spec template templateMem pod made owner
      have labelled := label_of_servicePod templateMem made
      constructor
      · intro selected
        rw [KubeRay.clusterAllowNetworkPolicy, selects_clusterAllowPolicy, labelled] at selected
        exact differ (Option.some.inj selected)
      · intro selected
        rw [Dask.clusterAllowNetworkPolicy, selects_clusterAllowPolicy, labelled] at selected
        exact differ (Option.some.inj selected)

def demoService : ServiceSpec :=
  ⟨"2.57.0", "img", "applications: []", "1", "2Gi", 2, "1", "2Gi", .canary⟩

/-- The policy of the cluster "team", whose owner may reach it. -/
def teamPolicy : KubeObject :=
  ⟨policyKey oneNamespace.ray.namespaceName (clusterAllowPolicyName "team"),
    ⟨[(MANAGED_BY_LABEL, FIELD_MANAGER), (CLUSTER_ID_LABEL, "team")], [],
      (KubeRay.clusterAllowNetworkPolicy "team" (some "ada")).index "spec"⟩, [], .null⟩

def ingressRules (cluster : KubeCluster) : Option ℕ :=
  (cluster.objects.find? teamPolicy.key).bind fun policy =>
    (policy.applied.spec.index "ingress").asArray?.map (·.length)

/-- A service named like the cluster shuts its owner out, and takes its policy with it. -/
theorem service_strips_cluster_policy :
    ingressRules (calm (Table.empty.insert teamPolicy)) = some 2 ∧
      ingressRules ((oneNamespace.ray.deploy "team" demoService).send
        (calm (Table.empty.insert teamPolicy))).2 = some 1 ∧
      ingressRules ((oneNamespace.ray.delete "team").send
        (calm (Table.empty.insert teamPolicy))).2 = none := by
  decide +kernel

end KubeRayProvisioner

end Mobula
