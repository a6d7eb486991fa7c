import Mobula.Provision.Kubernetes

/-!
# The security posture of a namespace

Tenant pods are denied all traffic by default. One policy opens what every tenant needs, and
each cluster has a policy of its own. Where an administrator runs a default-deny policy, no
policy is added, since it could only widen the administrator's.
-/

namespace Mobula

open Foundation Kube Request

variable {name : String} {labels spec : List (String × Json)}

def NETWORK_POLICY_API_VERSION : String := "networking.k8s.io/v1"

def NETWORK_POLICY_KIND : String := "NetworkPolicy"

def DEFAULT_DENY_POLICY_NAME : String := "mobula-default-deny"

def TENANT_ALLOW_POLICY_NAME : String := "mobula-tenant-allow"

def CLUSTER_ALLOW_POLICY_PREFIX : String := "mobula-cluster-"

def CONTROL_PLANE_NAMESPACE_LABEL : String := "mobula.dev/control-plane"

def CONTROL_PLANE_POD_LABEL : String := "mobula.dev/control-plane"

def NOTEBOOK_NAMESPACE : String := "jupyter"

def PSS_ENFORCE_LABEL : String := "pod-security.kubernetes.io/enforce"

def PSS_WARN_LABEL : String := "pod-security.kubernetes.io/warn"

def PSS_AUDIT_LABEL : String := "pod-security.kubernetes.io/audit"

def clusterAllowPolicyName (id : ClusterId) : String :=
  CLUSTER_ALLOW_POLICY_PREFIX ++ id

def matchLabels (key value : String) : Json :=
  .object [("matchLabels", .object [(key, .str value)])]

def tenantPodSelector : Json :=
  .object
    [("matchExpressions", .arr
      [.object [("key", .str CLUSTER_ID_LABEL), ("operator", .str "Exists")]])]

def port (protocol : String) (number : ℕ) : Json :=
  .object [("protocol", .str protocol), ("port", .nat number)]

def podsIn (namespaces pods : Json) : Json :=
  .object [("namespaceSelector", namespaces), ("podSelector", pods)]

def policyManifest (name : String) (labels spec : List (String × Json)) : Json :=
  .object
    [("apiVersion", .str NETWORK_POLICY_API_VERSION), ("kind", .str NETWORK_POLICY_KIND),
      ("metadata", .object [("name", .str name), ("labels", .object labels)]),
      ("spec", .object spec)]

def bothDirections : Json :=
  .arr [.str "Ingress", .str "Egress"]

def defaultDenyNetworkPolicy : Json :=
  policyManifest DEFAULT_DENY_POLICY_NAME [(MANAGED_BY_LABEL, .str FIELD_MANAGER)]
    [("podSelector", tenantPodSelector), ("policyTypes", bothDirections)]

def tenantAllowNetworkPolicy : Json :=
  let controlPlanePods := matchLabels CONTROL_PLANE_POD_LABEL "true"
  policyManifest TENANT_ALLOW_POLICY_NAME [(MANAGED_BY_LABEL, .str FIELD_MANAGER)]
    [("podSelector", tenantPodSelector), ("policyTypes", bothDirections),
      ("ingress", .arr
        [.object
          [("from", .arr
            [.object [("podSelector", controlPlanePods)],
              podsIn (matchLabels CONTROL_PLANE_NAMESPACE_LABEL "true") controlPlanePods]),
            ("ports", .arr [port "TCP" 8265, port "TCP" 10001])],
          .object
            [("from", .arr
              [podsIn (.object []) (matchLabels "app.kubernetes.io/name" "kuberay-operator")]),
              ("ports", .arr [port "TCP" 8265, port "TCP" 52365, port "TCP" 8000])]]),
      ("egress", .arr
        [.object
          [("to", .arr
            [podsIn (matchLabels "kubernetes.io/metadata.name" "kube-system")
              (matchLabels "k8s-app" "kube-dns")]),
            ("ports", .arr [port "UDP" 53, port "TCP" 53])]])]

/-- The policy of one cluster; the owner's notebook may reach the given ports. -/
def clusterAllowPolicy (ports : List ℕ) (id : ClusterId) (owner : Option String) : Json :=
  let sameCluster := matchLabels CLUSTER_ID_LABEL id
  let ownerRule := match owner with
    | none => []
    | some owner =>
      [Json.object
        [("from", .arr
          [podsIn (matchLabels "kubernetes.io/metadata.name" NOTEBOOK_NAMESPACE)
            (matchLabels OWNER_LABEL owner)]),
          ("ports", .arr (ports.map (port "TCP")))]]
  policyManifest (clusterAllowPolicyName id)
    [(MANAGED_BY_LABEL, .str FIELD_MANAGER), (CLUSTER_ID_LABEL, .str id)]
    [("podSelector", sameCluster), ("policyTypes", bothDirections),
      ("ingress", .arr
        ([.object [("from", .arr [.object [("podSelector", sameCluster)]])]] ++ ownerRule)),
      ("egress", .arr [.object [("to", .arr [.object [("podSelector", sameCluster)]])]])]

def KubeRay.clusterAllowNetworkPolicy (id : ClusterId) (owner : Option String) : Json :=
  clusterAllowPolicy [10001, 8265] id owner

def Dask.clusterAllowNetworkPolicy (id : ClusterId) (owner : Option String) : Json :=
  clusterAllowPolicy [Dask.SCHEDULER_COMM_PORT, Dask.SCHEDULER_DASHBOARD_PORT] id owner

def namespacePssLabels : List (String × String) :=
  [(PSS_ENFORCE_LABEL, "baseline"), (PSS_WARN_LABEL, "restricted"),
    (PSS_AUDIT_LABEL, "restricted")]

def isDefaultDeny (spec : Json) : Bool :=
  let selectsAll := ((spec.get? "podSelector").bind (·.asObject?)).any (·.isEmpty)
  let types := (((spec.get? "policyTypes").bind (·.asArray?)).getD []).filterMap (·.asStr?)
  let noRules (key : String) : Bool :=
    match spec.get? key with
    | none => true
    | some rules => rules.asArray?.any (·.isEmpty)
  selectsAll && types.contains "Ingress" && types.contains "Egress" && noRules "ingress" &&
    noRules "egress"

def policyKey (namespaceName name : String) : ObjectKey :=
  ⟨.networkPolicy, some namespaceName, name⟩

/-- Whether an administrator runs a default-deny policy in the namespace. -/
def adminManagedDeny (namespaceName : String) : Kube Bool := do
  let existing ← Kube.list (Kube.inNamespace .networkPolicy namespaceName)
  return existing.any fun policy =>
    policy.label? MANAGED_BY_LABEL ≠ some FIELD_MANAGER && isDefaultDeny policy.applied.spec

def manifestName (manifest : Json) : String :=
  ((manifest.index "metadata").index "name").asStr?.getD ""

def applyNetworkPolicy (namespaceName : String) (manifest : Json) : Kube Unit :=
  match ((manifest.index "metadata").index "labels").asStringMap? with
  | none => throw (.backend "invalid type: labels")
  | some labels =>
    Kube.patch (policyKey namespaceName (manifestName manifest))
      ⟨labels, [], manifest.index "spec"⟩

/-- Ensure the policy of one cluster, given its manifest. -/
def ensureAllow (namespaceName : String) (manifest : Json) : Kube Unit := do
  if ← adminManagedDeny namespaceName then return ()
  else applyNetworkPolicy namespaceName manifest

def deleteClusterAllow (namespaceName : String) (id : ClusterId) : Kube Unit :=
  Kube.deleteOkGone (policyKey namespaceName (clusterAllowPolicyName id))

/-- The labels by which a namespace restricts its pods; a stricter level is left alone. -/
def ensurePodSecurity (namespaceName : String) : Kube Unit := do
  let key : ObjectKey := ⟨.namespaceObject, none, namespaceName⟩
  match ← Kube.getOpt key with
  | none => throw (.backend ("namespace " ++ namespaceName ++ " not found"))
  | some current =>
    if current.label? PSS_ENFORCE_LABEL = some "restricted" then return ()
    else Kube.patch key ⟨namespacePssLabels, [], current.applied.spec⟩

def ensureNamespacePosture (namespaceName : String) : Kube Unit := do
  if ← adminManagedDeny namespaceName then ensurePodSecurity namespaceName
  else do
    applyNetworkPolicy namespaceName defaultDenyNetworkPolicy
    applyNetworkPolicy namespaceName tenantAllowNetworkPolicy
    ensurePodSecurity namespaceName

theorem manifestName_policyManifest : manifestName (policyManifest name labels spec) = name := by
  simp [manifestName, policyManifest, Json.asStr?]

theorem spec_policyManifest : (policyManifest name labels spec).index "spec" = .object spec := by
  simp [policyManifest]

theorem manifestName_clusterAllowPolicy {ports : List ℕ} {id : ClusterId} {owner : Option String} :
    manifestName (clusterAllowPolicy ports id owner) = clusterAllowPolicyName id :=
  manifestName_policyManifest

theorem clusterAllowPolicyName_injective {first second : ClusterId}
    (same : clusterAllowPolicyName first = clusterAllowPolicyName second) : first = second := by
  have texts := congrArg String.toList same
  simp only [clusterAllowPolicyName, String.toList_append, List.append_cancel_left_eq] at texts
  exact String.toList_injective texts

theorem clusterAllowPolicyName_ne (id : ClusterId) :
    clusterAllowPolicyName id ≠ DEFAULT_DENY_POLICY_NAME ∧
      clusterAllowPolicyName id ≠ TENANT_ALLOW_POLICY_NAME := by
  have start : (clusterAllowPolicyName id).toList.take 15 = CLUSTER_ALLOW_POLICY_PREFIX.toList := by
    rw [clusterAllowPolicyName, String.toList_append]
    rfl
  constructor
  · intro same
    rw [same] at start
    exact absurd start (by decide)
  · intro same
    rw [same] at start
    exact absurd start (by decide)

variable {namespaceName wanted : String} {id : ClusterId} {cluster final : KubeCluster}
  {absent : ObjectKey} {found : Option KubeObject} {manifest : Json}

theorem holds_adminManagedDeny (wanted : String) :
    Keeps (Server.Holds absent found) (adminManagedDeny wanted) :=
  (holds_list _).bind fun _ => keeps_pure

theorem holds_applyNetworkPolicy (differs : policyKey wanted (manifestName manifest) ≠ absent) :
    Keeps (Server.Holds absent found) (applyNetworkPolicy wanted manifest) := by
  unfold applyNetworkPolicy
  split
  · exact keeps_throw
  · exact holds_patch differs

theorem holds_ensureAllow (differs : policyKey wanted (manifestName manifest) ≠ absent) :
    Keeps (Server.Holds absent found) (ensureAllow wanted manifest) := by
  refine (holds_adminManagedDeny wanted).bind ?_
  rintro (_ | _)
  · exact holds_applyNetworkPolicy differs
  · exact keeps_pure

theorem holds_ensurePodSecurity (otherKind : absent.kind ≠ .namespaceObject) :
    Keeps (Server.Holds absent found) (ensurePodSecurity wanted) := by
  refine holds_getOpt.bind ?_
  rintro (_ | current)
  · exact keeps_throw
  simp only
  split
  · exact keeps_pure
  · refine holds_patch ?_
    intro same
    exact otherKind (congrArg ObjectKey.kind same).symm

theorem holds_ensureNamespacePosture
    (deny : policyKey wanted (manifestName defaultDenyNetworkPolicy) ≠ absent)
    (tenant : policyKey wanted (manifestName tenantAllowNetworkPolicy) ≠ absent)
    (otherKind : absent.kind ≠ .namespaceObject) :
    Keeps (Server.Holds absent found) (ensureNamespacePosture wanted) := by
  refine (holds_adminManagedDeny wanted).bind ?_
  intro denies
  cases denies with
  | true => exact holds_ensurePodSecurity otherKind
  | false =>
    refine (holds_applyNetworkPolicy deny).bind fun _ => ?_
    refine (holds_applyNetworkPolicy tenant).bind fun _ => ?_
    exact holds_ensurePodSecurity otherKind

def LacksPolicy (namespaceName : String) (id : ClusterId) : KubeCluster → Prop :=
  Server.Lacks (policyKey namespaceName (clusterAllowPolicyName id))

theorem lacksPolicy_ensureAllow (differs : manifestName manifest ≠ clusterAllowPolicyName id) :
    Keeps (LacksPolicy namespaceName id) (ensureAllow wanted manifest) := by
  apply holds_ensureAllow
  intro same
  exact differs (congrArg ObjectKey.name same)

theorem lacksPolicy_deleteClusterAllow {deleted : ClusterId} :
    Keeps (LacksPolicy namespaceName id) (deleteClusterAllow wanted deleted) :=
  lacks_deleteOkGone

theorem lacksPolicy_ensureNamespacePosture :
    Keeps (LacksPolicy namespaceName id) (ensureNamespacePosture wanted) := by
  have distinct := clusterAllowPolicyName_ne id
  apply holds_ensureNamespacePosture
  · intro same
    rw [defaultDenyNetworkPolicy, manifestName_policyManifest] at same
    exact distinct.1 (congrArg ObjectKey.name same).symm
  · intro same
    rw [tenantAllowNetworkPolicy, manifestName_policyManifest] at same
    exact distinct.2 (congrArg ObjectKey.name same).symm
  · simp [policyKey]

theorem lacksPolicy_of_deleteClusterAllow
    (sent : (deleteClusterAllow namespaceName id).send cluster = (.ok (), final)) :
    LacksPolicy namespaceName id final := by
  rw [LacksPolicy, Server.Lacks, objects_of_deleteOkGone sent, Table.find?_erase, if_pos rfl]

end Mobula
