import Mobula.Controller.World
import Mobula.Foundation.Requests

/-!
# The Kubernetes API

A server-side apply states what its field manager wants the labels, the annotations and the
specification of an object to be; what others wrote, their labels and the status, stays. An
object that is not there is created.
-/

namespace Mobula

open Foundation Server

inductive ObjectKind where
  | rayCluster
  | daskCluster
  | rayService
  | networkPolicy
  | namespaceObject
  | pod
  | cohort
  | resourceFlavor
  | clusterQueue
  | localQueue
  deriving DecidableEq, Repr

/-- Where an object is found; cluster-scoped objects have no namespace. -/
structure ObjectKey where
  kind : ObjectKind
  namespaceName : Option String
  name : String
  deriving DecidableEq, Repr

/-- The fields of an object that the control plane applies. -/
structure AppliedFields where
  labels : List (String × String)
  annotations : List (String × String)
  spec : Json

structure KubeObject where
  key : ObjectKey
  applied : AppliedFields
  foreignLabels : List (String × String)
  status : Json

namespace KubeObject

def label? (object : KubeObject) (name : String) : Option String :=
  ((object.applied.labels ++ object.foreignLabels).find? (·.1 = name)).map (·.2)

def annotation? (object : KubeObject) (name : String) : Option String :=
  (object.applied.annotations.find? (·.1 = name)).map (·.2)

def afterApply (key : ObjectKey) (fields : AppliedFields) : Option KubeObject → KubeObject
  | none => ⟨key, fields, [], .null⟩
  | some object => { object with key := key, applied := fields }

@[simp]
theorem afterApply_key (key : ObjectKey) (fields : AppliedFields) (current : Option KubeObject) :
    (afterApply key fields current).key = key := by
  cases current <;> rfl

@[simp]
theorem afterApply_applied (key : ObjectKey) (fields : AppliedFields)
    (current : Option KubeObject) : (afterApply key fields current).applied = fields := by
  cases current <;> rfl

end KubeObject

abbrev KubeCluster := Server KubeObject.key

abbrev Kube := Request KubeCluster ProvisionError

namespace Kube

def ofApi : ApiError → ProvisionError
  | failure => .backend failure.message

def getOpt (key : ObjectKey) : Kube (Option KubeObject) :=
  (Server.getOpt key).adapt ofApi

def list (selects : KubeObject → Bool) : Kube (List KubeObject) :=
  (Server.list selects).adapt ofApi

def patch (key : ObjectKey) (fields : AppliedFields) : Kube Unit :=
  (put key (KubeObject.afterApply key fields)).adapt ofApi

def mergeSpec (key : ObjectKey) (field : String) (value : Json) : Kube Unit :=
  (update key fun object =>
    { object with applied.spec := object.applied.spec.setField field value }).adapt ofApi

def deleteOkGone (key : ObjectKey) : Kube Unit :=
  (deleteIfPresent key).adapt ofApi

def inNamespace (kind : ObjectKind) (namespaceName : String) (object : KubeObject) : Bool :=
  object.key.kind = kind && object.key.namespaceName = some namespaceName

variable {key absent : ObjectKey} {fields : AppliedFields} {cluster final : KubeCluster}
  {found : Option KubeObject}

theorem holds_getOpt : Request.Keeps (Server.Holds absent found) (getOpt key) :=
  Server.holds_getOpt.adapt

theorem holds_list (selects : KubeObject → Bool) :
    Request.Keeps (Server.Holds absent found) (list selects) :=
  (Server.holds_list selects).adapt

theorem holds_patch (differs : key ≠ absent) :
    Request.Keeps (Server.Holds absent found) (patch key fields) := by
  refine (holds_put ?_).adapt
  intro current
  rwa [KubeObject.afterApply_key]

theorem lacks_mergeSpec {field : String} {value : Json} :
    Request.Keeps (Server.Lacks absent) (mergeSpec key field value) :=
  Request.Keeps.adapt (lacks_update fun _ => rfl)

theorem holds_deleteOkGone (differs : absent ≠ key) :
    Request.Keeps (Server.Holds absent found) (deleteOkGone key) :=
  (holds_deleteIfPresent differs).adapt

theorem lacks_deleteOkGone : Request.Keeps (Server.Lacks absent) (deleteOkGone key) :=
  lacks_deleteIfPresent.adapt

theorem objects_of_deleteOkGone (sent : (deleteOkGone key).send cluster = (.ok (), final)) :
    final.objects = cluster.objects.erase key :=
  objects_of_deleteIfPresent (Request.ok_of_adapt sent)

theorem objects_of_patch (sent : (patch key fields).send cluster = (.ok (), final)) :
    final.objects =
      cluster.objects.insert (KubeObject.afterApply key fields (cluster.objects.find? key)) :=
  objects_of_put (Request.ok_of_adapt sent)

theorem objects_of_list {selects : KubeObject → Bool} {listed : List KubeObject}
    (sent : (list selects).send cluster = (.ok listed, final)) :
    listed = cluster.objects.rows.filter selects ∧ final.objects = cluster.objects :=
  Server.objects_of_list (Request.ok_of_adapt sent)

end Kube

end Mobula
