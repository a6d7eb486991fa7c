import Mobula.Provision.Demo
import Mobula.Provision.Kueue

/-!
# The applied object and the rendered manifest

The Ray provisioner renders a manifest and then builds the object that it applies, whose
metadata it writes anew: without the label of the owner and the annotation of an elastic queue.
-/

namespace Mobula

open Foundation KubeRay

/-- An object has the name, the labels, the annotations and the specification of a manifest. -/
structure KubeObject.Renders (object : KubeObject) (manifest : Json) : Prop where
  name : (manifest.index "metadata").index "name" = .str object.key.name
  labels : (manifest.index "metadata").index "labels" = stringMap object.applied.labels
  annotations :
    (manifest.index "metadata").index "annotations" = stringMap object.applied.annotations
  spec : manifest.index "spec" = object.applied.spec

namespace KubeRayProvisioner

variable {ray : KubeRayProvisioner} {id : ClusterId} {spec : ClusterSpec} {generation : ℕ}
  {queue : Option QueueAssignment} {object : KubeObject}

theorem metadata_toRaycluster (autoscaling : Bool) :
    (toRaycluster id spec autoscaling generation queue).index "metadata" =
      .object [("name", .str id), ("labels", labels id spec.owner queue),
        ("annotations", annotations generation queue)] := by
  simp [toRaycluster]

theorem renders_iff (isKey : object.key = ray.crKey id)
    (isApplied : object.applied = ray.crFields id spec generation queue) :
    object.Renders (toRaycluster id spec ray.autoscaling generation queue) ↔
      labels id spec.owner queue = stringMap object.applied.labels ∧
        annotations generation queue = stringMap object.applied.annotations := by
  have labels : ((toRaycluster id spec ray.autoscaling generation queue).index
      "metadata").index "labels" = labels id spec.owner queue := by
    simp [metadata_toRaycluster]
  have annotations : ((toRaycluster id spec ray.autoscaling generation queue).index
      "metadata").index "annotations" = annotations generation queue := by
    simp [metadata_toRaycluster]
  constructor
  · intro renders
    exact ⟨labels.symm.trans renders.labels, annotations.symm.trans renders.annotations⟩
  · rintro ⟨sameLabels, sameAnnotations⟩
    refine ⟨?_, labels.trans sameLabels, annotations.trans sameAnnotations, ?_⟩
    · simp [metadata_toRaycluster, isKey, crKey]
    · rw [isApplied]
      rfl

theorem labels_iff :
    labels id spec.owner queue = stringMap (ray.crFields id spec generation queue).labels ↔
      spec.owner = none := by
  constructor
  · intro same
    rcases isOwner : spec.owner with _ | owner
    · rfl
    have written : (labels id (some owner) queue).get? OWNER_LABEL = some (.str owner) := by
      simp [labels, optionalField, OWNER_LABEL, MANAGED_BY_LABEL, CLUSTER_ID_LABEL]
    have missing : (stringMap (ray.crFields id spec generation queue).labels).get?
        OWNER_LABEL = none := by
      cases queue <;> simp [stringMap, crFields, OWNER_LABEL, MANAGED_BY_LABEL,
        CLUSTER_ID_LABEL, QUEUE_LABEL]
    rw [isOwner] at same
    rw [same, missing] at written
    cases written
  · intro isOwner
    rw [isOwner]
    cases queue <;> rfl

theorem annotations_iff : annotations generation queue =
        stringMap (ray.crFields id spec generation queue).annotations ↔
      queue.any (·.elastic) = false := by
  constructor
  · intro same
    cases isElastic : queue.any (·.elastic) with
    | false => rfl
    | true =>
      have written : (annotations generation queue).get? ELASTIC_JOB_ANNOTATION =
          some (.str "true") := by
        simp [annotations, isElastic, generationStamp, GENERATION_ANNOTATION,
          ELASTIC_JOB_ANNOTATION]
      have missing : (stringMap (ray.crFields id spec generation queue).annotations).get?
          ELASTIC_JOB_ANNOTATION = none := by
        simp [stringMap, crFields, ELASTIC_JOB_ANNOTATION, GENERATION_ANNOTATION]
      rw [same, missing] at written
      cases written
  · intro isElastic
    rw [annotations, isElastic]
    rfl

theorem applied_of_apply {cluster final : KubeCluster} {response : ApplyResponse}
    (sent : (ray.apply id spec generation queue).send cluster = (.ok response, final)) :
    ∃ object, final.objects.find? (ray.crKey id) = some object ∧ object.key = ray.crKey id ∧
      object.applied = ray.crFields id spec generation queue := by
  rcases Request.ok_of_bind sent with ⟨_, allowed, _, patching⟩
  rcases Request.ok_of_bind patching with ⟨_, patched, patchSent, rest⟩
  rcases Prod.mk.inj rest with ⟨_, rfl⟩
  refine ⟨_, ?_, KubeObject.afterApply_key _ _ (allowed.objects.find? (ray.crKey id)),
    KubeObject.afterApply_applied _ _ _⟩
  rw [Kube.objects_of_patch patchSent, Table.find?_insert, KubeObject.afterApply_key, if_pos rfl]

/-- What an apply stores renders the manifest exactly for a cluster without an owner in no elastic
queue. -/
theorem applied_object_renders_iff (ray : KubeRayProvisioner) (id : ClusterId)
    (spec : ClusterSpec) (generation : ℕ) (queue : Option QueueAssignment)
    {cluster final : KubeCluster} {response : ApplyResponse}
    (sent : (ray.apply id spec generation queue).send cluster = (.ok response, final)) :
    ∃ object, final.objects.find? (ray.crKey id) = some object ∧
      (object.Renders (KubeRay.toRaycluster id spec ray.autoscaling generation queue) ↔
        spec.owner = none ∧ queue.any (·.elastic) = false) := by
  rcases applied_of_apply sent with ⟨object, found, isKey, isApplied⟩
  refine ⟨object, found, ?_⟩
  rw [renders_iff isKey isApplied, isApplied, labels_iff, annotations_iff]

/-- A cluster without an owner in a plain queue. -/
theorem applied_object_renders_plain :
    ∃ object : KubeObject, object.Renders
      (KubeRay.toRaycluster "c1" (headOnly "p") false 1 (some ⟨"p", false⟩)) := by
  rcases @applied_object_renders_iff oneNamespace.ray "c1" (headOnly "p") 1 (some ⟨"p", false⟩)
    (Server.calm .empty) _ _ rfl with ⟨object, _, renders⟩
  exact ⟨object, renders.mpr ⟨rfl, rfl⟩⟩

def ownedSpec : ClusterSpec :=
  { headOnly "p" with owner := some "alice" }

/-- The owner's label and the annotation of an elastic queue do not reach the object. -/
theorem applied_object_lacks_owner :
    ∃ response final object,
      (oneNamespace.ray.apply "c1" ownedSpec 1 (some ⟨"p", true⟩)).send (Server.calm .empty) =
        (.ok response, final) ∧
      final.objects.find? (oneNamespace.ray.crKey "c1") = some object ∧
      object.label? OWNER_LABEL = none ∧ object.annotation? ELASTIC_JOB_ANNOTATION = none ∧
      ¬object.Renders (KubeRay.toRaycluster "c1" ownedSpec false 1 (some ⟨"p", true⟩)) := by
  refine ⟨_, _, _, rfl, rfl, rfl, rfl, ?_⟩
  intro renders
  have agree := (@renders_iff oneNamespace.ray "c1" ownedSpec 1 (some ⟨"p", true⟩) _ rfl rfl).mp
    renders
  cases labels_iff.mp agree.1

end KubeRayProvisioner

end Mobula
