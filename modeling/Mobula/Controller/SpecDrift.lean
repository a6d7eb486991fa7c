import Mobula.Controller.Convergence
import Mobula.Provision.Kueue
import Mobula.Provision.OwnedFields

/-!
# Drift of a specification

A pass over a cluster that runs at the desired generation compares the owned fields of the live
object with those of the specification. Everything that is read back counts.
-/

namespace Mobula

open Foundation KubeRay

variable {Provider : Type} {platform : Platform Provider} {thread : ℕ}
  {world : World Provider} {row : StoredCluster} {now : ℕ} {observed : ObservedCluster}
  {live rendered : Json}

/-- The live specification can be read, and what is read is not what was rendered. -/
def ReadsDifferently (live rendered : Json) : Prop :=
  ∃ fields, (writtenFields live).read = some fields ∧ (writtenFields rendered).read ≠ some fields

theorem ReadsDifferently.written (differs : ReadsDifferently live rendered) :
    writtenFields live ≠ writtenFields rendered := by
  rcases differs with ⟨fields, read, other⟩
  intro same
  rw [same] at read
  exact other read

theorem driftCheck_of_fields (isRay : row.spec.engine = .ray)
    (isLive : observed.specFingerprint = fingerprintFromCr live) : driftCheck row (some observed) =
      match (writtenFields live).read with
      | none => .settle .noOp none
      | some fields =>
        if fields = ownedFields row.spec then .settle .noOp none
        else .settle .drift (some .specDrift) := by
  have owned : Mobula.ownedSpecFingerprint row.spec = (ownedFields row.spec).toJson.compress := by
    rw [Mobula.ownedSpecFingerprint, isRay, ← ownedSpecFingerprint_eq]
  simp [driftCheck, isLive, fingerprintFromCr_eq, readFields_eq]
  rcases (writtenFields live).read with _ | fields
  · rfl
  simp [owned]
  by_cases same : fields = ownedFields row.spec
  · simp [same]
  · have texts : fields.toJson.compress ≠ (ownedFields row.spec).toJson.compress := fun equal =>
      same (OwnedFields.toJson_injective (Json.compress_injective equal))
    simp [same, texts]

theorem driftCheck_finds (isRay : row.spec.engine = .ray)
    (isLive : observed.specFingerprint = fingerprintFromCr live)
    (isRendered : (writtenFields rendered).read = some (ownedFields row.spec)) :
    ∃ action condition, driftCheck row (some observed) = .settle action condition ∧
      (condition = some .specDrift ↔ ReadsDifferently live rendered) := by
  rw [driftCheck_of_fields isRay isLive]
  cases read : (writtenFields live).read with
  | none =>
    refine ⟨_, _, rfl, ?_⟩
    simp [ReadsDifferently, read]
  | some fields =>
    by_cases same : fields = ownedFields row.spec
    · refine ⟨.noOp, none, by simp [same], ?_⟩
      simp [ReadsDifferently, read, isRendered, same]
    · refine ⟨.drift, some .specDrift, by simp [same], ?_⟩
      simp [ReadsDifferently, read, isRendered, Ne.symm same]

section Live

variable (running : row.desired = .running)
  (found : world.store.clusters.find? row.id = some row)
  (unquarantined : world.store.quarantined = false) (due : row.nextAttemptAt ≤ now)
  (shown : platform.Shows row.id world.provider (some observed))
  (healthy : observed.state ≠ .degraded)
  (current : needsApply (some observed.state) (observedGenerationOf (some observed))
    row.generation (world.store.queueOf row.spec.project).isSome = false)

include running found unquarantined due shown healthy current

/-- A pass over a cluster that is live at the desired generation ends with the drift check. -/
theorem reconcileOne_checks {action : Action} {condition : Option DriftCondition}
    (checked : driftCheck row (some observed) = .settle action condition) :
    ∃ world', Runs platform thread (reconcileOne row now) world (.ok action) world' ∧
      world'.conditionOf row.id = some condition := by
  rcases settle_runs found shown now action condition with ⟨settled, settling, _, _, conditionSet⟩
  refine ⟨settled, ?_, conditionSet rfl⟩
  rw [reconcileOne, if_neg (fun early => absurd early.2 (not_lt.mpr due))]
  apply Prog.Yields.invoke exec_observe
  unfold Platform.Shows at shown
  simp only [shown]
  apply Prog.Yields.invoke exec_isQuarantined
  simp only [unquarantined]
  apply queueAssignmentForProject_runs.bind
  have decided : decideAction row now (some observed) (world.store.queueOf row.spec.project) =
      .ret (.ok (.settle action condition)) := by
    rw [decideAction, running]
    simp only [decideRunning, Option.map_some, Option.some.injEq, healthy, current, checked]
    rfl
  simp only [decided]
  exact settling

/-- The fingerprint of a live object differs, and a pass over a cluster that is live at the desired
generation raises the alarm, exactly for what is read back of the object. -/
theorem spec_drift_raised_iff (thread : ℕ) (live : Json) (autoscaling : Bool) (generation : ℕ)
    (queue : Option QueueAssignment) (isRay : row.spec.engine = .ray)
    (inRange : KubeRay.InRange row.spec)
    (isLive : observed.specFingerprint = fingerprintFromCr live) :
    let rendered := (toRaycluster row.id row.spec autoscaling generation queue).index "spec"
    (fingerprintFromCr live ≠ some (KubeRay.ownedSpecFingerprint row.spec) ↔
      (writtenFields live).read ≠ (writtenFields rendered).read) ∧
    (∃ action world', Runs platform thread (reconcileOne row now) world (.ok action) world' ∧
      (world'.conditionOf row.id = some (some .specDrift) ↔ ReadsDifferently live rendered)) ∧
    (ReadsDifferently live rendered → writtenFields live ≠ writtenFields rendered) := by
  intro rendered
  have isRendered : (writtenFields rendered).read = some (ownedFields row.spec) := by
    rw [← readFields_eq]
    exact readFields_toRaycluster inRange row.id autoscaling generation queue
  refine ⟨?_, ?_, ReadsDifferently.written⟩
  · rw [ne_eq, fingerprintFromCr_eq_iff, readFields_eq, isRendered]
  · rcases driftCheck_finds isRay isLive isRendered with ⟨action, condition, checked, finds⟩
    rcases reconcileOne_checks running found unquarantined due shown healthy current checked with
      ⟨world', ran, conditionSet⟩
    refine ⟨action, world', ran, ?_⟩
    simp [conditionSet]
    exact finds

end Live

def pooledSpecAt (version : String) : ClusterSpec :=
  { headOnly "p" with
    rayVersion := version
    workerGroups := [⟨"w", "1", "1Gi", none, 1, 2, 1⟩] }

def pooledSpec : ClusterSpec :=
  pooledSpecAt "2.9.0"

def liveWorld (live : Json) : World Kubernetes :=
  { freshControlPlane with
    store := storeOf (postedRow "c1" pooledSpec)
    provider.cluster.objects := Table.empty.insert ⟨oneNamespace.ray.crKey "c1",
      ⟨[], [(GENERATION_ANNOTATION, "1")], live⟩, [], .object [("state", .str "ready")]⟩ }

def liveReport (live : Json) : ObservedCluster :=
  ⟨"c1", .running, some 1, fingerprintFromCr live, some (oneNamespace.ray.apiBaseUrl "c1")⟩

theorem shows_liveReport :
    plainPlatform.Shows "c1" (liveWorld live).provider
      (some (liveReport live)) := rfl

theorem inRange_pooledSpecAt (version : String) : KubeRay.InRange (pooledSpecAt version) := by
  simp [KubeRay.InRange, pooledSpecAt]

def withVersion (version : String) : Json :=
  (toRaycluster "c1" (pooledSpecAt version) false 1 none).index "spec"

/-- The version was edited. -/
theorem spec_drift_raised_for_version :
    ∃ action world', Runs plainPlatform 0
        (reconcileOne (postedRow "c1" pooledSpec) 0) (liveWorld (withVersion "2.10.0"))
        (.ok action) world' ∧
      world'.conditionOf "c1" = some (some .specDrift) := by
  rcases (@spec_drift_raised_iff _ plainPlatform (liveWorld (withVersion "2.10.0"))
    (postedRow "c1" pooledSpec) 0 (liveReport (withVersion "2.10.0")) rfl rfl rfl (le_refl 0)
    shows_liveReport (by decide) (by decide) 0 (withVersion "2.10.0") false 1 none rfl
    (inRange_pooledSpecAt "2.9.0") rfl).2.1 with ⟨action, world', ran, raised⟩
  refine ⟨action, world', ran, raised.mpr ⟨ownedFields (pooledSpecAt "2.10.0"), ?_, ?_⟩⟩
  · rw [← readFields_eq]
    exact readFields_toRaycluster (inRange_pooledSpecAt "2.10.0") "c1" false 1 none
  · have rendered := readFields_toRaycluster (inRange_pooledSpecAt "2.9.0") "c1" false 1 none
    rw [readFields_eq] at rendered
    exact rendered.trans_ne (by decide)

def withWorkerImage (image : String) : Json :=
  .object
    [("rayVersion", .str "2.9.0"), ("enableInTreeAutoscaling", .bool false),
      ("suspend", .bool false), ("headGroupSpec", headGroupSpec "c1" pooledSpec (some 1)),
      ("workerGroupSpecs", .arr
        [workerGroupSpec "c1" ⟨"w", "1", "1Gi", none, 1, 2, 1⟩ image false (some 1) none])]

/-- Another image for the workers goes unnoticed. -/
theorem spec_drift_missed :
    (toRaycluster "c1" pooledSpec false 1 none).index "spec" = withWorkerImage "rayproject/ray" ∧
      writtenFields (withWorkerImage "evil/ray") ≠
        writtenFields (withWorkerImage "rayproject/ray") ∧
      fingerprintFromCr (withWorkerImage "evil/ray") =
        some (KubeRay.ownedSpecFingerprint pooledSpec) ∧
      ∃ world', Runs plainPlatform 0
          (reconcileOne (postedRow "c1" pooledSpec) 0) (liveWorld (withWorkerImage "evil/ray"))
          (.ok .noOp) world' ∧
        world'.conditionOf "c1" = some none := by
  have read : (writtenFields (withWorkerImage "evil/ray")).read =
      some (ownedFields pooledSpec) := by decide +kernel
  refine ⟨rfl, ?_, ?_, ?_⟩
  · intro same
    have images := congrArg (fun fields =>
      fields.workers.map fun group => group.containers.map (·.image.bind (·.asStr?))) same
    revert images
    decide +kernel
  · rw [fingerprintFromCr_eq_iff, readFields_eq, read]
  · refine reconcileOne_checks rfl rfl rfl (le_refl 0) shows_liveReport (by decide) (by decide) ?_
    rw [driftCheck_of_fields rfl rfl, read]
    simp [postedRow]

end Mobula
