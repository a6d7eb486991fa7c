import Mobula.Api.Alone
import Mobula.Controller.SpecDrift

/-!
# Drift of a Dask cluster

A specification without worker groups is rendered with the caps of the scheduler
for its workers, and its fingerprint leaves these caps empty. A cluster that was
applied from such a specification drifts from the start.
-/

namespace Mobula

open Foundation

variable {row : StoredCluster} {observed : ObservedCluster}

/-- The drift check of an object with the rendered specification. -/
theorem driftCheck_of_rendered (isDask : row.spec.engine = .dask)
    (unedited : observed.specFingerprint = Dask.fingerprintFromCr
      ((Dask.toDaskcluster row.id row.spec row.generation).index "spec")) :
    ∃ action condition, driftCheck row (some observed) = .settle action condition ∧
      (condition ≠ some .specDrift ↔
        row.spec.workerGroups ≠ [] ∨ row.spec.headCpu = "" ∧ row.spec.headMemory = "") := by
  have owned : Mobula.ownedSpecFingerprint row.spec = Dask.ownedSpecFingerprint row.spec := by
    rw [Mobula.ownedSpecFingerprint, isDask]
  rw [← Dask.fingerprintFromCr_toDaskcluster_iff row.id row.spec row.generation, driftCheck,
    Option.bind_some, unedited, Dask.fingerprintFromCr_toDaskcluster, Option.some.injEq, owned]
  by_cases same : Dask.ownedText row.spec (Dask.workerCaps row.spec) =
      Dask.ownedSpecFingerprint row.spec
  · exact ⟨.noOp, none, by simp [same], by simp [same]⟩
  · exact ⟨.drift, some .specDrift, by simp [same], by simp [same]⟩

/--
What is read from a rendered object is the fingerprint of its specification, and a
pass over a cluster that is live at the desired generation with an unedited object
raises no alarm, exactly when there is a worker group or the scheduler has no caps.
-/
theorem dask_fingerprint_round_trip_iff (id : ClusterId) (spec : ClusterSpec) (generation : ℕ) :
    (Dask.fingerprintFromCr ((Dask.toDaskcluster id spec generation).index "spec") =
        some (Dask.ownedSpecFingerprint spec) ↔
      spec.workerGroups ≠ [] ∨ spec.headCpu = "" ∧ spec.headMemory = "") ∧
    ∀ {Provider : Type} (platform : Platform Provider) (thread : ℕ) (world : World Provider)
      (row : StoredCluster) (now : ℕ) (observed : ObservedCluster), row.id = id → row.spec = spec →
      row.generation = generation → spec.engine = .dask → row.desired = .running →
      world.store.clusters.find? row.id = some row → world.store.quarantined = false →
      row.nextAttemptAt ≤ now → platform.Shows row.id world.provider (some observed) →
      observed.specFingerprint =
        Dask.fingerprintFromCr ((Dask.toDaskcluster id spec generation).index "spec") →
      observed.state ≠ .degraded →
      needsApply (some observed.state) (observedGenerationOf (some observed)) row.generation
        (world.store.queueOf row.spec.project).isSome = false →
      ∃ action world', Runs platform thread (reconcileOne row now) world (.ok action) world' ∧
        (world'.conditionOf row.id ≠ some (some .specDrift) ↔
          spec.workerGroups ≠ [] ∨ spec.headCpu = "" ∧ spec.headMemory = "") := by
  refine ⟨Dask.fingerprintFromCr_toDaskcluster_iff id spec generation, ?_⟩
  rintro Provider platform thread world row now observed rfl rfl rfl isDask running found
    unquarantined due shown unedited healthy current
  rcases driftCheck_of_rendered isDask unedited with ⟨action, condition, checked, silent⟩
  rcases reconcileOne_checks running found unquarantined due shown healthy current checked with
    ⟨world', ran, conditionSet⟩
  refine ⟨action, world', ran, ?_⟩
  simp [conditionSet]
  exact silent

def daskSpec (groups : List WorkerGroup) : ClusterSpec :=
  { headOnly "p" with engine := .dask, workerGroups := groups }

/-- A control plane whose Dask cluster has the object that was applied for it. -/
def daskWorld (groups : List WorkerGroup) : World Kubernetes :=
  { freshControlPlane with
    store := storeOf (postedRow "c1" (daskSpec groups))
    provider.cluster.objects := Table.empty.insert ⟨oneNamespace.dask.crKey "c1",
      DaskProvisioner.crFields "c1" (daskSpec groups) 1, [], .null⟩ }

def daskReport (groups : List WorkerGroup) : ObservedCluster :=
  ⟨"c1", .provisioning, some 1, Dask.fingerprintFromCr
    ((Dask.toDaskcluster "c1" (daskSpec groups) 1).index "spec"), none⟩

theorem shows_daskReport {groups : List WorkerGroup} :
    plainPlatform.Shows "c1" (daskWorld groups).provider
      (some (daskReport groups)) := rfl

def oneGroup : List WorkerGroup :=
  [⟨"w", "1", "1Gi", none, 1, 2, 1⟩]

theorem dask_fingerprint_round_trip_with_workers :
    ∃ action world', Runs plainPlatform 0
        (reconcileOne (postedRow "c1" (daskSpec oneGroup)) 0) (daskWorld oneGroup) (.ok action)
        world' ∧
      world'.conditionOf "c1" ≠ some (some .specDrift) := by
  rcases (dask_fingerprint_round_trip_iff "c1" (daskSpec oneGroup) 1).2
    plainPlatform 0 (daskWorld oneGroup)
    (postedRow "c1" (daskSpec oneGroup)) 0 (daskReport oneGroup) rfl rfl rfl rfl rfl rfl rfl
    (le_refl 0) shows_daskReport rfl (by decide) (by decide) with
    ⟨action, world', ran, silent⟩
  exact ⟨action, world', ran, silent.mpr (.inl (by decide))⟩

/-- A Dask cluster without worker groups is accepted, and drifts as soon as it is applied. -/
theorem dask_without_workers_drifts :
    (∃ response world', Runs demoPlatform 0 (createCluster noPolicy none ⟨"c1", daskSpec []⟩)
      (demoWorld Store.empty) response world' ∧ response.status = 201) ∧
    Dask.fingerprintFromCr ((Dask.toDaskcluster "c1" (daskSpec []) 1).index "spec") ≠
      some (Dask.ownedSpecFingerprint (daskSpec [])) ∧
    ∃ world', Runs plainPlatform 0
        (reconcileOne (postedRow "c1" (daskSpec [])) 0) (daskWorld []) (.ok .drift) world' ∧
      world'.conditionOf "c1" = some (some .specDrift) := by
  refine ⟨?_, ?_, ?_⟩
  · have admitted : Store.empty.createAdmits noPolicy none "c1" (daskSpec []) 0 = true := by
      decide +kernel
    rcases @createCluster_stores _ demoPlatform 0 (demoWorld Store.empty) none noPolicy
      ⟨"c1", daskSpec []⟩ admitted rfl with ⟨response, _, final, ran, _, status⟩
    exact ⟨response, final, ran, status⟩
  · rw [ne_eq, Dask.fingerprintFromCr_toDaskcluster_iff]
    decide
  · refine reconcileOne_checks rfl rfl rfl (le_refl 0) shows_daskReport (by decide) (by decide) ?_
    decide +kernel

end Mobula
