import Mobula.Api.Alone
import Mobula.Provision.Demo

/-!
# Accepted creations

A creation that is answered with success has stored the posted specification. The write keeps
the desired state of a row that exists, so a post over a suspended cluster or over a tombstone
is accepted and changes nothing that the reconciler acts on.
-/

namespace Mobula

open Foundation

variable {Provider : Type} (platform : Platform Provider) (thread : ℕ)

theorem ClusterTable.desired_upsertedRow {existing : Option StoredCluster} {id : ClusterId}
    {spec : ClusterSpec} {now : ℕ} : (upsertedRow existing id spec now).desired = .running ↔
      ∀ row, existing = some row → row.desired = .running := by
  cases existing <;> simp [upsertedRow]

/--
After a creation that is answered with success the posted specification is stored
under the caller's name and wanted running, exactly when no row was there before
that was wanted otherwise.
-/
theorem accepted_create_takes_effect_iff {seed : PolicyConfig} {identity : Caller}
    {body : CreateCluster} {world world' : World Provider} {response : Response}
    (ran : Runs platform thread (createCluster seed identity body) world response world')
    (free : world.admitLocks body.spec.project = none) (created : response.status = 201) :
    (∃ row, world'.store.clusters.find? body.id = some row ∧ row.desired = .running ∧
        row.spec = { body.spec with owner := identity.map (·.owner) }) ↔
      ∀ before, world.store.clusters.find? body.id = some before → before.desired = .running := by
  have admitted := createAdmits_of_created ran free created
  have outcome := createCluster_outcome ran free
  rw [if_pos admitted] at outcome
  rcases outcome with ⟨stamp, quiet⟩
  rw [quiet.clusters, World.setClusters_clusters, ClusterTable.find?_upsertDesired, if_pos rfl,
    ← ClusterTable.desired_upsertedRow]
  constructor
  · rintro ⟨row, found, running, _⟩
    cases found
    exact running
  · intro running
    exact ⟨_, rfl, running, rfl⟩

/-- A running cluster is posted again, with another image. -/
theorem accepted_create_takes_effect_over_running :
    let running :=
      storeOf { postedHead with observedState := some .running, observedGeneration := 1 }
    let reposted := { headOnly "p" with image := "rayproject/ray:nightly" }
    ∃ response world', Runs demoPlatform 0 (createCluster noPolicy none ⟨"c1", reposted⟩)
      (demoWorld running) response world' ∧ response.status = 201 ∧
      ∃ row, world'.store.clusters.find? "c1" = some row ∧ row.desired = .running ∧
        row.spec = reposted := by
  intro running reposted
  have admitted : running.createAdmits noPolicy none "c1" reposted 0 = true := by
    decide +kernel
  rcases @createCluster_stores _ demoPlatform 0 (demoWorld running) none noPolicy
    ⟨"c1", reposted⟩ admitted rfl with ⟨response, _, final, ran, _, status⟩
  refine ⟨response, final, ran, status, ?_⟩
  refine (accepted_create_takes_effect_iff demoPlatform 0 ran rfl status).mpr ?_
  intro before found
  cases found
  rfl

/-- A tombstone is posted again: the answer is success, and the row stays terminated. -/
theorem accepted_create_stays_terminated :
    ∃ response world', Runs demoPlatform 0 (createCluster noPolicy none ⟨"c1", headOnly "p"⟩)
      (demoWorld (storeOf deadRow)) response world' ∧ response.status = 201 ∧
      (world'.store.clusters.find? "c1").map (·.desired) = some .terminated := by
  have admitted : (storeOf deadRow).createAdmits noPolicy none "c1" (headOnly "p") 0 = true := by
    decide +kernel
  rcases @createCluster_stores _ demoPlatform 0 (demoWorld (storeOf deadRow)) none noPolicy
    ⟨"c1", headOnly "p"⟩ admitted rfl with ⟨response, stamp, final, ran, quiet, status⟩
  refine ⟨response, final, ran, status, ?_⟩
  rw [quiet.clusters]
  rfl

end Mobula
