import Mobula.Api.Alone
import Mobula.Provision.Demo

/-!
# Writing rows of other projects

A creation is authorized against the project that the posted specification names. When the
posted id names a row of another project, the stored project is never looked at.
-/

namespace Mobula

open Foundation

variable {Provider : Type} (platform : Platform Provider) (thread : ℕ)

/-- What requests have declared of a cluster. -/
def StoredCluster.declared (row : StoredCluster) : ClusterSpec × ℕ × DesiredState :=
  (row.spec, row.generation, row.desired)

theorem declared_ne_of_stored {row : StoredCluster} {rows : ClusterTable} {id : ClusterId}
    {spec : ClusterSpec} {now : ℕ} (elsewhere : spec.project ≠ row.spec.project) :
    ((ClusterTable.upsertDesired rows id spec now).find? id).map StoredCluster.declared ≠
      some row.declared := by
  intro same
  simp [ClusterTable.find?_upsertDesired] at same
  have specEq : spec = row.spec := congrArg Prod.fst same
  exact elsewhere (congrArg ClusterSpec.project specEq)

/--
A caller who may not write a row's project leaves the row alone exactly when one
of the gates refuses the posted specification under the posted project.
-/
theorem createCluster_keeps_foreign_row_iff {seed : PolicyConfig} {identity : Identity}
    {body : CreateCluster} {world : World Provider} {row : StoredCluster}
    (found : world.store.clusters.find? body.id = some row)
    (foreign : world.store.mayWrite (some identity) row.spec.project = false)
    (free : world.admitLocks body.spec.project = none) :
    ∃ response world',
      Runs platform thread (createCluster seed (some identity) body) world response world' ∧
      ((world'.store.clusters.find? body.id).map StoredCluster.declared = some row.declared ↔
        world.store.createAdmits seed (some identity) body.id (body.ownedSpec (some identity))
          world.now = false) := by
  cases verdict : world.store.createAdmits seed (some identity) body.id
      (body.ownedSpec (some identity)) world.now with
  | false =>
    rcases createCluster_refuses platform thread verdict free with
      ⟨response, final, ran, unchanged, _⟩
    refine ⟨response, final, ran, ?_⟩
    have sameRows : final.store.clusters = world.store.clusters := by
      rcases unchanged with quiet | quiet <;> exact quiet.clusters
    simp [sameRows, found]
  | true =>
    rcases createCluster_stores platform thread verdict free with
      ⟨response, stamp, final, ran, quiet, _⟩
    refine ⟨response, final, ran, ?_⟩
    have permitted : world.store.mayWrite (some identity) body.spec.project = true := by
      simp [Store.createAdmits] at verdict
      exact verdict.1.1
    have elsewhere : (body.ownedSpec (some identity)).project ≠ row.spec.project := by
      intro same
      rw [← same] at foreign
      exact absurd permitted (by simpa [CreateCluster.ownedSpec] using foreign)
    have rowsEq := quiet.clusters
    simp only [Bool.true_eq_false, iff_false]
    rw [rowsEq]
    exact declared_ne_of_stored elsewhere

def storeOfProjectA : Store :=
  { Store.empty with clusters := Table.empty.insert (postedRow "c1" (headOnly "a")) }

def operatorOfB : Identity :=
  ⟨"tenant-b", none, [], [(.operator, "project:b")]⟩

theorem createCluster_keeps_foreign_row_of_stranger :
    ∃ response world',
      Runs demoPlatform 0 (createCluster noPolicy (some operatorOfB) ⟨"c1", headOnly "a"⟩)
        (demoWorld storeOfProjectA) response world' ∧
      ((world'.store.clusters.find? "c1").map StoredCluster.declared =
          some (postedRow "c1" (headOnly "a")).declared ↔
        storeOfProjectA.createAdmits noPolicy (some operatorOfB) "c1"
          { headOnly "a" with owner := some "tenant-b" } 0 = false) := by
  have found : (demoWorld storeOfProjectA).store.clusters.find? "c1" =
      some (postedRow "c1" (headOnly "a")) := rfl
  have foreign : storeOfProjectA.mayWrite (some operatorOfB) "a" = false := by decide +kernel
  have free : (demoWorld storeOfProjectA).admitLocks "a" = none := rfl
  exact createCluster_keeps_foreign_row_iff demoPlatform 0 found foreign free

theorem createCluster_moves_foreign_row :
    storeOfProjectA.clusters.find? "c1" = some (postedRow "c1" (headOnly "a")) ∧
    storeOfProjectA.mayWrite (some operatorOfB) "a" = false ∧
    ∃ response world',
      Runs demoPlatform 0 (createCluster noPolicy (some operatorOfB) ⟨"c1", headOnly "b"⟩)
        (demoWorld storeOfProjectA) response world' ∧
      (world'.store.clusters.find? "c1").map (fun row => (row.spec.project, row.spec.owner)) =
        some ("b", some "tenant-b") := by
  refine ⟨rfl, by decide +kernel, ?_⟩
  have admitted : (demoWorld storeOfProjectA).store.createAdmits noPolicy (some operatorOfB) "c1"
      (CreateCluster.ownedSpec ⟨"c1", headOnly "b"⟩ (some operatorOfB))
      (demoWorld storeOfProjectA).now = true := by decide +kernel
  have free : (demoWorld storeOfProjectA).admitLocks "b" = none := rfl
  rcases @createCluster_stores _ demoPlatform 0 _ (some operatorOfB) noPolicy
    ⟨"c1", headOnly "b"⟩ admitted free with ⟨response, stamp, final, ran, quiet, _⟩
  refine ⟨response, final, ran, ?_⟩
  rw [quiet.clusters]
  rfl

end Mobula
