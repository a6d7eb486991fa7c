import Mobula.Controller.Alone
import Mobula.Provision.Demo

/-!
# The age cap

A sweep marks a cluster over its age cap for termination only if it was last observed
as running. One that is being updated, or is degraded, outlives its cap.
-/

namespace Mobula

open Foundation

variable {Provider : Type} {platform : Platform Provider} {thread : ℕ}
  {world world' : World Provider} {now : ℕ} {jobs : List JobRecord} {row : StoredCluster}
  {rows : List StoredCluster} {ids : List String}

/-- A cluster that should run, is over its age cap and was last observed as provisioned. -/
def StoredCluster.OutlivesCap (now : ℕ) (row : StoredCluster) : Prop :=
  row.desired = .running ∧ (∃ ttl ∈ row.spec.ttlSeconds, ttl ≤ now - row.createdAt) ∧
    (row.observedState = some .running ∨ row.observedState = some .updating ∨
      row.observedState = some .degraded)

theorem isReaped_iff_of_outlivesCap (outlives : row.OutlivesCap now) :
    isReaped row jobs now = true ↔ row.observedState = some .running := by
  rcases outlives with ⟨desired, ⟨ttl, capped, aged⟩, _⟩
  simp at capped
  by_cases running : row.observedState = some .running <;>
    simp [isReaped, isExpired, isIdleExpired, desired, capped, aged, running]

def Reaps (now : ℕ) (jobs : List JobRecord) (rows : List StoredCluster) (id : ClusterId) : Prop :=
  ∃ row ∈ rows, isReaped row jobs now = true ∧ row.id = id

/-- The rows that are to be reaped are marked, and the others are as they were. -/
def Swept (now : ℕ) (jobs : List JobRecord) (rows : List StoredCluster)
    (before after : ClusterTable) : Prop :=
  ∀ id, ∃ change : StoredCluster → StoredCluster,
    after.find? id = (before.find? id).map change ∧
    ∀ stored, Reaps now jobs rows id ∧ (change stored).desired = .terminated ∨
      ¬ Reaps now jobs rows id ∧ change stored = stored

theorem reapExpiredRows_sweeps
    (ran : Runs platform thread (reapExpiredRows now jobs rows) world (.ok ids) world') :
    Swept now jobs rows world.store.clusters world'.store.clusters := by
  intro id
  induction rows generalizing world ids with
  | nil =>
    rcases ran.of_ret with ⟨-, rfl⟩
    exact ⟨fun stored => stored, by simp, by simp [Reaps]⟩
  | cons row rows ih =>
    unfold reapExpiredRows at ran
    split at ran
    case isTrue reaped =>
      rcases ran.of_invoke with ⟨answer, middle, answered, continued⟩
      rcases answer with failure | _
      · cases continued.of_ret.1
      rcases continued.of_bind with ⟨later, final, swept, returned⟩
      rcases returned.of_ret with ⟨same, rfl⟩
      rcases later with failure | later
      · cases same
      rcases ih swept with ⟨change, found, changed⟩
      rw [find?_exec answered id] at found
      by_cases meant : row.id = id
      · refine ⟨change ∘ ClusterTable.withDesired .terminated world.now, ?_, fun stored => ?_⟩
        · simpa [RowCall.target, RowCall.effect, meant] using found
        · refine .inl ⟨⟨row, by simp, reaped, meant⟩, ?_⟩
          rcases changed (ClusterTable.withDesired .terminated world.now stored) with
            ⟨_, marked⟩ | ⟨_, kept⟩
          · exact marked
          · exact congrArg StoredCluster.desired kept
      · refine ⟨change, ?_, ?_⟩
        · simpa [RowCall.target, meant] using found
        · simpa [Reaps, reaped, meant] using changed
    case isFalse spared => simpa [Reaps, spared] using ih ran

theorem reapExpired_sweeps (ran : Runs platform thread (reapExpired now) world (.ok ids) world') :
    ∃ jobs, Swept now jobs world.store.clusters.rows world.store.clusters
      world'.store.clusters := by
  rcases ran.of_invoke with ⟨_, _, answered, continued⟩
  cases answered
  rcases continued.of_invoke with ⟨_, _, answered, swept⟩
  cases answered
  exact ⟨_, reapExpiredRows_sweeps swept⟩

theorem reaps_iff (member : row ∈ world.store.clusters.rows) (outlives : row.OutlivesCap now) :
    Reaps now jobs world.store.clusters.rows row.id ↔ row.observedState = some .running := by
  rw [← isReaped_iff_of_outlivesCap outlives]
  refine ⟨?_, fun reaped => ⟨row, member, reaped, rfl⟩⟩
  rintro ⟨other, otherMem, reaped, same⟩
  rwa [Table.eq_of_mem_of_key_eq otherMem member same] at reaped

/--
No cluster outlives its cap after a sweep, exactly if none of those that outlived it
before the sweep was being updated or degraded.
-/
theorem age_cap_enforced_iff
    (ran : Runs platform thread (reapExpired now) world (.ok ids) world') :
    (∀ row ∈ world'.store.clusters.rows, ¬ row.OutlivesCap now) ↔
      ∀ row ∈ world.store.clusters.rows, row.OutlivesCap now →
        row.observedState ≠ some .updating ∧ row.observedState ≠ some .degraded := by
  rcases reapExpired_sweeps ran with ⟨jobs, swept⟩
  constructor
  · intro capped row member outlives
    rcases swept row.id with ⟨change, found, changed⟩
    simp [Table.find?_of_mem member] at found
    have running : row.observedState = some .running := by
      rw [← reaps_iff member outlives]
      rcases changed row with ⟨reaped, _⟩ | ⟨_, kept⟩
      · exact reaped
      · rw [kept] at found
        exact absurd outlives (capped row (Table.mem_of_find? found))
    simp [running]
  · intro settled row member outlives
    rcases swept row.id with ⟨change, found, changed⟩
    rw [Table.find?_of_mem member, eq_comm, Option.map_eq_some_iff] at found
    rcases found with ⟨stored, found, rfl⟩
    have storedMem := Table.mem_of_find? found
    rcases changed stored with ⟨_, marked⟩ | ⟨spared, kept⟩
    · simp [StoredCluster.OutlivesCap, marked] at outlives
    · rw [kept] at outlives spared
      rw [reaps_iff storedMem outlives] at spared
      have unsettled := settled stored storedMem outlives
      simp_all [StoredCluster.OutlivesCap]

/-- A store with one cluster that has been up for longer than it may. -/
def overAgeWorld (observed : ClusterState) : World DemoClusters :=
  demoWorld (storeOf { postedRow "c1" { headOnly "p" with ttlSeconds := some 60 } with
    observedState := some observed })

theorem age_cap_enforced_on_running :
    ∃ world', Runs demoPlatform 0 (reapExpired 100) (overAgeWorld .running) (.ok ["c1"]) world' ∧
      ∀ row ∈ world'.store.clusters.rows, ¬ row.OutlivesCap 100 := by
  have ran : ∃ world', Runs demoPlatform 0 (reapExpired 100) (overAgeWorld .running) (.ok ["c1"])
      world' := ⟨_, _, rfl⟩
  rcases ran with ⟨world', ran⟩
  refine ⟨world', ran, (age_cap_enforced_iff ran).mpr ?_⟩
  rintro row (_ | ⟨_, ⟨⟩⟩) _
  decide

theorem degraded_outlives_cap :
    ∃ world', Runs demoPlatform 0 (reapExpired 100) (overAgeWorld .degraded) (.ok []) world' ∧
      ∃ row ∈ world'.store.clusters.rows, row.OutlivesCap 100 := by
  exact ⟨_, ⟨_, rfl⟩, _, List.mem_cons_self, rfl, ⟨60, rfl, by decide⟩, by decide⟩

end Mobula
