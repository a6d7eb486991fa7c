import Mobula.Api.Usage
import Mobula.Provision.Demo

/-!
# Metered consumption against demand

Where nothing changes between ticks, the consumption of a project over the ticks should be its
demand for as long as they span. Once a project runs no cluster, its consumption should stop.
-/

namespace Mobula

open Foundation Foundation.StepSeries Metering List UsageSample

variable {Provider : Type} {now : ℕ}

def StoredCluster.recordedDemand (row : StoredCluster) (resource : String) : Option ℚ :=
  if row.desired = .running then
    match clusterDemand row.spec with
    | .error _ => none
    | .ok (minimum, _) => (minimum.find? resource).map Prod.snd
  else none

namespace Store

def recordedDemands (store : Store) (project resource : String) : List ℚ :=
  (store.clusters.rows.filter (·.spec.project = project)).filterMap (·.recordedDemand resource)

/-- The minimum demand of a project's running clusters, where it can be computed. -/
def runningDemand (store : Store) (project resource : String) : ℚ :=
  ((store.clusters.rows.filter fun row =>
      row.spec.project = project ∧ row.desired = .running).map fun row =>
    match clusterDemand row.spec with
    | .error _ => 0
    | .ok (minimum, _) => minimum.get resource).sum

theorem sum_recordedDemands (store : Store) (project resource : String) :
    (store.recordedDemands project resource).sum = store.runningDemand project resource := by
  unfold recordedDemands runningDemand
  induction store.clusters.rows with
  | nil => rfl
  | cons row rows ih =>
    by_cases owned : row.spec.project = project
    · by_cases running : row.desired = .running
      · cases computed : clusterDemand row.spec with
        | error failure =>
          simpa [owned, running, StoredCluster.recordedDemand, computed] using ih
        | ok demand =>
          cases found : demand.1.find? resource with
          | none =>
            simpa [owned, running, StoredCluster.recordedDemand, computed, found,
              ResourceMap.get] using ih
          | some entry =>
            simpa [owned, running, StoredCluster.recordedDemand, computed, found,
              ResourceMap.get] using ih
      · simpa [owned, running, StoredCluster.recordedDemand] using ih
    · simpa [owned] using ih

theorem recordedDemands_nonneg {store : Store} {project resource : String} :
    ∀ amount ∈ store.recordedDemands project resource, 0 ≤ amount := by
  intro amount amountMem
  rcases mem_filterMap.mp amountMem with ⟨row, _, recorded⟩
  unfold StoredCluster.recordedDemand at recorded
  split at recorded
  case isTrue running =>
    rcases computed : clusterDemand row.spec with failure | demand
    · simp [computed] at recorded
    simp only [computed, Option.map_eq_some_iff] at recorded
    rcases recorded with ⟨entry, found, rfl⟩
    have nonneg := (clusterDemand_nonNeg computed).1 resource
    rwa [ResourceMap.get_of_find? found] at nonneg
  case isFalse idle => cases recorded

end Store

theorem readings_clusterSamples {pools : PoolMap} {row : StoredCluster} {resource : String} :
    ((clusterSamples now pools row).filter
        (inGroup (poolOf pools row.spec.project) resource)).map
      reading = ((row.recordedDemand resource).map (now, ·)).toList := by
  unfold clusterSamples StoredCluster.recordedDemand
  split
  case isTrue running =>
    rcases computed : clusterDemand row.spec with failure | demand
    · rfl
    have grouped : (inGroup (poolOf pools row.spec.project) resource ∘
        fun entry : String × ℚ => (⟨now, row.spec.project,
          poolOf pools row.spec.project, entry.1, entry.2, .observedSpec⟩ :
            UsageSample)) = fun entry => entry.1 == resource := by
      funext entry
      apply Bool.eq_iff_iff.mpr
      simp [inGroup]
    simp [filter_map, grouped, Table.filter_key_eq]
    rcases demand.1.find? resource with _ | entry <;> rfl
  case isFalse idle => rfl

theorem readings_estimate {store : Store} {project resource : String} :
    ((store.estimate now).filter fun sample => sample.project = project &&
        sample.inGroup (poolOf store.projectPools project) resource).map
      reading = (store.recordedDemands project resource).map (now, ·) := by
  unfold Store.estimate Store.recordedDemands
  generalize store.projectPools = pools
  induction store.clusters.rows with
  | nil => rfl
  | cons row rows ih =>
    simp [ih]
    by_cases owned : row.spec.project = project
    · have grouped : ((clusterSamples now pools row).filter fun sample =>
          sample.project = project && sample.inGroup (poolOf pools project) resource) =
          (clusterSamples now pools row).filter
            (inGroup (poolOf pools row.spec.project) resource) := by
        apply filter_congr
        intro sample sampleMem
        rcases mem_clusterSamples sampleMem with ⟨_, _, _, owner, _⟩
        simp [← owner, owned]
      rw [grouped, readings_clusterSamples]
      rcases recorded : row.recordedDemand resource with _ | amount <;> simp [owned, recorded]
    · have unrecorded : ((clusterSamples now pools row).filter fun sample =>
          sample.project = project && sample.inGroup (poolOf pools project) resource) =
          [] := by
        rw [filter_eq_nil_iff]
        intro sample sampleMem
        rcases mem_clusterSamples sampleMem with ⟨_, _, _, owner, _⟩
        simp [← owner, owned]
      rw [unrecorded]
      simp [owned]

section Conservation

variable {platform : Platform Provider} {thread : ℕ} {provisioner : Bool}
  {origin final : World Provider} {ticks : List (MeterTick Provider)}

/-- Among amounts that are not negative, the last one is the total iff the others are zero. -/
theorem getLast?_eq_sum_iff {amounts : List ℚ} (nonneg : ∀ amount ∈ amounts, 0 ≤ amount) :
    amounts.getLast?.getD 0 = amounts.sum ↔ ∀ amount ∈ amounts.dropLast, amount = 0 := by
  rcases eq_nil_or_concat amounts with rfl | ⟨others, last, rfl⟩
  · simp
  · rw [concat_eq_append] at nonneg ⊢
    have others_nonneg : ∀ amount ∈ others, 0 ≤ amount := fun amount amountMem =>
      nonneg amount (by simp [amountMem])
    rw [sum_append, sum_singleton, getLast?_concat, Option.getD_some, dropLast_concat, right_eq_add]
    constructor
    · intro vanishes amount amountMem
      exact all_zero_of_le_zero_le_of_sum_eq_zero others_nonneg vanishes amountMem
    · exact sum_eq_zero

section Ticks

variable (absent : KueueAbsent platform provisioner)
  (run : MeteringRun platform thread provisioner DemandKept origin ticks final)
  {project resource : String}
  (fresh : ∀ sample ∈ origin.store.usage, sample.project = project → sample.resource ≠ resource)

include absent run fresh

/-- The readings that ticks at given times leave of a resource that had none. -/
theorem readings_of_ticks :
    final.store.readings project (poolOf origin.store.projectPools project) resource =
      (tickTimes ticks).flatMap fun now =>
        (origin.store.recordedDemands project resource).map (now, ·) := by
  have before : (origin.store.usage.filter fun sample => sample.project = project &&
      sample.inGroup (poolOf origin.store.projectPools project) resource) = [] := by
    rw [filter_eq_nil_iff]
    intro sample sampleMem
    by_cases owned : sample.project = project
    · simp [inGroup, fresh sample sampleMem owned]
    · simp [owned]
  simp [Store.readings, usage_of_ticks absent run, before, filter_flatMap, map_flatMap]
  simp only [readings_estimate]

theorem pool_of_ticks :
    ∀ sample ∈ final.store.usage, sample.project = project → sample.resource = resource →
      sample.pool ∈ ({poolOf origin.store.projectPools project} : Finset String) := by
  intro sample sampleMem owned ofResource
  rw [usage_of_ticks absent run, mem_append] at sampleMem
  rcases sampleMem with old | new
  · exact absurd ofResource (fresh sample old owned)
  · rcases mem_flatMap.mp new with ⟨now, _, estimated⟩
    rcases mem_flatMap.mp estimated with ⟨row, _, fromRow⟩
    rcases mem_clusterSamples fromRow with ⟨_, _, _, _, pool⟩
    rw [pool, owned, Finset.mem_singleton]

/-- The consumption over the span of the ticks: the last recorded amount, for as long. -/
theorem get_consumed_of_ticks (increasing : (tickTimes ticks).Pairwise (· < ·)) {start stop : ℕ}
    (began : (tickTimes ticks).head? = some start) :
    (final.store.consumed project start stop).get resource =
      (stop - start : ℕ) *
        (origin.store.recordedDemands project resource).getLast?.getD 0 / 3600 := by
  have sorted : ((tickTimes ticks).flatMap fun now =>
      (origin.store.recordedDemands project resource).map (now, ·)).Pairwise
        fun first second => first.1 ≤ second.1 := by
    rw [pairwise_flatMap]
    refine ⟨?_, ?_⟩
    · intro now _
      rw [pairwise_map]
      exact pairwise_of_forall fun _ _ => le_refl now
    · refine increasing.imp ?_
      intro earlier later ordered first firstMem second secondMem
      rcases mem_map.mp firstMem with ⟨_, _, rfl⟩
      rcases mem_map.mp secondMem with ⟨_, _, rfl⟩
      exact ordered.le
  have startMem : start ∈ tickTimes ticks := mem_of_head? began
  rw [Store.get_consumed _ _ _ _ _ (pool_of_ticks absent run fresh), Finset.sum_singleton,
    readings_of_ticks absent run fresh, inTimeOrder, sorted.insertionSort_eq]
  rw [total_of_constant, nsmul_eq_mul]
  intro time reached _
  rw [levelAt_repeated, if_pos (any_eq_true.mpr ⟨start, startMem, by simpa using reached⟩)]

end Ticks

/--
Over ticks among which rows and allocations stay as they are, a project is charged
its running demand for a resource iff all amounts recorded at a tick but the last
are zero: those of one tick share their time, and the last replaces the others.
-/
theorem metering_conserves_demand_iff (absent : KueueAbsent platform provisioner)
    (run : MeteringRun platform thread provisioner DemandKept origin ticks final)
    (increasing : (tickTimes ticks).Pairwise (· < ·))
    (several : 2 ≤ (tickTimes ticks).length) {start stop : ℕ}
    (began : (tickTimes ticks).head? = some start)
    (ended : (tickTimes ticks).getLast? = some stop) {project resource : String}
    (fresh : ∀ sample ∈ origin.store.usage, sample.project = project →
      sample.resource ≠ resource) :
    (∃ consumed, Runs platform thread (windowedConsumption project start stop) final
        (.ok consumed) final ∧
      consumed.get resource =
        ((stop : ℚ) - start) / 3600 * origin.store.runningDemand project resource) ↔
      ∀ amount ∈ (origin.store.recordedDemands project resource).dropLast, amount = 0 := by
  have computed := @windowedConsumption_runs _ platform thread final project start stop
  have spans : start < stop := by
    rcases eq_nil_or_concat (tickTimes ticks) with never | ⟨others, last, split⟩
    · simp [never] at several
    · rw [split, concat_eq_append] at began ended several increasing
      rw [getLast?_concat, Option.some.injEq] at ended
      rcases others with _ | ⟨first, others⟩
      · simp at several
      simp at began
      rw [← began, ← ended]
      exact (pairwise_cons.mp increasing).1 last (by simp)
  have charged : (final.store.consumed project start stop).get resource =
      ((stop : ℚ) - start) / 3600 *
        (origin.store.recordedDemands project resource).getLast?.getD 0 := by
    rw [get_consumed_of_ticks absent run fresh increasing began, Nat.cast_sub spans.le,
      mul_div_right_comm]
  have lasted : ((stop : ℚ) - start) / 3600 ≠ 0 := by
    have positive : (0 : ℚ) < stop - start := sub_pos.mpr (Nat.cast_lt.mpr spans)
    exact (div_pos positive (by norm_num)).ne'
  rw [← getLast?_eq_sum_iff Store.recordedDemands_nonneg, Store.sum_recordedDemands,
    ← mul_right_inj' lasted, ← charged]
  constructor
  · rintro ⟨consumed, ran, conserved⟩
    have same := (ran.unique computed).1
    simp at same
    rw [← conserved, same]
    rfl
  · intro conserved
    exact ⟨_, computed, conserved⟩

end Conservation

/-- Ticks of the demo process, which has no pool provisioner, on a world of their own. -/
def demoTicks (count : ℕ) (world : World DemoClusters) :
    Option (List (MeterTick DemoClusters) × World DemoClusters) :=
  executeRounds (exec demoPlatform 0) (fun _ : Unit => Metering.tick false)
    (List.replicate count ()) world

theorem kueueAbsent_of_none {platform : Platform Provider} : KueueAbsent platform false := by
  intro provisioned
  cases provisioned

/-- A single cluster is charged in full. -/
theorem metering_conserves_demand_of_one_cluster :
    ∃ ticks final consumed,
      MeteringRun demoPlatform 0 false DemandKept (demoWorld (storeOf postedHead)) ticks final ∧
      tickTimes ticks = [0, 1] ∧
      Runs demoPlatform 0 (windowedConsumption "p" 0 1) final (.ok consumed) final ∧
      consumed.get "cpu" = (((1 : ℕ) : ℚ) - (0 : ℕ)) / 3600 *
        (storeOf postedHead).runningDemand "p" "cpu" := by
  have outcome : (demoTicks 2 (demoWorld (storeOf postedHead))).map
      (tickTimes ·.1) = some [0, 1] := by decide +kernel
  rcases Option.map_eq_some_iff.mp outcome with ⟨⟨ticks, final⟩, executed, times⟩
  simp only at times
  have run := rounds_alone DemandKept.refl executed
  have alone : ∀ amount ∈ ((demoWorld (storeOf postedHead)).store
      |>.recordedDemands "p" "cpu").dropLast, amount = 0 := by decide +kernel
  rcases (metering_conserves_demand_iff kueueAbsent_of_none run
    (by rw [times]; decide) (by rw [times]; decide) (by rw [times]; rfl) (by rw [times]; rfl)
    (by simp [demoWorld, storeOf, Store.empty])).mpr alone with ⟨consumed, ran, conserved⟩
  exact ⟨ticks, final, consumed, run, times, ran, conserved⟩

/-- Of two clusters, one is charged. -/
theorem twin_clusters_charged_once :
    ∃ ticks final consumed,
      MeteringRun demoPlatform 0 false DemandKept (demoWorld twinStore) ticks final ∧
      tickTimes ticks = [0, 1] ∧
      Runs demoPlatform 0 (windowedConsumption "p" 0 1) final (.ok consumed) final ∧
      consumed.get "cpu" = 1 / 3600 ∧
      ((1 : ℚ) - 0) / 3600 * twinStore.runningDemand "p" "cpu" = 2 / 3600 := by
  have outcome : (demoTicks 2 (demoWorld twinStore)).map (fun ran =>
      (tickTimes ran.1, (ran.2.store.consumed "p" 0 1).get "cpu")) =
        some ([0, 1], 1 / 3600) := by decide +kernel
  rcases Option.map_eq_some_iff.mp outcome with ⟨⟨ticks, final⟩, executed, same⟩
  rw [Prod.mk.injEq] at same
  exact ⟨ticks, final, _, rounds_alone DemandKept.refl executed, same.1,
    windowedConsumption_runs, same.2, by decide +kernel⟩

/-- The last amount recorded for a project in a group; zero when there is none. -/
def Store.lastReading (store : Store) (project pool resource : String) : ℚ :=
  ((store.readings project pool resource).getLast?.map Prod.snd).getD 0

/-- The passes see no running cluster of the project. -/
abbrev ShownIdle (project : String) (events : EventLog) : Prop :=
  ∀ rows ∈ events.filterMap listedRows, ∀ row ∈ rows,
    row.spec.project = project → row.desired ≠ .running

section Stopping

variable {platform : Platform Provider} {thread : ℕ} {provisioner : Bool}
  {origin final : World Provider} {earlier later : List (MeterTick Provider)}
  {tick : MeterTick Provider} {since : ℕ} {project : String}

theorem readings_of_idle {ticks : List (MeterTick Provider)}
    (absent : KueueAbsent platform provisioner)
    (run : MeteringRun platform thread provisioner UsageKept origin ticks final)
    (ordered : (tickTimes ticks).Pairwise (· ≤ ·))
    (idle : ShownIdle project (history ticks)) (pool resource : String) :
    final.store.readings project pool resource = origin.store.readings project pool resource := by
  rcases usage_recorded absent run ordered with ⟨added, recorded, _, known⟩
  have others : (added.filter fun sample => sample.project = project &&
      sample.inGroup pool resource) = [] := by
    rw [filter_eq_nil_iff]
    intro sample sampleMem
    rcases known sample sampleMem with ⟨_, _, rows, listed, row, rowMem, running, owner⟩
    have foreign : sample.project ≠ project := fun same =>
      idle rows listed row rowMem (owner.trans same) running
    simp [foreign]
  simp [Store.readings, recorded, others]

/-- Readings of a metered run up to a tick lie in time order, none of them after it. -/
theorem readings_before (absent : KueueAbsent platform provisioner)
    (run : MeteringRun platform thread provisioner UsageKept origin earlier final)
    (unmetered : origin.store.usage = [])
    (ordered : (tickTimes earlier).Pairwise (· ≤ ·))
    (past : ∀ time ∈ tickTimes earlier, time ≤ since) {pool resource : String} :
    (final.store.readings project pool resource).Pairwise
        (fun first second => first.1 ≤ second.1) ∧
      ∀ reading ∈ final.store.readings project pool resource,
        reading.1 ≤ since ∧ 0 ≤ reading.2 := by
  rcases usage_recorded absent run ordered with ⟨added, recorded, sorted, known⟩
  simp [unmetered] at recorded
  rw [Store.readings, recorded]
  refine ⟨?_, ?_⟩
  · rw [pairwise_map]
    exact sorted.filter _
  · intro reading readingMem
    rcases mem_map.mp readingMem with ⟨sample, selected, rfl⟩
    rcases known sample (mem_of_mem_filter selected) with ⟨time, nonneg, _⟩
    exact ⟨past sample.ts time, nonneg⟩

variable {store : Store} {pool resource : String}

/-- From its last reading on, a group accumulates at the level of that reading. -/
theorem total_after {start stop : ℕ} (sorted : (store.readings project pool resource).Pairwise
      fun first second => first.1 ≤ second.1)
    (past : ∀ reading ∈ store.readings project pool resource, reading.1 ≤ start) :
    total 0 (inTimeOrder (store.readings project pool resource)) start stop =
      (stop - start) • store.lastReading project pool resource := by
  rw [inTimeOrder, sorted.insertionSort_eq]
  apply total_of_constant
  intro time reached _
  exact levelAt_of_taken fun reading readingMem => (past reading readingMem).trans reached

theorem lastReading_nonneg
    (nonneg : ∀ reading ∈ store.readings project pool resource, 0 ≤ reading.2) :
    0 ≤ store.lastReading project pool resource := by
  unfold Store.lastReading
  rcases last : (store.readings project pool resource).getLast? with _ | reading
  · rfl
  · exact nonneg reading (mem_of_getLast? last)

def Store.sampledPools (store : Store) : Finset String :=
  (store.usage.map (·.pool)).toFinset

theorem lastReading_of_unsampled (unsampled : pool ∉ store.sampledPools) :
    store.lastReading project pool resource = 0 := by
  have empty : (store.usage.filter fun sample => sample.project = project &&
      sample.inGroup pool resource) = [] := by
    rw [filter_eq_nil_iff]
    intro sample sampleMem grouped
    simp [inGroup] at grouped
    apply unsampled
    rw [Store.sampledPools, mem_toFinset, ← grouped.2.1]
    exact mem_map_of_mem sampleMem
  simp [Store.lastReading, Store.readings, empty]

/-- Where all readings of a project are past, it consumes their last amounts. -/
theorem get_consumed_after {store : Store} {resource : String} {start stop : ℕ}
    (sorted : ∀ pool, (store.readings project pool resource).Pairwise
      fun first second => first.1 ≤ second.1)
    (past : ∀ pool, ∀ reading ∈ store.readings project pool resource, reading.1 ≤ start) :
    (store.consumed project start stop).get resource =
      ∑ pool ∈ store.sampledPools,
        (stop - start) • store.lastReading project pool resource / 3600 := by
  rw [store.get_consumed]
  · exact Finset.sum_congr rfl fun pool _ => by rw [total_after (sorted pool) (past pool)]
  · intro sample sampleMem _ _
    exact mem_toFinset.mpr (mem_map_of_mem sampleMem)

/--
From a tick on no tick is shown a running cluster of the project. Its consumption
over every later window is zero iff, in each of its groups, the last amount that
was recorded before that tick is zero: nothing is recorded of its absence.
-/
theorem metering_stops_iff (absent : KueueAbsent platform provisioner)
    (run : MeteringRun platform thread provisioner UsageKept origin (earlier ++ tick :: later)
      final) (unmetered : origin.store.usage = [])
    (ordered : (tickTimes (earlier ++ tick :: later)).Pairwise (· ≤ ·))
    (read : tick.events.filterMap clockReading = [since])
    (idle : ShownIdle project (history (tick :: later))) :
    (∀ start stop resource, since ≤ start →
      ∃ consumed, Runs platform thread (windowedConsumption project start stop) final
        (.ok consumed) final ∧ consumed.get resource = 0) ↔
      ∀ pool resource, tick.before.store.lastReading project pool resource = 0 := by
  have times : tickTimes (earlier ++ tick :: later) =
      tickTimes earlier ++ since :: tickTimes later := by
    simp [tickTimes, history, read]
  rcases run.from_round with ⟨first, second⟩
  rw [times, pairwise_append] at ordered
  have idleTimes : (tickTimes (tick :: later)).Pairwise (· ≤ ·) := by
    have same : tickTimes (tick :: later) = since :: tickTimes later := by
      simp [tickTimes, history, read]
    exact same ▸ ordered.2.1
  have unchanged := readings_of_idle absent second idleTimes idle
  have sameLast (pool resource : String) : final.store.lastReading project pool resource =
      tick.before.store.lastReading project pool resource := by
    rw [Store.lastReading, Store.lastReading, unchanged]
  have settled (pool resource : String) := unchanged pool resource ▸
    readings_before absent first unmetered ordered.1
      (fun time timeMem => ordered.2.2 time timeMem since (by simp))
  have charged (start stop : ℕ) (resource : String) (after : since ≤ start) :=
    @get_consumed_after project final.store resource start stop
      (fun pool => (settled pool resource).1)
      (fun pool reading readingMem => ((settled pool resource).2 reading readingMem).1.trans after)
  have computed (start stop : ℕ) :=
    @windowedConsumption_runs _ platform thread final project start stop
  constructor
  · intro stops pool resource
    rw [← sameLast]
    by_cases sampled : pool ∈ final.store.sampledPools
    · rcases stops since (since + 1) resource (le_refl since) with ⟨consumed, ran, zero⟩
      have same := (ran.unique (computed since (since + 1))).1
      simp at same
      have none : (final.store.consumed project since (since + 1)).get resource = 0 := by
        rw [← zero, same]
        rfl
      rw [charged since (since + 1) resource (le_refl since), Nat.add_sub_cancel_left,
        Finset.sum_eq_zero_iff_of_nonneg] at none
      · simpa using none pool sampled
      · intro other _
        have nonneg : 0 ≤ final.store.lastReading project other resource :=
          lastReading_nonneg fun reading readingMem => ((settled other resource).2 reading
            readingMem).2
        rw [one_nsmul]
        exact div_nonneg nonneg (by norm_num)
    · exact lastReading_of_unsampled sampled
  · intro silent start stop resource after
    refine ⟨_, computed start stop, ?_⟩
    refine (charged start stop resource after).trans ?_
    apply Finset.sum_eq_zero
    intro pool _
    rw [sameLast, silent pool resource, nsmul_zero, zero_div]

end Stopping

/-- One tick of the demo process, the end of cluster `c1`, and one more tick. -/
def demoStop (store : Store) :
    Option (List (MeterTick DemoClusters) ×
      MeterTick DemoClusters × World DemoClusters) :=
  (demoTicks 1 (demoWorld store)).bind fun (ticks, world) =>
    let stopped := world.setClusters (world.store.clusters.setDesired "c1" .terminated world.now)
    ((Metering.tick false).eval (exec demoPlatform 0) stopped).map fun outcome =>
      (ticks, ⟨(), world, outcome.events, outcome.value, outcome.state⟩, outcome.state)

theorem rounds_of_demoStop {store : Store} {final : World DemoClusters} {since : ℕ}
    {ticks : List (MeterTick DemoClusters)}
    {last : MeterTick DemoClusters}
    (executed : demoStop store = some (ticks, last, final))
    (read : last.events.filterMap clockReading = [since]) :
    MeteringRun demoPlatform 0 false UsageKept (demoWorld store) (ticks ++ [last]) final := by
  simp only [demoStop, Option.bind_eq_some_iff, Option.map_eq_some_iff, Prod.mk.injEq] at executed
  rcases executed with ⟨⟨first, world⟩, ticked, outcome, ran, rfl, rfl, rfl⟩
  have called : outcome.events ≠ [] := by
    intro silent
    simp [silent] at read
  have still (world : World DemoClusters) : UsageKept world world := rfl
  have amid := Prog.amid_of_eval still ran
  exact .snoc () (rounds_alone still ticked)
    (amid.after called rfl fun earlier later => Eq.trans later earlier)

/-- A project whose cluster asked for nothing consumes nothing after it. -/
theorem metering_stops_after_empty_cluster :
    ∃ ticks last final,
      MeteringRun demoPlatform 0 false UsageKept (demoWorld (storeOf (postedRow "c1"
          { headOnly "p" with headCpu := "0", headMemory := "0" }))) (ticks ++ [last]) final ∧
      last.before.store.usage.length = 2 ∧
      ∀ start stop resource, 1 ≤ start →
        ∃ consumed, Runs demoPlatform 0 (windowedConsumption "p" start stop) final
          (.ok consumed) final ∧ consumed.get resource = 0 := by
  have outcome : (demoStop (storeOf (postedRow "c1"
      { headOnly "p" with headCpu := "0", headMemory := "0" }))).map (fun ran =>
        (tickTimes (ran.1 ++ [ran.2.1]), ran.2.1.events.filterMap clockReading,
          decide (ShownIdle "p" (history [ran.2.1])),
          ran.2.1.before.store.usage.map reading)) =
      some ([0, 1], [1], true, [(0, 0), (0, 0)]) := by decide +kernel
  rcases Option.map_eq_some_iff.mp outcome with ⟨⟨ticks, last, final⟩, executed, same⟩
  simp only [Prod.mk.injEq, decide_eq_true_eq] at same
  rcases same with ⟨times, read, idle, recorded⟩
  have run := rounds_of_demoStop executed read
  have nothing (pool resource : String) : last.before.store.lastReading "p" pool resource = 0 := by
    unfold Store.lastReading
    rcases latest : (last.before.store.readings "p" pool resource).getLast? with _ | reading
    · rfl
    rcases mem_map.mp (mem_of_getLast? latest) with ⟨sample, selected, rfl⟩
    have known : sample.reading ∈ last.before.store.usage.map reading :=
      mem_map_of_mem (mem_of_mem_filter selected)
    rw [recorded] at known
    simp only [mem_cons, not_mem_nil, or_false, or_self] at known
    simp [known]
  have length := congrArg length recorded
  rw [length_map] at length
  exact ⟨ticks, last, final, run, length,
    (metering_stops_iff kueueAbsent_of_none run rfl (by rw [times]; decide) read idle).mpr nothing⟩

/-- A cluster that is gone for good goes on being charged. -/
theorem stopped_cluster_still_charged :
    ∃ ticks last final consumed,
      MeteringRun demoPlatform 0 false UsageKept (demoWorld (storeOf postedHead))
        (ticks ++ [last]) final ∧
      last.events.filterMap clockReading = [1] ∧
      ShownIdle "p" (history [last]) ∧
      Runs demoPlatform 0 (windowedConsumption "p" 1 3601) final (.ok consumed) final ∧
      consumed.get "cpu" = 1 := by
  have outcome : (demoStop (storeOf postedHead)).map (fun ran =>
        (ran.2.1.events.filterMap clockReading,
          decide (ShownIdle "p" (history [ran.2.1])),
          (ran.2.2.store.consumed "p" 1 3601).get "cpu")) = some ([1], true, 1) := by
    decide +kernel
  rcases Option.map_eq_some_iff.mp outcome with ⟨⟨ticks, last, final⟩, executed, same⟩
  simp only [Prod.mk.injEq, decide_eq_true_eq] at same
  rcases same with ⟨read, idle, charged⟩
  exact ⟨ticks, last, final, _, rounds_of_demoStop executed read, read, idle,
    windowedConsumption_runs, charged⟩

end Mobula
