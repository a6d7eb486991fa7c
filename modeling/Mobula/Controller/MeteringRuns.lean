import Mobula.Controller.Metering
import Mobula.Foundation.Triples

/-!
# Runs of the metering loop

Ticks follow one another while requests and reconcilers go on changing the store. Only the loop
records usage. Without Kueue, a tick appends the estimate made from the rows it was shown.
-/

namespace Mobula

open Foundation List Metering

variable {Provider : Type}

def clockReading : Event Call.Res → Option ℕ
  | ⟨.process .nowUnix, now⟩ => some now
  | _ => none

def listedRows : Event Call.Res → Option (List StoredCluster)
  | ⟨.row .list, .ok rows⟩ => some rows
  | _ => none

/-- A tick of the metering loop, and what it counted. -/
abbrev MeterTick (Provider : Type) := Round Call.Res (World Provider) Unit ℕ

/-- Ticks one after the other, among what else may happen. -/
abbrev MeteringRun (platform : Platform Provider) (thread : ℕ) (provisioner : Bool)
    (interferes : World Provider → World Provider → Prop) :=
  Rounds (exec platform thread) interferes fun _ : Unit => Metering.tick provisioner

/-- The clock readings of the ticks. -/
def tickTimes (ticks : List (MeterTick Provider)) : List ℕ :=
  (history ticks).filterMap clockReading

/-- There is no Kueue to meter from. -/
def KueueAbsent (platform : Platform Provider) (provisioner : Bool) : Prop :=
  provisioner = true → ∀ provider, platform.kueuePresent provider = false

/-- Nothing else meters. -/
def UsageKept (before after : World Provider) : Prop :=
  after.store.usage = before.store.usage

/-- Others record no usage and leave clusters, pools and allocations as they are. -/
structure DemandKept (before after : World Provider) : Prop where
  usage : after.store.usage = before.store.usage
  clusters : after.store.clusters = before.store.clusters
  pools : after.store.pools = before.store.pools
  allocations : after.store.allocations = before.store.allocations

namespace DemandKept

theorem refl (world : World Provider) : DemandKept world world := ⟨rfl, rfl, rfl, rfl⟩

theorem trans {first second third : World Provider} (earlier : DemandKept first second)
    (later : DemandKept second third) : DemandKept first third :=
  ⟨later.usage.trans earlier.usage, later.clusters.trans earlier.clusters,
    later.pools.trans earlier.pools, later.allocations.trans earlier.allocations⟩

variable {before after : World Provider}

theorem of_store (same : after.store = before.store) : DemandKept before after := by
  constructor <;> rw [same]

theorem allocationsOf (kept : DemandKept before after) (pool : String) :
    after.store.allocationsOf pool = before.store.allocationsOf pool := by
  rw [Store.allocationsOf, Store.allocationsOf, kept.allocations]

theorem projectPoolsIn (kept : DemandKept before after) (pools : List StoredPool)
    (known : PoolMap) :
    after.store.projectPoolsIn pools known = before.store.projectPoolsIn pools known := by
  simp only [Store.projectPoolsIn, kept.allocationsOf]

theorem estimate_of (clusters : after.store.clusters = before.store.clusters)
    (pools : after.store.pools = before.store.pools)
    (allocations : after.store.allocations = before.store.allocations) (now : ℕ) :
    after.store.estimate now = before.store.estimate now := by
  simp only [Store.estimate, Store.projectPools, Store.projectPoolsIn, Store.allocationsOf,
    clusters, pools, allocations]

theorem estimate (kept : DemandKept before after) (now : ℕ) :
    after.store.estimate now = before.store.estimate now :=
  estimate_of kept.clusters kept.pools kept.allocations now

end DemandKept

def Call.consults : Call → Bool
  | .row .list => true
  | .control .listPools => true
  | .control (.listAllocations _) => true
  | .pool .kueuePresent => true
  | .pool (.observePool _) => true
  | _ => false

theorem store_of_consults {platform : Platform Provider} {thread : ℕ} {call : Call}
    {world world' : World Provider} {answer : call.Res} (consults : call.consults = true)
    (answered : exec platform thread call world = some (answer, world')) :
    world'.store = world.store := by
  cases call with
  | row call =>
    cases call with
    | list =>
      simp [exec_list] at answered
      rw [← answered.2]
    | _ => cases consults
  | control call =>
    cases call with
    | listPools =>
      simp [exec_listPools] at answered
      rw [← answered.2]
    | listAllocations pool =>
      simp [exec_listAllocations] at answered
      rw [← answered.2]
    | _ => cases consults
  | pool call =>
    cases call with
    | kueuePresent =>
      simp [exec, execPool] at answered
      rw [← answered.2]
    | observePool name =>
      simp [exec, execPool] at answered
      rw [← answered.2]
    | _ => cases consults
  | _ => cases consults

theorem clockReading_of_consults {event : Event Call.Res} (consults : event.op.consults = true) :
    clockReading event = none := by
  rcases event with ⟨call, answer⟩
  cases call with
  | process call => cases consults
  | _ => rfl

namespace Metering

abbrev Consults {α : Type} (program : Program α) : Prop :=
  program.Within fun call => call.consults = true

theorem projectPoolsIn_consults (pools : List StoredPool) (known : PoolMap) :
    Consults (projectPoolsIn pools known) := by
  induction pools generalizing known with
  | nil => trivial
  | cons pool pools ih =>
    refine Prog.Within.invoke rfl fun answer => ?_
    rcases answer with failure | allocations <;> exact ih _

theorem projectPools_consults : Consults projectPools := by
  refine Prog.Within.invoke rfl fun answer => ?_
  rcases answer with failure | pools
  · trivial
  · exact projectPoolsIn_consults pools .empty

theorem collectObservedSpec_consults (now : ℕ) : Consults (collectObservedSpec now) := by
  refine Prog.Within.invoke rfl fun answer => ?_
  rcases answer with failure | rows
  · trivial
  · exact projectPools_consults.bind fun _ => trivial

theorem collectKueueIn_consults (now : ℕ) (pools : List StoredPool) :
    Consults (collectKueueIn now pools) := by
  induction pools with
  | nil => trivial
  | cons pool pools ih =>
    refine Prog.Within.invoke rfl fun answer => ?_
    rcases answer with failure | _ | observed
    · exact ih
    · exact ih
    · exact ih.bind fun _ => trivial

theorem collectKueue_consults (now : ℕ) : Consults (collectKueue now) := by
  refine Prog.Within.invoke rfl fun answer => ?_
  rcases answer with failure | pools
  · trivial
  · exact collectKueueIn_consults now pools

theorem kueue_consults (provisioner : Bool) : Consults (kueue provisioner) := by
  rcases provisioner with _ | _
  · trivial
  · exact Prog.within_invoke rfl

theorem collect_consults (provisioner : Bool) (now : ℕ) : Consults (collect provisioner now) := by
  refine (kueue_consults provisioner).bind fun present => ?_
  rcases present with _ | _
  · exact collectObservedSpec_consults now
  · exact collectKueue_consults now

end Metering

section Ticks

variable {platform : Platform Provider} {thread : ℕ}
  {interferes : World Provider → World Provider → Prop} {state final : World Provider}
  {events : EventLog} {α : Type} {program : Program α} {value : α} {provisioner : Bool}
  {now recorded : ℕ} {samples : List UsageSample}

theorem Metering.Consults.keeps {κ : Type} (consults : Metering.Consults program) (part : Store → κ)
    (kept : ∀ before after, interferes before after → part after.store = part before.store)
    (ran : program.Amid (exec platform thread) interferes state events value final) :
    part final.store = part state.store := by
  have ended : program.Ensures (exec platform thread) interferes
      (fun _ world => part world.store = part state.store)
      fun _ _ world => part world.store = part state.store := by
    refine consults.ensures ?_
    intro call past before seen answer after consulted held moved answered
    rw [store_of_consults consulted answered, kept before seen moved, held]
  exact ended [] state events value final rfl ran

theorem Metering.Consults.demandKept (consults : Metering.Consults program)
    (ran : program.Amid (exec platform thread) DemandKept state events value final) :
    DemandKept state final where
  usage := consults.keeps Store.usage (fun _ _ kept => kept.usage) ran
  clusters := consults.keeps Store.clusters (fun _ _ kept => kept.clusters) ran
  pools := consults.keeps Store.pools (fun _ _ kept => kept.pools) ran
  allocations := consults.keeps Store.allocations (fun _ _ kept => kept.allocations) ran

theorem Metering.Consults.clockReadings (consults : Metering.Consults program)
    (ran : program.Amid (exec platform thread) interferes state events value final) :
    events.filterMap clockReading = [] := by
  rw [filterMap_eq_nil_iff]
  intro event eventMem
  exact clockReading_of_consults (consults.amid ran event eventMem)

theorem collect_amid (absent : KueueAbsent platform provisioner)
    (ran : (collect provisioner now).Amid (exec platform thread) interferes state events
      samples final) :
    ∃ asked between later, events = asked ++ later ∧
      (kueue provisioner).Amid (exec platform thread) interferes state asked false
        between ∧
      (collectObservedSpec now).Amid (exec platform thread) interferes between later
        samples final := by
  rcases ran.of_bind with ⟨asked, present, between, later, rfl, answered, collected⟩
  have missing : present = false := by
    cases provisioner with
    | false =>
      cases answered
      rfl
    | true =>
      cases answered with
      | call moved given rest =>
        cases rest
        simp [exec, execPool] at given
        rw [← given.1, absent rfl]
  subst missing
  exact ⟨asked, between, later, rfl, answered, collected⟩

theorem collectObservedSpec_amid
    (ran : (collectObservedSpec now).Amid (exec platform thread) interferes state events
      samples final) :
    ∃ rows pools, rows ∈ events.filterMap listedRows ∧
      samples = rows.flatMap (clusterSamples now pools) := by
  rcases ran.of_invoke with ⟨seen, answer, after, later, _, answered, rfl, collected⟩
  cases answered
  rcases collected.of_bind with ⟨_, pools, _, _, _, _, returned⟩
  cases returned
  exact ⟨seen.store.clusters.rows, pools, by simp [listedRows], rfl⟩

theorem projectPoolsIn_amid {pools : List StoredPool} {known found : PoolMap}
    (ran : (projectPoolsIn pools known).Amid (exec platform thread) DemandKept state
      events found final) : found = state.store.projectPoolsIn pools known := by
  induction pools generalizing known state events with
  | nil =>
    cases ran
    rfl
  | cons pool pools ih =>
    rcases ran.of_invoke with ⟨seen, answer, after, later, moved, answered, rfl, resumed⟩
    cases answered
    rw [ih resumed, moved.projectPoolsIn, moved.allocationsOf]
    rfl

theorem collectObservedSpec_amid_kept
    (ran : (collectObservedSpec now).Amid (exec platform thread) DemandKept state events
      samples final) : samples = state.store.estimate now := by
  rcases ran.of_invoke with ⟨seen, answer, after, later, moved, answered, rfl, collected⟩
  cases answered
  rcases collected.of_bind with ⟨_, found, _, _, _, resolved, returned⟩
  cases returned
  rcases resolved.of_invoke with ⟨seen', answer, after, later, moved', answered, rfl, resumed⟩
  cases answered
  rw [projectPoolsIn_amid resumed, moved'.projectPoolsIn, moved'.pools, ← moved.estimate now]
  rfl

theorem tick_amid
    (ran : (Metering.tick provisioner).Amid (exec platform thread) interferes state events
      recorded final) :
    ∃ now seen collected samples between, interferes state seen ∧
      (Metering.collect provisioner now).Amid (exec platform thread) interferes
        (seen.afterReading true) collected samples between ∧
      events.filterMap clockReading = [now] ∧ (∀ event ∈ collected, event ∈ events) ∧
      (samples = [] ∧ final = between ∨ ∃ after, interferes between after ∧
        final.store = { after.store with usage := after.store.usage ++ samples }) := by
  rcases ran.of_invoke with ⟨seen, now, after, rest, moved, answered, rfl, resumed⟩
  cases answered
  rcases resumed.of_bind with ⟨collected, samples, between, later, rfl, collecting, recording⟩
  have silent := (Metering.collect_consults provisioner _).clockReadings collecting
  have wrote : later.filterMap clockReading = [] ∧
      (samples = [] ∧ final = between ∨ ∃ after, interferes between after ∧
        final.store = { after.store with usage := after.store.usage ++ samples }) := by
    by_cases nothing : samples.isEmpty = true
    · rw [if_pos nothing] at recording
      cases recording
      exact ⟨rfl, .inl ⟨List.isEmpty_iff.mp nothing, rfl⟩⟩
    · rw [if_neg nothing] at recording
      rcases recording.of_invoke with ⟨after, answer, _, _, moved', answered, rfl, returned⟩
      cases answered
      cases returned
      exact ⟨rfl, .inr ⟨after, moved', rfl⟩⟩
  refine ⟨seen.now, seen, collected, samples, between, moved, collecting, ?_, ?_, wrote.2⟩
  · simp [clockReading, silent, wrote.1]
  · intro event eventMem
    simp [eventMem]

theorem tick_appends (absent : KueueAbsent platform provisioner)
    (ran : (Metering.tick provisioner).Amid (exec platform thread) UsageKept state events
      recorded final) :
    ∃ now rows pools, events.filterMap clockReading = [now] ∧
      rows ∈ events.filterMap listedRows ∧
      final.store.usage =
        state.store.usage ++ rows.flatMap (Metering.clusterSamples now pools) := by
  rcases tick_amid ran with
    ⟨now, seen, collected, samples, between, moved, collecting, read, within, stored⟩
  have untouched : between.store.usage = (seen.afterReading true).store.usage :=
    (Metering.collect_consults provisioner now).keeps Store.usage
      (fun before after (kept : UsageKept before after) => kept) collecting
  rcases collect_amid absent collecting with ⟨asked, middle, later, rfl, _, estimating⟩
  rcases collectObservedSpec_amid estimating with ⟨rows, pools, listed, rfl⟩
  refine ⟨now, rows, pools, read, ?_, ?_⟩
  · rcases mem_filterMap.mp listed with ⟨event, eventMem, shown⟩
    exact mem_filterMap.mpr ⟨event, within event (by simp [eventMem]), shown⟩
  · have before : between.store.usage = state.store.usage := untouched.trans moved
    rcases stored with ⟨nothing, rfl⟩ | ⟨after, moved', appended⟩
    · simp [nothing, before]
    · rw [appended, moved', before]

theorem tick_appends_estimate (absent : KueueAbsent platform provisioner)
    (ran : (Metering.tick provisioner).Amid (exec platform thread) DemandKept state events
      recorded final) :
    ∃ now, events.filterMap clockReading = [now] ∧
      final.store.usage = state.store.usage ++ state.store.estimate now ∧
      final.store.clusters = state.store.clusters ∧ final.store.pools = state.store.pools ∧
      final.store.allocations = state.store.allocations := by
  rcases tick_amid ran with
    ⟨now, seen, collected, samples, between, moved, collecting, read, _, stored⟩
  have stamped : DemandKept seen (seen.afterReading true) := DemandKept.of_store rfl
  have untouched : DemandKept seen between :=
    stamped.trans ((Metering.collect_consults provisioner now).demandKept collecting)
  rcases collect_amid absent collecting with ⟨asked, middle, later, rfl, asking, estimating⟩
  have settled : DemandKept seen middle :=
    stamped.trans ((Metering.kueue_consults provisioner).demandKept asking)
  have estimated : samples = state.store.estimate now := by
    rw [collectObservedSpec_amid_kept estimating, settled.estimate, moved.estimate]
  have kept := moved.trans untouched
  refine ⟨now, read, ?_⟩
  rcases stored with ⟨nothing, rfl⟩ | ⟨after, moved', appended⟩
  · rw [← estimated, nothing, append_nil]
    exact ⟨kept.usage, kept.clusters, kept.pools, kept.allocations⟩
  · have whole := kept.trans moved'
    rw [appended, ← estimated]
    exact ⟨by rw [whole.usage], whole.clusters, whole.pools, whole.allocations⟩

variable {origin : World Provider} {ticks : List (MeterTick Provider)}

theorem tickTimes_snoc {earlier : List (MeterTick Provider)}
    {tick : MeterTick Provider} :
    tickTimes (earlier ++ [tick]) = tickTimes earlier ++ tick.events.filterMap clockReading := by
  simp [tickTimes]

/-- While the rows stay as they are, every tick appends the same estimate at its own time. -/
theorem usage_of_ticks (absent : KueueAbsent platform provisioner)
    (run : MeteringRun platform thread provisioner DemandKept origin ticks final) :
    final.store.usage = origin.store.usage ++ (tickTimes ticks).flatMap origin.store.estimate := by
  suffices metered : final.store.usage =
      origin.store.usage ++ (tickTimes ticks).flatMap origin.store.estimate ∧
      final.store.clusters = origin.store.clusters ∧ final.store.pools = origin.store.pools ∧
      final.store.allocations = origin.store.allocations from metered.1
  induction run with
  | nil => simp [tickTimes, history]
  | @snoc earlier state events value final role before ran ih =>
    rcases ih with ⟨usage, clusters, pools, allocations⟩
    rcases tick_appends_estimate absent ran with ⟨now, read, usage', clusters', pools', allocs'⟩
    have same : state.store.estimate now = origin.store.estimate now :=
      DemandKept.estimate_of clusters pools allocations now
    refine ⟨?_, clusters'.trans clusters, pools'.trans pools, allocs'.trans allocations⟩
    rw [usage', usage, same, tickTimes_snoc, read, flatMap_append, append_assoc]
    simp

theorem mem_clusterSamples {pools : PoolMap} {row : StoredCluster} {sample : UsageSample}
    (sampleMem : sample ∈ clusterSamples now pools row) :
    sample.ts = now ∧ 0 ≤ sample.quantity ∧ row.desired = .running ∧
      row.spec.project = sample.project ∧ sample.pool = poolOf pools sample.project := by
  unfold clusterSamples at sampleMem
  split at sampleMem
  case isTrue running =>
    rcases computed : clusterDemand row.spec with failure | demand
    · simp [computed] at sampleMem
    simp only [computed, mem_map] at sampleMem
    rcases sampleMem with ⟨entry, entryMem, rfl⟩
    have nonneg := (clusterDemand_nonNeg computed).1 entry.1
    rw [ResourceMap.get_of_find? (Table.find?_of_mem entryMem)] at nonneg
    exact ⟨rfl, nonneg, running, rfl, rfl⟩
  case isFalse idle => simp at sampleMem

/--
What a run of ticks has recorded: at non-decreasing times, amounts that are not
negative, for projects of which a tick was shown a running cluster.
-/
theorem usage_recorded (absent : KueueAbsent platform provisioner)
    (run : MeteringRun platform thread provisioner UsageKept origin ticks final)
    (ordered : (tickTimes ticks).Pairwise (· ≤ ·)) :
    ∃ added, final.store.usage = origin.store.usage ++ added ∧
      added.Pairwise (fun first second => first.ts ≤ second.ts) ∧
      ∀ sample ∈ added, sample.ts ∈ tickTimes ticks ∧ 0 ≤ sample.quantity ∧
        ∃ rows ∈ (history ticks).filterMap listedRows, ∃ row ∈ rows,
          row.desired = .running ∧ row.spec.project = sample.project := by
  induction run with
  | nil => exact ⟨[], by simp⟩
  | @snoc earlier state events value final role before ran ih =>
    rcases tick_appends absent ran with ⟨now, rows, pools, read, listed, usage⟩
    rw [tickTimes_snoc, read, pairwise_append] at ordered
    rcases ih ordered.1 with ⟨added, recorded, sorted, known⟩
    have latest (sample : UsageSample)
        (sampleMem : sample ∈ rows.flatMap (Metering.clusterSamples now pools)) :
        sample.ts = now := by
      rcases mem_flatMap.mp sampleMem with ⟨row, _, fromRow⟩
      exact (mem_clusterSamples fromRow).1
    refine ⟨added ++ rows.flatMap (Metering.clusterSamples now pools), ?_, ?_, ?_⟩
    · simp [usage, recorded]
    · rw [pairwise_append]
      refine ⟨sorted, ?_, ?_⟩
      · refine pairwise_of_forall_mem_list ?_
        intro first firstMem second secondMem
        rw [latest first firstMem, latest second secondMem]
      · intro first firstMem second secondMem
        rw [latest second secondMem]
        exact ordered.2.2 first.ts (known first firstMem).1 now (by simp)
    · intro sample sampleMem
      rw [tickTimes_snoc, read, history_append, history_singleton, filterMap_append]
      rcases mem_append.mp sampleMem with old | new
      · rcases known sample old with ⟨time, nonneg, shown, shownMem, row, rowMem, owner⟩
        exact ⟨by simp [time], nonneg, shown, by simp [shownMem], row, rowMem, owner⟩
      · rcases mem_flatMap.mp new with ⟨row, rowMem, fromRow⟩
        rcases mem_clusterSamples fromRow with ⟨time, nonneg, running, owner, _⟩
        exact ⟨by simp [time], nonneg, rows, mem_append_right _ listed, row, rowMem, running, owner⟩

end Ticks

end Mobula
