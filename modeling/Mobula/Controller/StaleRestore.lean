import Mobula.Controller.Alone
import Mobula.Controller.Quarantine
import Mobula.Foundation.Triples

/-!
# The stale-restore fence at boot

Before the loop starts, the boot check quarantines the store when a backing cluster is newer
than its row. It gives up at the first row that cannot be observed, and the loop starts all the
same.
-/

namespace Mobula

open Foundation Prog List

variable {Provider : Type} {provider : Provider}

/-- The backing cluster of the row reports a generation newer than the stored one. -/
def StaleAt (platform : Platform Provider) (provider : Provider) (row : StoredCluster) : Prop :=
  ∃ observed, platform.observe row.id provider = .ok observed ∧
    observed.observedGeneration.any (row.generation < ·) = true

/-- Every row listed before the first stale one is observed, or reported absent. -/
def ScanReaches (platform : Platform Provider) (provider : Provider)
    (rows : List StoredCluster) : Prop :=
  ∃ earlier row later, rows = earlier ++ row :: later ∧ StaleAt platform provider row ∧
    ∀ other ∈ earlier, ∀ message, platform.observe other.id provider ≠ .error (.backend message)

/-- The call acts on a cluster at the provider. -/
def Call.actuates : Call → Bool
  | .backend (.apply _ _ _ _ _) => true
  | .backend (.suspend _) => true
  | .backend (.resume _) => true
  | .backend (.terminate _) => true
  | _ => false

theorem actuates_of_not_mutates {call : Call} (harmless : call.mutates = false) :
    call.actuates = false := by
  cases call with
  | backend call => cases call <;> first | rfl | cases harmless
  | _ => rfl

/-- Nothing lifts the quarantine. -/
def FlagKept (before seen : World Provider) : Prop :=
  before.store.quarantined = true → seen.store.quarantined = true

section Scan

variable (platform : Platform Provider) (thread : ℕ)

theorem not_scanReaches_nil : ¬ScanReaches platform provider [] := by
  rintro ⟨earlier, row, later, split, _⟩
  simp at split

theorem scanReaches_cons {row : StoredCluster} {rows : List StoredCluster} :
    ScanReaches platform provider (row :: rows) ↔
      StaleAt platform provider row ∨
        (∀ message, platform.observe row.id provider ≠ .error (.backend message)) ∧
          ScanReaches platform provider rows := by
  constructor
  · rintro ⟨earlier, stale, later, split, isStale, seen⟩
    cases earlier with
    | nil =>
      simp at split
      exact .inl (split.1 ▸ isStale)
    | cons head others =>
      simp at split
      refine .inr ⟨?_, others, stale, later, split.2, isStale, ?_⟩
      · rw [split.1]
        exact seen head mem_cons_self
      · intro other otherMem
        exact seen other (mem_cons_of_mem _ otherMem)
  · rintro (isStale | ⟨observable, earlier, stale, later, rfl, isStale, seen⟩)
    · exact ⟨[], row, rows, rfl, isStale, by simp⟩
    · refine ⟨row :: earlier, stale, later, rfl, isStale, ?_⟩
      intro other otherMem
      rcases mem_cons.mp otherMem with rfl | inEarlier
      · exact observable
      · exact seen other inEarlier

/-- The scan leaves the flag set exactly when it was, or when it reaches a stale row. -/
theorem detectStaleRows_runs (rows : List StoredCluster) (world : World Provider) :
    ∃ result booted, Runs platform thread (detectStaleRows rows) world result booted ∧
      (booted.store.quarantined = true ↔
        world.store.quarantined = true ∨ ScanReaches platform world.provider rows) := by
  induction rows with
  | nil => exact ⟨_, world, .ret, by simp [not_scanReaches_nil]⟩
  | cons row rows ih =>
    have observes := @exec_observe _ platform thread world row.id
    rw [scanReaches_cons]
    cases answer : platform.observe row.id world.provider with
    | ok observed =>
      rw [answer] at observes
      by_cases newer : observed.observedGeneration.any (row.generation < ·) = true
      · have isStale : StaleAt platform world.provider row := ⟨observed, answer, newer⟩
        have flagged : exec platform thread (.admin (.setQuarantine true)) world =
            some (.ok (), { world with store := { world.store with quarantined := true } }) :=
          rfl
        refine ⟨.ok true, { world with store := { world.store with quarantined := true } },
          Yields.invoke observes ?_, ?_⟩
        · simp [newer]
          exact Yields.invoke flagged .ret
        · simp [isStale]
      · rcases ih with ⟨result, booted, ran, flag⟩
        refine ⟨result, booted, Yields.invoke observes ?_, ?_⟩
        · simp only [if_neg newer]
          exact ran
        · have fresh : ¬StaleAt platform world.provider row := by
            rintro ⟨other, same, isNewer⟩
            simp [answer] at same
            exact newer (same ▸ isNewer)
          simp [flag, fresh]
    | error failure =>
      have fresh : ¬StaleAt platform world.provider row := by
        rintro ⟨other, same, _⟩
        rw [answer] at same
        cases same
      rw [answer] at observes
      cases failure with
      | notFound absent =>
        rcases ih with ⟨result, booted, ran, flag⟩
        exact ⟨result, booted, Yields.invoke observes ran, by simp [flag, fresh]⟩
      | backend message =>
        exact ⟨_, world, Yields.invoke observes .ret, by simp [fresh]⟩

theorem bootCheck_runs (world : World Provider) :
    ∃ booted, Runs platform thread bootCheck world () booted ∧
      (booted.store.quarantined = true ↔ world.store.quarantined = true ∨
        ScanReaches platform world.provider world.store.clusters.rows) := by
  rcases detectStaleRows_runs platform thread world.store.clusters.rows world with
    ⟨result, booted, ran, flag⟩
  have detects : Runs platform thread detectStaleRestore world result booted :=
    Yields.invoke exec_list ran
  exact ⟨booted, detects.bind .ret, flag⟩

end Scan

section Fence

variable {platform : Platform Provider} {thread : ℕ}

theorem sweepTombstones_spares (retention : ℕ) :
    (sweepTombstones retention).Within fun call => call.actuates = false := by
  refine Within.invoke rfl fun now => ?_
  refine ((reapTerminated_calls now retention).mono ?_).bind fun _ => trivial
  intro call made
  cases made with
  | passive passive => exact actuates_of_not_mutates (mutates_of_passive passive)
  | tombstone row made => cases made <;> rfl

theorem tick_spares {retention : ℕ} {world final : World Provider} {events : EventLog}
    (ran : (tick retention).Amid (exec platform thread) UnderQuarantine world events () final) :
    ∀ event ∈ events, event.op.actuates = false := by
  rcases ran.of_bind with ⟨early, _, _, rest, rfl, reaped, continued⟩
  rcases continued.of_bind with ⟨sweep, _, _, late, rfl, swept, reconciled⟩
  rcases reconciled.of_bind with ⟨pass, _, _, nothing, rfl, passed, finished⟩
  cases finished
  intro event eventMem
  simp at eventMem
  rcases eventMem with inEarly | inSweep | inPass
  · exact actuates_of_not_mutates (reapBeforeSweep_observing.quiet reaped event inEarly)
  · exact (sweepTombstones_spares retention).amid swept event inSweep
  · exact actuates_of_not_mutates (reconcileAll_observing.quiet passed event inPass)

theorem tick_ensures (retention : ℕ) : Ensures (exec platform thread) FlagKept
      (fun past world => world.store.quarantined = true ∧ ∀ event ∈ past, event.op.actuates = false)
      (tick retention)
      fun _ past world =>
        world.store.quarantined = true ∧ ∀ event ∈ past, event.op.actuates = false := by
  rintro past world events _ final ⟨isSet, quiet⟩ ran
  have underQuarantine := Amid.mono tick_keepsCatalog
    (fun world : World Provider => world.store.quarantined = true)
    (fun _ _ isSet kept => ⟨kept isSet, kept isSet⟩)
    (fun _ _ _ _ keeps answered isSet => (quarantined_exec answered keeps).trans isSet) isSet ran
  refine ⟨underQuarantine.2, ?_⟩
  intro event eventMem
  rcases mem_append.mp eventMem with earlier | later
  · exact quiet event earlier
  · exact tick_spares underQuarantine.1 event later

/--
The boot check leaves the store quarantined exactly when it already was or the
scan reaches a stale row, and then no tick acts on any cluster until the flag is
cleared.
-/
theorem stale_restore_fenced_iff (platform : Platform Provider) (thread : ℕ)
    (world : World Provider) :
    ∃ booted, Runs platform thread bootCheck world () booted ∧
      (booted.store.quarantined = true ↔ world.store.quarantined = true ∨
        ScanReaches platform world.provider world.store.clusters.rows) ∧
      (booted.store.quarantined = true →
        ∀ ticks final, Rounds (exec platform thread) FlagKept tick booted ticks final →
          ∀ event ∈ history ticks, event.op.actuates = false) := by
  rcases bootCheck_runs platform thread world with ⟨booted, ran, flag⟩
  refine ⟨booted, ran, flag, ?_⟩
  intro isSet ticks final run
  exact (run.invariant ⟨isSet, by simp⟩ tick_ensures).2

end Fence

def brokenPlatform (broken : ClusterId) : Platform DemoClusters :=
  { demoPlatform with
    observe := fun id clusters =>
      if id = broken then .error (.backend "timeout") else demoPlatform.observe id clusters }

/-- A row of a backup; its cluster was resumed and updated after the backup was taken. -/
def restoredRow : StoredCluster :=
  { postedRow "c2" (headOnly "p") with desired := .suspended }

def restoredWorld : World DemoClusters :=
  { demoWorld { storeOf restoredRow with
      clusters := (storeOf restoredRow).clusters.insert postedHead } with
    provider := Table.empty.insert ⟨"c2", .running, 2, ""⟩ }

theorem restoredWorld_rows :
    restoredWorld.store.clusters.rows = [postedHead, restoredRow] := by
  decide +kernel

theorem restoredRow_stale {broken : ClusterId} (distinct : restoredRow.id ≠ broken) :
    StaleAt (brokenPlatform broken) restoredWorld.provider restoredRow := by
  refine ⟨⟨"c2", .running, some 2, some "", some "http://c2.demo.local:8265"⟩, ?_, rfl⟩
  simp only [brokenPlatform, if_neg distinct]
  decide +kernel

/-- With the first cluster observable, the restored store is fenced. -/
theorem stale_restore_fenced_for_observable_rows :
    ∃ booted, Runs (brokenPlatform "c3") 0 bootCheck restoredWorld () booted ∧
      booted.store.quarantined = true ∧
      ∀ ticks final, Rounds (exec (brokenPlatform "c3") 0) FlagKept tick booted ticks final →
        ∀ event ∈ history ticks, event.op.actuates = false := by
  rcases stale_restore_fenced_iff (brokenPlatform "c3") 0 restoredWorld with
    ⟨booted, ran, flag, fenced⟩
  have reaches : ScanReaches (brokenPlatform "c3") restoredWorld.provider
      restoredWorld.store.clusters.rows := by
    rw [restoredWorld_rows]
    refine ⟨[postedHead], restoredRow, [], rfl,
      restoredRow_stale (by decide), ?_⟩
    intro other otherMem message
    rw [mem_singleton.mp otherMem]
    exact nofun
  have isSet := flag.mpr (.inr reaches)
  exact ⟨booted, ran, isSet, fenced isSet⟩

/-- One cluster that cannot be observed at boot, and the next tick suspends a newer one. -/
theorem broken_scan_unfenced :
    (∃ row ∈ restoredWorld.store.clusters.rows,
      StaleAt (brokenPlatform "c1") restoredWorld.provider row) ∧
    ∃ booted ticks final, Runs (brokenPlatform "c1") 0 bootCheck restoredWorld () booted ∧
      Rounds (exec (brokenPlatform "c1") 0) FlagKept tick booted ticks final ∧
      ∃ event ∈ history ticks, event.op.actuates = true := by
  have outcome : ((bootCheck.eval (exec (brokenPlatform "c1") 0) restoredWorld).bind fun booted =>
      ((tick 0).eval (exec (brokenPlatform "c1") 0) booted.state).map fun ticked =>
        ticked.events.any fun event => event.op.actuates) = some true := by
    decide +kernel
  rcases Option.bind_eq_some_iff.mp outcome with ⟨booted, boots, ticking⟩
  rcases Option.map_eq_some_iff.mp ticking with ⟨ticked, ticks, actuated⟩
  refine ⟨⟨restoredRow, by simp [restoredWorld_rows], restoredRow_stale (by decide)⟩, ?_⟩
  refine ⟨booted.state, _, ticked.state, ⟨booted.events, boots⟩,
    .snoc 0 .nil (amid_of_eval (fun _ isSet => isSet) ticks), ?_⟩
  simpa [history] using any_eq_true.mp actuated

end Mobula
