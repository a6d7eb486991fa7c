import Mobula.Controller.Metering
import Mobula.Provision.Demo
import Mobula.Provision.Kueue

/-!
# Units of what Kueue reports

With Kueue, the loop records every reported amount under the resource key that Kueue uses. A
memory amount is read there as a bare number, whereas the demand of a cluster and the estimate
made from it are in GiB.
-/

namespace Mobula

open Foundation List Metering Float64

variable {table table' : List (List Char × ℚ)} {text : List Char} {entry : List Char × ℚ}
  {amount : ℚ}

def unitSuffixes : List (List Char × ℚ) :=
  memorySuffixes ++ quantitySuffixes

theorem unitSuffixes_free :
    ∀ entry ∈ unitSuffixes, ∀ other ∈ unitSuffixes, entry.1 <:+ other.1 → entry = other := by
  decide +kernel

theorem unitSuffixes_end : ∀ entry ∈ unitSuffixes, entry.1.getLast?.any (fun c =>
      !isWhitespace c && !c.isDigit && c ≠ '.') = true := by
  decide +kernel

theorem entry_eq_of_suffix {other : List Char × ℚ} (listed : entry ∈ unitSuffixes)
    (otherListed : other ∈ unitSuffixes) (ends : entry.1 <:+ text) (otherEnds : other.1 <:+ text) :
    entry = other := by
  rcases suffix_or_suffix_of_suffix ends otherEnds with within | within
  · exact unitSuffixes_free entry listed other otherListed within
  · exact (unitSuffixes_free other otherListed entry listed within).symm

theorem splitUnit_of_suffix (within : table ⊆ unitSuffixes) (listed : entry ∈ table)
    (ends : entry.1 <:+ text) :
    splitUnit table text = (text.take (text.length - entry.1.length), entry.2) := by
  have unit := within listed
  induction table with
  | nil => simp at listed
  | cons first others ih =>
    rw [cons_subset] at within
    by_cases matched : first.1 <:+ text
    · have same := entry_eq_of_suffix within.1 unit matched ends
      simp [splitUnit, stripSuffix, same, ends]
    · have later : entry ∈ others := by
        rcases mem_cons.mp listed with rfl | later
        · exact absurd ends matched
        · exact later
      simpa [splitUnit, stripSuffix, matched] using ih within.2 later

theorem splitUnit_of_bare (bare : ¬ ∃ entry ∈ table, entry.1 <:+ text) :
    splitUnit table text = (text, 1) := by
  induction table with
  | nil => rfl
  | cons first others ih =>
    simp only [exists_mem_cons_iff, not_or] at bare
    simpa [splitUnit, stripSuffix, bare.1] using ih bare.2

theorem not_finite_of_suffix {value : ℚ} (listed : entry ∈ unitSuffixes) (ends : entry.1 <:+ text) :
    parse (trim text) ≠ some (.finite value) := by
  intro parsed
  have plain := unitSuffixes_end entry listed
  rcases last : entry.1.getLast? with _ | c
  · simp [last] at plain
  simp [last] at plain
  rcases ends with ⟨front, rfl⟩
  have ended : (front ++ entry.1).getLast? = some c := by
    rw [getLast?_append_of_ne_nil _ (by rintro empty; simp [empty] at last), last]
  rcases parse_finite_last parsed (getLast?_trim ended plain.1.1) with digit | point
  · rw [plain.1.2] at digit
    cases digit
  · exact plain.2 point

/-- Two tables read one number with one unit. -/
theorem splitUnit_eq_of_finite {first second : ℚ} (within : table ⊆ unitSuffixes)
    (within' : table' ⊆ unitSuffixes)
    (read : parse (trim (splitUnit table text).1) = some (.finite first))
    (read' : parse (trim (splitUnit table' text).1) = some (.finite second)) :
    splitUnit table text = splitUnit table' text := by
  by_cases marked : ∃ entry ∈ table, entry.1 <:+ text <;>
    by_cases marked' : ∃ entry ∈ table', entry.1 <:+ text
  · rcases marked with ⟨entry, listed, ends⟩
    rcases marked' with ⟨other, otherListed, otherEnds⟩
    have same := entry_eq_of_suffix (within listed) (within' otherListed) ends otherEnds
    subst same
    rw [splitUnit_of_suffix within listed ends, splitUnit_of_suffix within' otherListed ends]
  · rcases marked with ⟨entry, listed, ends⟩
    rw [splitUnit_of_bare marked'] at read'
    exact absurd read' (not_finite_of_suffix (within listed) ends)
  · rcases marked' with ⟨other, otherListed, otherEnds⟩
    rw [splitUnit_of_bare marked] at read
    exact absurd read (not_finite_of_suffix (within' otherListed) otherEnds)
  · rw [splitUnit_of_bare marked, splitUnit_of_bare marked']

theorem Float64.scale_eq_finite {factor : ℚ} {value : Float64}
    (scaled : value.scale factor = .finite amount) :
    ∃ number, value = .finite number ∧ amount = number * factor := by
  cases value with
  | finite number =>
    simp only [scale, ofRat] at scaled
    split at scaled
    · cases scaled
    · split at scaled
      · cases scaled
      · cases scaled
        exact ⟨number, rfl, rfl⟩
  | infinite negative => cases scaled
  | nan => cases scaled

theorem parseScaled_eq_ok {what : String} {number : List Char} {convert : Float64 → Float64}
    (accepted : parseScaled what number text convert = .ok amount) :
    ∃ value, parse number = some value ∧ convert value = .finite amount := by
  rcases parsed : parse number with _ | value
  · simp [parseScaled, parsed] at accepted
  simp only [parseScaled, parsed] at accepted
  refine ⟨value, rfl, ?_⟩
  cases converted : convert value with
  | finite result =>
    simp only [converted, finiteNonneg] at accepted
    split at accepted
    · cases accepted
      rfl
    · cases accepted
  | infinite negative => simp [converted, finiteNonneg] at accepted
  | nan => simp [converted, finiteNonneg] at accepted

theorem memGib_eq {text : String} :
    memGib text = parseScaled "memory" (trim (splitUnit memorySuffixes (trim text.toList)).1)
      (trim text.toList) fun value =>
        (value.scale (splitUnit memorySuffixes (trim text.toList)).2).scale (1 / 1024 ^ 3) := rfl

theorem parseQuantity_eq {text : String} : parseQuantity text =
      parseScaled "quantity" (trim (splitUnit quantitySuffixes (trim text.toList)).1)
        (trim text.toList) (·.scale (splitUnit quantitySuffixes (trim text.toList)).2) := rfl

/-- Both readings of a memory quantity: in bytes and in GiB. -/
theorem parseQuantity_eq_memGib {text : String} {gib raw : ℚ} (inGib : memGib text = .ok gib)
    (accepted : parseQuantity text = .ok raw) : raw = gib * 1024 ^ 3 := by
  rw [memGib_eq] at inGib
  rw [parseQuantity_eq] at accepted
  rcases parseScaled_eq_ok inGib with ⟨first, firstParsed, firstScaled⟩
  rcases parseScaled_eq_ok accepted with ⟨second, secondParsed, secondScaled⟩
  rcases Float64.scale_eq_finite firstScaled with ⟨bytes, bytesScaled, rfl⟩
  rcases Float64.scale_eq_finite bytesScaled with ⟨number, rfl, rfl⟩
  rcases Float64.scale_eq_finite secondScaled with ⟨other, rfl, rfl⟩
  have same := splitUnit_eq_of_finite (subset_append_left _ _) (subset_append_right _ _)
    firstParsed secondParsed
  simp [same, secondParsed, Float64.finite.injEq] at firstParsed
  rw [same, firstParsed]
  ring

/-- An amount that Kueue reports for a resource of a pool, or of one of its queues. -/
structure KueueReport where
  pool : String
  project : String
  resource : String
  reported : String

namespace KueueReport

variable (now : ℕ)

def sample (report : KueueReport) : Option UsageSample :=
  (parseOrSkip report.reported).map fun quantity =>
    ⟨now, report.project, report.pool, report.resource, quantity, .kueueLedger⟩

variable (pool : String) (projectOf : String → String)

def ofLedger (usage : UsageTable) : List KueueReport :=
  usage.flatMap fun (name, amounts) =>
    amounts.map fun (resource, reported) => ⟨pool, projectOf name, resource, reported⟩

def ofPool (observed : PoolObservation) : List KueueReport :=
  ofLedger pool (fun _ => "") observed.flavorsUsage ++ ofLedger pool id observed.queuesUsage

theorem filterMap_ofLedger (usage : UsageTable)
    : (ofLedger pool projectOf usage).filterMap (sample now) =
      ledgerSamples now pool projectOf usage := by
  simp [ofLedger, ledgerSamples, filterMap_flatMap, filterMap_map, sample,
    Function.comp_def]

theorem filterMap_ofPool (observed : PoolObservation) :
    (ofPool pool observed).filterMap (sample now) =
      observedSamples now pool observed := by
  simp [ofPool, filterMap_ofLedger, observedSamples]

end KueueReport

section Reports

variable {Provider : Type} (platform : Platform Provider) (thread : ℕ)

def kueueReportsIn (provider : Provider) (pools : List StoredPool) : List KueueReport :=
  pools.flatMap fun pool =>
    match platform.observePool pool.name provider with
    | .ok (some observed) => KueueReport.ofPool pool.name observed
    | _ => []

def kueueReports (world : World Provider) : List KueueReport :=
  kueueReportsIn platform world.provider world.store.pools.rows

theorem collectKueueIn_runs {now : ℕ} {pools : List StoredPool} {world : World Provider} :
    Runs platform thread (collectKueueIn now pools) world
      ((kueueReportsIn platform world.provider pools).filterMap (KueueReport.sample now))
      world := by
  induction pools with
  | nil => exact .ret
  | cons pool pools ih =>
    have observes : exec platform thread (.pool (.observePool pool.name)) world =
        some (platform.observePool pool.name world.provider, world) := rfl
    apply Prog.Yields.invoke observes
    simp [kueueReportsIn]
    rcases platform.observePool pool.name world.provider with failure | _ | observed
    · exact ih
    · exact ih
    · simp only [KueueReport.filterMap_ofPool]
      exact ih.bind .ret

theorem collectKueue_runs (now : ℕ) (world : World Provider) :
    Runs platform thread (collectKueue now) world
      ((kueueReports platform world).filterMap (KueueReport.sample now)) world :=
  Prog.Yields.invoke exec_listPools (collectKueueIn_runs platform thread)

/--
A collection records every report on its own, and what it records of a memory
quantity is its amount in GiB iff that amount is zero: it is a number of bytes.
-/
theorem kueue_memory_in_gib_iff (now : ℕ) (world : World Provider) {report : KueueReport}
    (reported : report ∈ kueueReports platform world) (ofMemory : report.resource = MEMORY)
    {gib raw : ℚ} (inGib : memGib report.reported = .ok gib)
    (accepted : parseQuantity report.reported = .ok raw) :
    ∃ sample, report.sample now = some sample ∧ sample.resource = MEMORY ∧
      (∃ samples, Runs platform thread (collectKueue now) world samples world ∧
        sample ∈ samples) ∧ (sample.quantity = gib ↔ gib = 0) := by
  have recorded : report.sample now =
      some ⟨now, report.project, report.pool, report.resource, raw, .kueueLedger⟩ := by
    simp [KueueReport.sample, parseOrSkip, accepted, Except.toOption]
  refine ⟨_, recorded, ofMemory, ⟨_, collectKueue_runs platform thread now world, ?_⟩, ?_⟩
  · exact mem_filterMap.mpr ⟨report, reported, recorded⟩
  · rw [parseQuantity_eq_memGib inGib accepted]
    constructor
    · intro same
      linarith
    · rintro rfl
      norm_num

end Reports

/-- A platform whose Kueue reports a memory quantity for the queue of project `p`. -/
def reportingPlatform (memory : String) : Platform DemoClusters :=
  { demoPlatform with
    kueuePresent := fun _ => true
    observePool := fun _ _ => .ok (some ⟨1, 1, 0, [], [("p", [(MEMORY, memory)])]⟩) }

def onePoolStore : Store :=
  { Store.empty with pools := Table.empty.insert (Catalog.upsertedPool none "pool" gpuPool 0) }

theorem kueueReports_onePool {memory : String} :
    kueueReports (reportingPlatform memory) (demoWorld onePoolStore) =
      [⟨"pool", "p", MEMORY, memory⟩] := rfl

/-- No memory in use is no memory in every unit. -/
theorem kueue_memory_in_gib_of_zero :
    ∃ sample, KueueReport.sample 0 ⟨"pool", "p", MEMORY, "0Gi"⟩ = some sample ∧
      (∃ samples, Runs (reportingPlatform "0Gi") 0 (collectKueue 0)
        (demoWorld onePoolStore) samples (demoWorld onePoolStore) ∧ sample ∈ samples) ∧
      sample.quantity = 0 := by
  have inGib : memGib "0Gi" = .ok 0 := by decide +kernel
  have accepted : parseQuantity "0Gi" = .ok 0 := by decide +kernel
  have reported : (⟨"pool", "p", MEMORY, "0Gi"⟩ : KueueReport) ∈
      kueueReports (reportingPlatform "0Gi") (demoWorld onePoolStore) := by
    simp [kueueReports_onePool]
  rcases kueue_memory_in_gib_iff (reportingPlatform "0Gi") 0 0 (demoWorld onePoolStore) reported
    rfl inGib accepted with ⟨sample, recorded, _, collected, agrees⟩
  exact ⟨sample, recorded, collected, agrees.mpr rfl⟩

/-- One GiB is recorded as its number of bytes. -/
theorem kueue_gib_recorded_as_bytes :
    Runs (reportingPlatform "1Gi") 0 (collectKueue 0) (demoWorld onePoolStore)
        [⟨0, "p", "pool", MEMORY, 1073741824, .kueueLedger⟩] (demoWorld onePoolStore) ∧
      memGib "1Gi" = .ok 1 ∧ parseQuantity "1Gi" = .ok 1073741824 := by
  have ran := collectKueue_runs (reportingPlatform "1Gi") 0 0 (demoWorld onePoolStore)
  have recorded : KueueReport.sample 0 ⟨"pool", "p", MEMORY, "1Gi"⟩ =
      some ⟨0, "p", "pool", MEMORY, 1073741824, .kueueLedger⟩ := by decide +kernel
  rw [kueueReports_onePool, filterMap_cons_some recorded] at ran
  exact ⟨ran, by decide +kernel, by decide +kernel⟩

end Mobula
