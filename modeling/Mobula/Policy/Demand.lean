import Mobula.Core
import Mobula.Foundation.Decimal
import Mobula.Foundation.Fallible
import Mobula.Foundation.Table
import Mathlib.Algebra.BigOperators.Group.List.Basic
import Mathlib.Algebra.Order.BigOperators.Group.List
import Mathlib.Data.Rat.Cast.Order

/-!
# Resource accounting

Amounts are exact rationals in the natural unit of their key: cores for `cpu`, GiB for `memory`,
devices for `nvidia.com/gpu`. A resource map is sparse: a missing key counts as zero when it is
read, and is not compared at all when the map is checked against a limit.
-/

namespace Mobula

open Foundation Fallible List

inductive QuantityError where
  | unparsable (what : String) (text : List Char)
  | outOfRange (what : String) (value : Float64)
  deriving DecidableEq, Repr

def finiteNonneg (value : Float64) (what : String) : Except QuantityError ℚ :=
  match value with
  | .finite amount => if 0 ≤ amount then .ok amount else .error (.outOfRange what value)
  | _ => .error (.outOfRange what value)

def parseScaled (what : String) (number text : List Char) (convert : Float64 → Float64) :
    Except QuantityError ℚ :=
  match Float64.parse number with
  | none => .error (.unparsable what text)
  | some value => finiteNonneg (convert value) what

def cpuCores (text : String) : Except QuantityError ℚ :=
  let s := trim text.toList
  match stripSuffix ['m'] s with
  | some milli => parseScaled "cpu" milli s (·.scale (1 / 1000))
  | none => parseScaled "cpu" s s id

/-- The binary and decimal suffixes of a memory quantity, in the order they are tried. -/
def memorySuffixes : List (List Char × ℚ) :=
  [(['K', 'i'], 1024), (['M', 'i'], 1024 ^ 2), (['G', 'i'], 1024 ^ 3), (['T', 'i'], 1024 ^ 4),
    (['K'], 1000), (['M'], 1000 ^ 2), (['G'], 1000 ^ 3), (['T'], 1000 ^ 4)]

def splitUnit (suffixes : List (List Char × ℚ)) (text : List Char) : List Char × ℚ :=
  match suffixes with
  | [] => (text, 1)
  | (suffix, unit) :: others =>
    match stripSuffix suffix text with
    | some number => (number, unit)
    | none => splitUnit others text

def memGib (text : String) : Except QuantityError ℚ :=
  let s := trim text.toList
  let (number, bytesPer) := splitUnit memorySuffixes s
  parseScaled "memory" (trim number) s fun value =>
    (value.scale bytesPer).scale (1 / 1024 ^ 3)

/-- A GPU count; absent and empty mean none. -/
def gpuCount : Option String → Except QuantityError ℚ
  | none => .ok 0
  | some text =>
    if text = "" then .ok 0
    else parseScaled "gpu" (trim text.toList) text.toList id

def quantitySuffixes : List (List Char × ℚ) :=
  [(['K', 'i'], 1024), (['M', 'i'], 1024 ^ 2), (['G', 'i'], 1024 ^ 3), (['T', 'i'], 1024 ^ 4),
    (['P', 'i'], 1024 ^ 5), (['E', 'i'], 1024 ^ 6), (['n'], 1 / 10 ^ 9), (['u'], 1 / 10 ^ 6),
    (['m'], 1 / 10 ^ 3), (['k'], 10 ^ 3), (['M'], 10 ^ 6), (['G'], 10 ^ 9), (['T'], 10 ^ 12),
    (['P'], 10 ^ 15), (['E'], 10 ^ 18)]

/-- A quantity of whatever its resource measures; a bare number is its own value. -/
def parseQuantity (text : String) : Except QuantityError ℚ :=
  let s := trim text.toList
  let (number, mult) := splitUnit quantitySuffixes s
  parseScaled "quantity" (trim number) s (·.scale mult)

theorem parseScaled_nonneg {what : String} {number text : List Char} {convert : Float64 → Float64}
    {amount : ℚ} (accepted : parseScaled what number text convert = .ok amount) : 0 ≤ amount := by
  unfold parseScaled finiteNonneg at accepted
  split at accepted
  · cases accepted
  · split at accepted
    · split at accepted
      · cases accepted
        assumption
      · cases accepted
    · cases accepted

theorem cpuCores_nonneg {text : String} {amount : ℚ} (accepted : cpuCores text = .ok amount) :
    0 ≤ amount := by
  unfold cpuCores at accepted
  simp only at accepted
  split at accepted <;> exact parseScaled_nonneg accepted

theorem memGib_nonneg {text : String} {amount : ℚ} (accepted : memGib text = .ok amount) :
    0 ≤ amount := by
  unfold memGib at accepted
  exact parseScaled_nonneg accepted

theorem gpuCount_nonneg {text : Option String} {amount : ℚ}
    (accepted : gpuCount text = .ok amount) : 0 ≤ amount := by
  unfold gpuCount at accepted
  split at accepted
  · cases accepted
    exact le_refl 0
  · split at accepted
    · cases accepted
      exact le_refl 0
    · exact parseScaled_nonneg accepted

abbrev ResourceMap := Table (fun entry : String × ℚ => entry.1)

namespace ResourceMap

/-- Zero for what is not listed. -/
def get (amounts : ResourceMap) (key : String) : ℚ :=
  ((amounts.find? key).map Prod.snd).getD 0

def Lists (amounts : ResourceMap) (key : String) : Prop :=
  ∃ amount, amounts.find? key = some (key, amount)

def bump (amounts : ResourceMap) (entry : String × ℚ) : ResourceMap :=
  amounts.insert (entry.1, amounts.get entry.1 + entry.2)

def add (first second : ResourceMap) : ResourceMap :=
  second.rows.foldl bump first

def scale (amounts : ResourceMap) (factor : ℚ) : ResourceMap where
  rows := amounts.rows.map fun entry => (entry.1, entry.2 * factor)
  nodup := by simpa [Function.comp_def] using amounts.nodup

/-- Every listed amount is at most the limit for its key, where a missing limit is zero. -/
def fitsWithin (amounts limit : ResourceMap) : Bool :=
  amounts.rows.all fun entry => entry.2 ≤ limit.get entry.1

def ofEntries (entries : List (String × ℚ)) : ResourceMap :=
  entries.foldl Table.insert .empty

variable {amounts first second : ResourceMap} {key : String} {entry : String × ℚ}
  {entries : List (String × ℚ)}

theorem get_of_find? (found : amounts.find? key = some entry) : amounts.get key = entry.2 := by
  simp [get, found]

theorem get_insert (amounts : ResourceMap) (entry : String × ℚ) (key : String) :
    get (amounts.insert entry) key = if key = entry.1 then entry.2 else amounts.get key := by
  unfold get
  rw [Table.find?_insert]
  by_cases same : key = entry.1 <;> simp [same]

theorem lists_insert : Lists (amounts.insert entry) key ↔ key = entry.1 ∨ amounts.Lists key := by
  unfold Lists
  rw [Table.find?_insert]
  by_cases same : key = entry.1
  · simp [same, iff_true]
    exact ⟨entry.2, rfl⟩
  · simp [same]

@[simp]
theorem get_empty (key : String) : get .empty key = 0 := rfl

@[simp]
theorem not_lists_empty (key : String) : ¬Lists .empty key := by
  simp [Lists]

theorem lists_of_mem (entryMem : entry ∈ amounts.rows) : amounts.Lists entry.1 :=
  ⟨entry.2, Table.find?_of_mem entryMem⟩

theorem get_bump (amounts : ResourceMap) (entry : String × ℚ) (key : String) :
    get (amounts.bump entry) key = amounts.get key + if entry.1 = key then entry.2 else 0 := by
  unfold bump
  rw [get_insert]
  by_cases same : key = entry.1
  · simp [same]
  · simp [same, Ne.symm same]

theorem get_foldl_bump (distinct : (entries.map Prod.fst).Nodup) (amounts : ResourceMap)
    (key : String) : get (entries.foldl bump amounts) key =
      amounts.get key + ((entries.find? fun entry => entry.1 == key).map Prod.snd).getD 0 := by
  induction entries generalizing amounts with
  | nil => simp
  | cons entry others ih =>
    simp only [map_cons, nodup_cons] at distinct
    rw [foldl_cons, ih distinct.2, get_bump]
    by_cases same : entry.1 = key
    · have absent : others.find? (fun other => other.1 == key) = none := by
        rw [find?_eq_none]
        intro other otherMem
        have differs : other.1 ≠ entry.1 := by
          intro sameKey
          apply distinct.1
          rw [← sameKey]
          exact mem_map_of_mem otherMem
        simpa [← same] using differs
      simp [same, absent]
    · simp [same]

@[simp]
theorem get_add (first second : ResourceMap) (key : String) :
    get (first.add second) key = first.get key + second.get key :=
  get_foldl_bump second.nodup first key

theorem lists_foldl_bump : Lists (entries.foldl bump amounts) key ↔
      amounts.Lists key ∨ ∃ entry ∈ entries, entry.1 = key := by
  induction entries generalizing amounts with
  | nil => simp
  | cons entry others ih =>
    rw [foldl_cons, ih, bump, lists_insert]
    simp only [exists_mem_cons_iff]
    constructor
    · rintro ((rfl | listed) | later)
      · exact .inr (.inl rfl)
      · exact .inl listed
      · exact .inr (.inr later)
    · rintro (listed | rfl | later)
      · exact .inl (.inr listed)
      · exact .inl (.inl rfl)
      · exact .inr later

theorem lists_iff_mem {amounts : ResourceMap} {key : String} :
    amounts.Lists key ↔ ∃ entry ∈ amounts.rows, entry.1 = key := by
  constructor
  · rintro ⟨amount, found⟩
    exact ⟨(key, amount), Table.mem_of_find? found, rfl⟩
  · rintro ⟨entry, entryMem, rfl⟩
    exact lists_of_mem entryMem

@[simp]
theorem lists_add : Lists (first.add second) key ↔ first.Lists key ∨ second.Lists key := by
  rw [add, lists_foldl_bump, ← @lists_iff_mem second]

theorem fitsWithin_iff {limit : ResourceMap} : amounts.fitsWithin limit = true ↔
      ∀ key, amounts.Lists key → amounts.get key ≤ limit.get key := by
  simp only [fitsWithin, all_eq_true, decide_eq_true_eq]
  constructor
  · rintro fits key ⟨amount, found⟩
    rw [get_of_find? found]
    exact fits (key, amount) (Table.mem_of_find? found)
  · intro fits entry entryMem
    have found := Table.find?_of_mem entryMem
    rw [← get_of_find? found]
    exact fits entry.1 (lists_of_mem entryMem)

@[simp]
theorem get_scale (amounts : ResourceMap) (factor : ℚ) (key : String) :
    get (amounts.scale factor) key = amounts.get key * factor := by
  have found : (amounts.scale factor).find? key =
      (amounts.find? key).map fun entry => (entry.1, entry.2 * factor) := by
    simp only [Table.find?, scale, find?_map, Function.comp_def]
  unfold get
  rw [found]
  cases amounts.find? key <;> simp

def NonNeg (amounts : ResourceMap) : Prop :=
  ∀ key, 0 ≤ amounts.get key

theorem NonNeg.add (left : first.NonNeg) (right : second.NonNeg) : (first.add second).NonNeg := by
  intro key
  rw [get_add]
  exact add_nonneg (left key) (right key)

theorem NonNeg.scale (nonneg : amounts.NonNeg) {factor : ℚ} (factorNonneg : 0 ≤ factor) :
    (amounts.scale factor).NonNeg := by
  intro key
  rw [get_scale]
  exact mul_nonneg (nonneg key) factorNonneg

theorem NonNeg.insert (nonneg : amounts.NonNeg) (entryNonneg : 0 ≤ entry.2) :
    NonNeg (amounts.insert entry) := by
  intro key
  rw [get_insert]
  split
  · exact entryNonneg
  · exact nonneg key

theorem nonNeg_empty : NonNeg .empty := by
  intro key
  exact le_refl 0

end ResourceMap

def CPU : String := "cpu"

def MEMORY : String := "memory"

def GPU : String := "nvidia.com/gpu"

inductive PolicyError where
  | quantity (error : QuantityError)
  | replicaBounds (group : String) (minReplicas maxReplicas : ℕ)
  deriving DecidableEq, Repr

def workerUnit (group : WorkerGroup) : Except PolicyError ResourceMap := do
  let cpu ← (cpuCores group.cpu).mapError .quantity
  let memory ← (memGib group.memory).mapError .quantity
  let unit := ResourceMap.ofEntries [(CPU, cpu), (MEMORY, memory)]
  let gpu ← (gpuCount group.gpu).mapError .quantity
  if 0 < gpu then return unit.insert (GPU, gpu) else return unit

def headUnit (spec : ClusterSpec) : Except PolicyError ResourceMap := do
  let cpu ← (cpuCores spec.headCpu).mapError .quantity
  let memory ← (memGib spec.headMemory).mapError .quantity
  return ResourceMap.ofEntries [(CPU, cpu), (MEMORY, memory)]

def addGroup (totals : ResourceMap × ResourceMap) (group : WorkerGroup) :
    Except PolicyError (ResourceMap × ResourceMap) :=
  if group.minReplicas > group.maxReplicas then
    .error (.replicaBounds group.name group.minReplicas group.maxReplicas)
  else do
    let unit ← workerUnit group
    return (totals.1.add (unit.scale group.minReplicas),
      totals.2.add (unit.scale group.maxReplicas))

def clusterDemand (spec : ClusterSpec) : Except PolicyError (ResourceMap × ResourceMap) := do
  let head ← headUnit spec
  spec.workerGroups.foldlM addGroup (head, head)

theorem nonNeg_pair {cpu memory : ℚ} (cpuNonneg : 0 ≤ cpu) (memoryNonneg : 0 ≤ memory) :
    ResourceMap.NonNeg (ResourceMap.ofEntries [(CPU, cpu), (MEMORY, memory)]) := by
  apply ResourceMap.NonNeg.insert
  · apply ResourceMap.NonNeg.insert
    · exact ResourceMap.nonNeg_empty
    · exact cpuNonneg
  · exact memoryNonneg

variable {spec : ClusterSpec} {unit : ResourceMap} {group : WorkerGroup}

theorem headUnit_nonNeg (computed : headUnit spec = .ok unit) : unit.NonNeg := by
  simp only [headUnit, bind_eq_ok, mapError_eq_ok] at computed
  rcases computed with ⟨cpu, cpuOk, memory, memoryOk, unitEq⟩
  cases unitEq
  exact nonNeg_pair (cpuCores_nonneg cpuOk) (memGib_nonneg memoryOk)

theorem workerUnit_nonNeg (computed : workerUnit group = .ok unit) : unit.NonNeg := by
  simp only [workerUnit, bind_eq_ok, mapError_eq_ok] at computed
  rcases computed with ⟨cpu, cpuOk, memory, memoryOk, gpu, gpuOk, unitEq⟩
  have pairNonneg := nonNeg_pair (cpuCores_nonneg cpuOk) (memGib_nonneg memoryOk)
  split at unitEq
  · cases unitEq
    exact pairNonneg.insert (gpuCount_nonneg gpuOk)
  · cases unitEq
    exact pairNonneg

theorem addGroup_nonNeg {totals totals' : ResourceMap × ResourceMap}
    (added : addGroup totals group = .ok totals') (nonneg : totals.1.NonNeg ∧ totals.2.NonNeg) :
    totals'.1.NonNeg ∧ totals'.2.NonNeg := by
  unfold addGroup at added
  split at added
  · cases added
  · rw [bind_eq_ok] at added
    rcases added with ⟨unit, unitOk, totalsEq⟩
    have unitNonneg := workerUnit_nonNeg unitOk
    cases totalsEq
    exact ⟨nonneg.1.add (unitNonneg.scale (Nat.cast_nonneg _)),
      nonneg.2.add (unitNonneg.scale (Nat.cast_nonneg _))⟩

theorem clusterDemand_nonNeg {demand : ResourceMap × ResourceMap}
    (computed : clusterDemand spec = .ok demand) : demand.1.NonNeg ∧ demand.2.NonNeg := by
  simp only [clusterDemand, bind_eq_ok] at computed
  rcases computed with ⟨head, headOk, folded⟩
  have headNonneg := headUnit_nonNeg headOk
  apply foldlM_invariant (fun totals => totals.1.NonNeg ∧ totals.2.NonNeg) folded
  · intro before group after _ added
    exact addGroup_nonNeg added
  · exact ⟨headNonneg, headNonneg⟩

def addMaxDemand (total : ResourceMap) (spec : ClusterSpec) : Except PolicyError ResourceMap := do
  let demand ← clusterDemand spec
  return total.add demand.2

def sumMaxDemand (specs : List ClusterSpec) : Except PolicyError ResourceMap :=
  specs.foldlM addMaxDemand .empty

namespace Demand

/-- The maximum demand of a cluster on one key; zero when it has none. -/
def amount (key : String) (spec : ClusterSpec) : ℚ :=
  match clusterDemand spec with
  | .ok demand => demand.2.get key
  | .error _ => 0

/-- The cluster asks for the key, possibly for amount zero. -/
def Asks (key : String) (spec : ClusterSpec) : Prop :=
  ∃ demand, clusterDemand spec = .ok demand ∧ demand.2.Lists key

def Known (spec : ClusterSpec) : Prop :=
  ∃ demand, clusterDemand spec = .ok demand

/-- The clusters together stay within a limit on every key any of them asks for. -/
structure Fits (specs : List ClusterSpec) (limit : ResourceMap) : Prop where
  known : ∀ spec ∈ specs, Known spec
  within : ∀ key, (∃ spec ∈ specs, Asks key spec) →
    (specs.map (amount key)).sum ≤ limit.get key

theorem amount_nonneg (key : String) (spec : ClusterSpec) : 0 ≤ amount key spec := by
  unfold amount
  split
  · next demand computed => exact (clusterDemand_nonNeg computed).2 key
  · exact le_refl 0

variable {total limit : ResourceMap} {specs : List ClusterSpec}

theorem addMaxDemand_eq_ok {total' : ResourceMap} : addMaxDemand total spec = .ok total' ↔
      ∃ demand, clusterDemand spec = .ok demand ∧ total' = total.add demand.2 := by
  simp only [addMaxDemand, bind_eq_ok]
  constructor
  · rintro ⟨demand, computed, totalEq⟩
    cases totalEq
    exact ⟨demand, computed, rfl⟩
  · rintro ⟨demand, computed, rfl⟩
    exact ⟨demand, computed, rfl⟩

/-- What a running sum of maximum demands amounts to on each key. -/
theorem foldlM_addMaxDemand {start : ResourceMap}
    (summed : specs.foldlM addMaxDemand start = .ok total) : (∀ spec ∈ specs, Known spec) ∧
      (∀ key, total.get key = start.get key + (specs.map (amount key)).sum) ∧
      ∀ key, total.Lists key ↔ start.Lists key ∨ ∃ spec ∈ specs, Asks key spec := by
  induction specs generalizing start with
  | nil =>
    cases summed
    simp
  | cons spec specs ih =>
    simp only [foldlM_cons, bind_eq_ok, addMaxDemand_eq_ok] at summed
    rcases summed with ⟨middle, ⟨demand, computed, rfl⟩, rest⟩
    rcases ih rest with ⟨known, amounts, lists⟩
    have amountEq (key : String) : amount key spec = demand.2.get key := by
      simp [amount, computed]
    have asksIff (key : String) : Asks key spec ↔ demand.2.Lists key := by
      simp [Asks, computed]
    refine ⟨?_, ?_, ?_⟩
    · intro other otherMem
      rcases mem_cons.mp otherMem with rfl | later
      · exact ⟨demand, computed⟩
      · exact known other later
    · intro key
      simp [amounts key, ResourceMap.get_add, amountEq, add_assoc]
    · intro key
      rw [lists key, ResourceMap.lists_add, exists_mem_cons_iff, asksIff, or_assoc]

theorem foldlM_addMaxDemand_ok (start : ResourceMap) (known : ∀ spec ∈ specs, Known spec) :
    ∃ total, specs.foldlM addMaxDemand start = .ok total := by
  induction specs generalizing start with
  | nil => exact ⟨start, rfl⟩
  | cons spec specs ih =>
    rcases known spec mem_cons_self with ⟨demand, computed⟩
    rcases ih (start.add demand.2) (fun other mem => known other (mem_cons_of_mem _ mem))
      with ⟨total, summed⟩
    refine ⟨total, ?_⟩
    rw [foldlM_cons, bind_eq_ok]
    exact ⟨_, addMaxDemand_eq_ok.mpr ⟨demand, computed, rfl⟩, summed⟩

/-- The computed sum fits a limit exactly when the clusters together do. -/
theorem sum_fits_iff : (∃ total, sumMaxDemand specs = .ok total ∧ total.fitsWithin limit = true) ↔
      Fits specs limit := by
  constructor
  · rintro ⟨total, summed, fits⟩
    rcases foldlM_addMaxDemand summed with ⟨known, amounts, lists⟩
    refine ⟨known, ?_⟩
    intro key asked
    have bounded := ResourceMap.fitsWithin_iff.mp fits key ((lists key).mpr (.inr asked))
    simpa [amounts key] using bounded
  · intro fits
    rcases foldlM_addMaxDemand_ok .empty fits.known with ⟨total, summed⟩
    rcases foldlM_addMaxDemand summed with ⟨_, amounts, lists⟩
    refine ⟨total, summed, ResourceMap.fitsWithin_iff.mpr ?_⟩
    intro key listed
    rcases (lists key).mp listed with atStart | asked
    · exact absurd atStart (ResourceMap.not_lists_empty key)
    · simpa [amounts key] using fits.within key asked

theorem Fits.of_subperm {fewer : List ClusterSpec} (subperm : fewer.Subperm specs)
    (fits : Fits specs limit) : Fits fewer limit := by
  refine ⟨fun spec mem => fits.known spec (subperm.subset mem), ?_⟩
  rintro key ⟨spec, specMem, asks⟩
  rcases subperm with ⟨between, perm, sublist⟩
  calc
    (fewer.map (amount key)).sum = (between.map (amount key)).sum :=
      ((perm.map (amount key)).sum_eq).symm
    _ ≤ (specs.map (amount key)).sum := by
      apply (sublist.map (amount key)).sum_le_sum
      intro value valueMem
      rcases mem_map.mp valueMem with ⟨other, _, rfl⟩
      exact amount_nonneg key other
    _ ≤ limit.get key :=
      fits.within key ⟨spec, sublist.subset (perm.mem_iff.mpr specMem), asks⟩

end Demand

end Mobula
