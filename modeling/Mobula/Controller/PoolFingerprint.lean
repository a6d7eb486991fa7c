import Mobula.Controller.PoolTruth
import Mathlib.Tactic.Linarith

/-!
# The text of a pool's desired state

The outbox compares desired states by their text. The text does not depend on the order
in which the store lists the allocations, and it tells different desired states apart.
It also tells two zeros apart that are equal as weights: a spec of weight `-0.0` is the
spec of weight `0.0` to the store, and another one to the outbox.
-/

namespace Mobula

open Foundation List

/-- The entries of an ordered map. -/
abbrev Ordered (entries : List (String × String)) : Prop :=
  Log.Ascending Prod.fst entries

def FlavorSpec.Ordered (flavor : FlavorSpec) : Prop :=
  Mobula.Ordered flavor.resources ∧ Mobula.Ordered flavor.nodeLabels

def AllocationSpec.Ordered (allocation : AllocationSpec) : Prop :=
  Mobula.Ordered allocation.nominal ∧ Mobula.Ordered allocation.borrowingLimit ∧
    Mobula.Ordered allocation.lendingLimit

/-- A finite binary64 number, which is a sign and a magnitude also where it is zero. -/
structure Weight where
  negative : Bool
  magnitude : ℚ
  nonneg : 0 ≤ magnitude

namespace Weight

/-- The number as it is compared: the sign of a zero makes no difference. -/
def value (weight : Weight) : ℚ :=
  if weight.negative then -weight.magnitude else weight.magnitude

theorem eq_or_zero {first second : Weight} (same : first.value = second.value) :
    first = second ∨
      first.magnitude = 0 ∧ second.magnitude = 0 ∧ first.negative ≠ second.negative := by
  rcases first with ⟨negative, magnitude, nonneg⟩
  rcases second with ⟨negative', magnitude', nonneg'⟩
  cases negative <;> cases negative' <;> simp [value] at same ⊢
  · exact same
  · constructor <;> linarith
  · constructor <;> linarith
  · exact same

/-- The number as it is written when it is whole and below 10¹⁶. -/
def wholeText (weight : Weight) : Numeral where
  text := (if weight.negative then ['-'] else []) ++
    (Numeral.ofNat weight.magnitude.num.toNat).text ++ ['.', '0']
  nonempty := by simp
  valid := by
    intro c charMem
    rw [mem_append, mem_append] at charMem
    rcases charMem with (sign | digit) | fraction
    · cases negative : weight.negative <;> simp [negative, isNumeralChar] at sign ⊢
      simp [sign]
    · exact (Numeral.ofNat _).valid c digit
    · rcases (by simpa using fraction : c = '.' ∨ c = '0') with rfl | rfl <;> rfl

end Weight

/-- A pool's desired state. Its weight is stored as a number and compared by value. -/
structure FingerprintedPool where
  spec : PoolSpec
  weight : Weight
  allocations : List AllocationSpec
  valued : spec.fairSharingWeight = weight.value
  flavorsOrdered : ∀ flavor ∈ spec.flavors, flavor.Ordered
  allocationsOrdered : ∀ allocation ∈ allocations, allocation.Ordered
  distinct : (allocations.map (·.project)).Nodup

theorem stringMap_inj {first second : List (String × String)} (ordered : Ordered first)
    (ordered' : Ordered second) : stringMap first = stringMap second ↔ first = second := by
  have kept (entries : List (String × String)) (ordered : Ordered entries) :
      stringMap entries = .obj (entries.map fun entry => (entry.1, .str entry.2)) := by
    have sorted : (entries.map fun entry => (entry.1, Json.str entry.2)).Pairwise
        fun first second => first.1 ≤ second.1 := by
      rw [pairwise_map]
      exact ordered.imp fun below => below.le
    rw [stringMap, Json.object, Pairwise.insertionSort_eq sorted]
  have entries : Function.Injective fun entry : String × String => (entry.1, Json.str entry.2) := by
    rintro ⟨key, value⟩ ⟨key', value'⟩ same
    simpa using same
  rw [kept _ ordered, kept _ ordered', Json.obj.injEq, (map_injective_iff.mpr entries).eq_iff]

theorem TaintSpec.toJson_injective : Function.Injective TaintSpec.toJson := by
  rintro ⟨_, _, _⟩ ⟨_, _, _⟩ same
  simpa [TaintSpec.toJson] using Json.object_injective same rfl (by simp)

theorem FlavorSpec.toJson_inj {first second : FlavorSpec} (ordered : first.Ordered)
    (ordered' : second.Ordered) (same : first.toJson = second.toJson) : first = second := by
  have fields := Json.object_injective same rfl (by simp)
  cases first
  cases second
  simpa [Json.arr.injEq, stringMap_inj ordered.1 ordered'.1, stringMap_inj ordered.2 ordered'.2,
    (map_injective_iff.mpr TaintSpec.toJson_injective).eq_iff] using fields

theorem AllocationSpec.toJson_inj {first second : AllocationSpec} (ordered : first.Ordered)
    (ordered' : second.Ordered) (same : first.toJson = second.toJson) : first = second := by
  have fields := Json.object_injective same rfl (by simp)
  cases first
  cases second
  simpa [stringMap_inj ordered.1 ordered'.1, stringMap_inj ordered.2.1 ordered'.2.1,
    stringMap_inj ordered.2.2 ordered'.2.2] using fields

theorem eq_of_map_eq {α β : Type} {encode : α → β} {first second : List α}
    (injective : ∀ left ∈ first, ∀ right ∈ second, encode left = encode right → left = right)
    (same : first.map encode = second.map encode) : first = second := by
  induction first generalizing second with
  | nil => simpa [eq_comm] using same
  | cons left first ih =>
    rcases second with _ | ⟨right, second⟩
    · simp at same
    simp only [map_cons, cons.injEq] at same
    simp only [forall_mem_cons] at injective
    rw [injective.1.1 same.1, ih (fun left member => (injective.2 left member).2) same.2]

theorem PoolSpec.toJson_inj {first second : PoolSpec} {weight weight' : Numeral}
    (ordered : ∀ flavor ∈ first.flavors, flavor.Ordered)
    (ordered' : ∀ flavor ∈ second.flavors, flavor.Ordered)
    (same : first.toJson (fun _ => weight) = second.toJson (fun _ => weight')) :
    weight = weight' ∧
      (first.fairSharingWeight = second.fairSharingWeight → first = second) := by
  have field (key : String) := congrArg (Json.get? · key) same
  have name := field "name"
  have flavors := field "flavors"
  have cohort := field "cohort"
  have sameWeight := field "fair_sharing_weight"
  have elastic := field "elastic"
  have sharing := field "gpu_sharing"
  rcases first with ⟨_, _, _, _, _, mode⟩
  rcases second with ⟨_, _, _, _, _, mode'⟩
  simp [PoolSpec.toJson] at name flavors cohort sameWeight elastic sharing
  have sameFlavors := eq_of_map_eq (fun left leftMem right rightMem =>
    FlavorSpec.toJson_inj (ordered left leftMem) (ordered' right rightMem)) flavors
  have sameMode : mode = mode' := by
    rcases mode with _ | _ | _ | _ <;> rcases mode' with _ | _ | _ | _ <;>
      simp [GpuSharing.asStr] at sharing ⊢
  simp [name, cohort, sameWeight, elastic, sameMode]
  exact fun valued => ⟨sameFlavors, valued⟩

namespace FingerprintedPool

def fingerprint (text : Weight → Numeral) (state : FingerprintedPool) : String :=
  desiredFingerprint (fun _ => text state.weight) state.spec state.allocations

/-- Two desired states with equal specs and equal sets of allocations. -/
def Same (state other : FingerprintedPool) : Prop :=
  state.spec = other.spec ∧
    ∀ allocation, allocation ∈ state.allocations ↔ allocation ∈ other.allocations

/-- One weight is a zero, and the other one is the zero of the other sign. -/
def OppositeZeros (state other : FingerprintedPool) : Prop :=
  state.weight.magnitude = 0 ∧ other.weight.magnitude = 0 ∧
    state.weight.negative ≠ other.weight.negative

variable (text : Weight → Numeral) (state other : FingerprintedPool)

theorem fingerprint_eq_iff
    (exact : text state.weight = text other.weight → state.weight = other.weight) :
    state.fingerprint text = other.fingerprint text ↔
      state.weight = other.weight ∧ state.Same other := by
  constructor
  · intro same
    have fields := Json.object_injective (Json.compress_injective same) rfl (by simp)
    simp at fields
    rcases PoolSpec.toJson_inj state.flavorsOrdered other.flavorsOrdered fields.1 with
      ⟨weight, spec⟩
    have sameWeight := exact weight
    have sorted := eq_of_map_eq (fun left leftMem right rightMem => AllocationSpec.toJson_inj
      (state.allocationsOrdered left (by simpa using leftMem))
      (other.allocationsOrdered right (by simpa using rightMem))) fields.2
    refine ⟨sameWeight, spec ?_, ?_⟩
    · rw [state.valued, other.valued, sameWeight]
    · intro allocation
      have members := congrArg (allocation ∈ ·) sorted
      simpa using members
  · rintro ⟨weight, spec, members⟩
    have permuted := (perm_ext_iff_of_nodup state.distinct.of_map other.distinct.of_map).mpr members
    rw [fingerprint, fingerprint, spec, weight, desiredFingerprint_perm state.distinct permuted]

/--
The text of a desired state does not depend on the order of its allocations. It is the
text of another state exactly when the states are the same, unless two states that are
the same have the zeros of different signs as their weights.
-/
theorem fingerprint_canonical_iff
    (exact : text state.weight = text other.weight → state.weight = other.weight) :
    (∀ listed, state.allocations.Perm listed →
      desiredFingerprint (fun _ => text state.weight) state.spec listed =
        state.fingerprint text) ∧
    ((state.fingerprint text = other.fingerprint text ↔ state.Same other) ↔
      ¬(state.Same other ∧ state.OppositeZeros other)) := by
  refine ⟨fun listed permuted => (desiredFingerprint_perm state.distinct permuted).symm, ?_⟩
  rw [fingerprint_eq_iff text state other exact]
  constructor
  · rintro agrees ⟨same, _, _, signs⟩
    exact signs (congrArg Weight.negative (agrees.mpr same).1)
  · intro alike
    refine ⟨fun equal => equal.2, fun same => ⟨?_, same⟩⟩
    have values : state.weight.value = other.weight.value := by
      rw [← state.valued, ← other.valued, same.1]
    rcases Weight.eq_or_zero values with equal | zeros
    · exact equal
    · exact absurd ⟨same, zeros⟩ alike

/-- A pool of one tainted flavor, with an allocation of GPUs to each of some projects. -/
def gpuPool (weight : Weight) (shares : List (String × String))
    (distinct : (shares.map (·.1)).Nodup) : FingerprintedPool where
  spec := ⟨"gpu", [⟨"a100", [("nvidia.com/gpu", "8")], [("tier", "gpu")],
    [⟨"gpu", "true", "NoSchedule"⟩]⟩], "main", weight.value, true, some .wholeGpu⟩
  weight := weight
  allocations := shares.map fun share =>
    ⟨"gpu", share.1, share.1, [("nvidia.com/gpu", share.2)], [], []⟩
  valued := rfl
  flavorsOrdered := by simp [FlavorSpec.Ordered, Ordered, Log.Ascending]
  allocationsOrdered := by
    rw [forall_mem_map]
    simp [AllocationSpec.Ordered, Ordered, Log.Ascending]
  distinct := by simpa [Function.comp_def] using distinct

def onePointZero : Weight := ⟨false, 1, by decide⟩

/-- Two shares in two orders have one text, and a share of another size has another. -/
theorem fingerprint_canonical_for_two_shares :
    let listed := gpuPool onePointZero [("p", "2"), ("q", "4")] (by decide)
    let relisted := gpuPool onePointZero [("q", "4"), ("p", "2")] (by decide)
    let resized := gpuPool onePointZero [("q", "4"), ("p", "3")] (by decide)
    listed.fingerprint Weight.wholeText = relisted.fingerprint Weight.wholeText ∧
      listed.fingerprint Weight.wholeText ≠ resized.fingerprint Weight.wholeText := by
  intro listed relisted resized
  have alike (other : FingerprintedPool) : ¬(listed.Same other ∧ listed.OppositeZeros other) := by
    rintro ⟨_, zero, _⟩
    exact absurd zero (by decide)
  have reordered := fingerprint_canonical_iff Weight.wholeText listed relisted fun _ => rfl
  have changed := fingerprint_canonical_iff Weight.wholeText listed resized fun _ => rfl
  constructor
  · refine (reordered.2.mpr (alike relisted)).mpr ⟨rfl, fun allocation => ?_⟩
    simp [listed, relisted, gpuPool, or_comm]
  · intro same
    have members := ((changed.2.mpr (alike resized)).mp same).2
      ⟨"gpu", "p", "p", [("nvidia.com/gpu", "3")], [], []⟩
    simp [listed, resized, gpuPool] at members

def zeroPool (negative : Bool) : FingerprintedPool :=
  gpuPool ⟨negative, 0, le_rfl⟩ [("p", "2")] (by decide)

/-- The zeros of both signs are valid weights of equal specs, with different texts. -/
theorem opposite_zeros_told_apart :
    (zeroPool false).spec.validate = .ok () ∧ (zeroPool false).Same (zeroPool true) ∧
      (zeroPool false).fingerprint Weight.wholeText ≠
        (zeroPool true).fingerprint Weight.wholeText := by
  have texts : (zeroPool false).weight.wholeText ≠ (zeroPool true).weight.wholeText := by
    decide +kernel
  refine ⟨by decide +kernel, ⟨?_, fun _ => Iff.rfl⟩, ?_⟩
  · simp [zeroPool, gpuPool, Weight.value]
  · intro same
    have weights := ((fingerprint_eq_iff _ _ _ fun equal => absurd equal texts).mp same).1
    exact absurd (congrArg Weight.negative weights) (by decide)

end FingerprintedPool

end Mobula
