import Mobula.Core
import Mobula.Foundation.Fallible
import Mathlib.Data.List.Nodup

/-!
# Validation of pools and allocations

The shape of pool specifications: names that the cluster accepts, at least one
flavor, no two flavors of one name. Whether a quantity can be parsed is not
checked here. Weights are rationals, so only their sign is left to check.
-/

namespace Mobula

open Foundation Fallible

inductive TaintSpecError where
  | emptyKey
  | emptyValue
  | emptyEffect
  deriving DecidableEq, Repr

inductive FlavorSpecError where
  | invalidName (name : String)
  | emptyResourceKey
  | taint (key : String) (source : TaintSpecError)
  deriving DecidableEq, Repr

inductive PoolSpecError where
  | invalidName (name : String)
  | invalidCohort (cohort : String)
  | noFlavors
  | duplicateFlavor (name : String)
  | invalidFairSharingWeight
  | flavor (flavor : String) (source : FlavorSpecError)
  deriving DecidableEq, Repr

/-- The field of an allocation that is not a name, and what it holds. -/
inductive AllocationSpecError where
  | invalidName (field name : String)
  deriving DecidableEq, Repr

def isK8sName (text : String) : Bool :=
  !text.isEmpty && text.utf8ByteSize ≤ 253 &&
    text.toList.all (fun c => c.isLower || c.isDigit || c = '-' || c = '.') &&
    text.toList.head?.any Char.isAlphanum && text.toList.getLast?.any Char.isAlphanum

def TaintSpec.validate (taint : TaintSpec) : Except TaintSpecError Unit := do
  reject taint.key.isEmpty .emptyKey
  reject taint.value.isEmpty .emptyValue
  reject taint.effect.isEmpty .emptyEffect

def FlavorSpec.validate (flavor : FlavorSpec) : Except FlavorSpecError Unit := do
  reject (!isK8sName flavor.name) (.invalidName flavor.name)
  reject (flavor.resources.any (·.1.isEmpty)) .emptyResourceKey
  flavor.taints.forM fun taint => taint.validate.mapError (.taint taint.key)

def AllocationSpec.validate (allocation : AllocationSpec) : Except AllocationSpecError Unit :=
  [("pool", allocation.pool), ("project", allocation.project),
    ("namespace", allocation.namespaceName)].forM fun (field, name) =>
      reject (!isK8sName name) (.invalidName field name)

namespace PoolSpec

def validateFlavors (seen : List FlavorSpec) : List FlavorSpec → Except PoolSpecError Unit
  | [] => .ok ()
  | flavor :: flavors => do
      flavor.validate.mapError (.flavor flavor.name)
      reject (seen.any (·.name = flavor.name)) (.duplicateFlavor flavor.name)
      validateFlavors (seen ++ [flavor]) flavors

def validate (spec : PoolSpec) : Except PoolSpecError Unit := do
  reject (!isK8sName spec.name) (.invalidName spec.name)
  reject (!isK8sName spec.cohort) (.invalidCohort spec.cohort)
  reject spec.flavors.isEmpty .noFlavors
  reject (spec.fairSharingWeight < 0) .invalidFairSharingWeight
  validateFlavors [] spec.flavors

theorem distinct_of_validateFlavors {seen flavors : List FlavorSpec}
    (valid : validateFlavors seen flavors = .ok ()) :
    (flavors.map (·.name)).Nodup ∧ ∀ flavor ∈ flavors, flavor.name ∉ seen.map (·.name) := by
  induction flavors generalizing seen with
  | nil => simp
  | cons flavor flavors ih =>
    simp only [validateFlavors, bind_eq_ok, reject_eq_ok] at valid
    rcases valid with ⟨_, _, _, fresh, rest⟩
    rcases ih rest with ⟨distinct, unseen⟩
    simp [not_or] at unseen
    refine ⟨?_, ?_⟩
    · rw [List.map_cons, List.nodup_cons]
      refine ⟨?_, distinct⟩
      rw [List.mem_map]
      rintro ⟨other, otherMem, same⟩
      exact (unseen other otherMem).2 same
    · simp
      refine ⟨?_, fun other otherMem => (unseen other otherMem).1⟩
      simpa using fresh

theorem distinct_of_validate {spec : PoolSpec} (valid : spec.validate = .ok ()) :
    (spec.flavors.map (·.name)).Nodup := by
  simp only [validate, bind_eq_ok, reject_eq_ok] at valid
  rcases valid with ⟨_, _, _, _, _, _, _, _, flavors⟩
  exact (distinct_of_validateFlavors flavors).1

end PoolSpec

end Mobula
