import Mobula.Pool
import Mathlib.Data.List.Chain

/-!
# Names that the cluster accepts

A name is checked character by character, and at its two ends. An RFC 1123 subdomain is a
sequence of labels, each checked at its own ends. The two differ at the dots inside a name.
-/

namespace Mobula

open Foundation List Fallible

def isLabelChar (c : Char) : Bool :=
  c.isLower || c.isDigit || c = '-'

def IsLabel (label : List Char) : Prop :=
  label.all isLabelChar = true ∧ label.head?.any Char.isAlphanum = true ∧
    label.getLast?.any Char.isAlphanum = true

/-- An RFC 1123 subdomain: labels with dots between them. -/
def IsSubdomain (text : String) : Prop :=
  text.utf8ByteSize ≤ 253 ∧ ∀ label ∈ text.toList.splitOn '.', IsLabel label

/-- What is next to a dot is a letter or a digit. -/
def DotsBetween (text : List Char) : Prop :=
  text.IsChain fun c d => (c = '.' → d.isAlphanum = true) ∧ (d = '.' → c.isAlphanum = true)

instance : DecidablePred DotsBetween := fun _ => inferInstanceAs (Decidable (List.IsChain _ _))

/-- What `isK8sName` checks beside the length. -/
def Scanned (text : List Char) : Prop :=
  text.all (fun c => isLabelChar c || c = '.') = true ∧ text.head?.any Char.isAlphanum = true ∧
    text.getLast?.any Char.isAlphanum = true

variable {label text : List Char}

theorem isK8sName_iff {name : String} :
    isK8sName name = true ↔ name.utf8ByteSize ≤ 253 ∧ Scanned name.toList := by
  have filled (first : name.toList.head?.any Char.isAlphanum = true) : name.isEmpty = false := by
    by_contra empty
    simp at empty
    simp [empty] at first
  simp only [isK8sName, Scanned, isLabelChar, Bool.and_eq_true, Bool.not_eq_true',
    decide_eq_true_eq, and_assoc]
  refine ⟨fun scan => scan.2, fun scan => ⟨filled scan.2.2.1, scan⟩⟩

theorem isLabel_iff (whole : '.' ∉ label) : IsLabel label ↔ Scanned label ∧ DotsBetween label := by
  have plain : label.all (fun c => isLabelChar c || c = '.') = label.all isLabelChar := by
    rw [Bool.eq_iff_iff, all_eq_true, all_eq_true]
    refine forall₂_congr ?_
    intro c member
    simp [show c ≠ '.' from fun dot => whole (dot ▸ member)]
  have between : DotsBetween label := by
    refine (pairwise_of_forall_mem_list ?_).isChain
    intro c cMem d dMem
    exact ⟨fun dot => absurd (dot ▸ cMem) whole, fun dot => absurd (dot ▸ dMem) whole⟩
  simp [Scanned, IsLabel, plain, between]

theorem dotsBetween_append_dot (filled : label ≠ []) : DotsBetween (label ++ '.' :: text) ↔
    DotsBetween label ∧ label.getLast?.any Char.isAlphanum = true ∧
      (∀ c ∈ text.head?, c.isAlphanum = true) ∧ DotsBetween text := by
  have visible (c : Char) (alphanumeric : c.isAlphanum = true) : c ≠ '.' := by
    rintro rfl
    cases alphanumeric
  rcases label.eq_nil_or_concat with rfl | ⟨front, last, rfl⟩
  · exact absurd rfl filled
  rcases text with _ | ⟨next, text⟩ <;>
    simp [DotsBetween, isChain_append, isChain_cons_cons] <;> grind

theorem scanned_append_dot (whole : '.' ∉ label) :
    Scanned (label ++ '.' :: text) ∧ DotsBetween (label ++ '.' :: text) ↔
      IsLabel label ∧ Scanned text ∧ DotsBetween text := by
  rw [isLabel_iff whole]
  rcases label.eq_nil_or_concat with rfl | ⟨before, stop, rfl⟩
  · simp [Scanned]
  rcases text.eq_nil_or_concat with rfl | ⟨front, last, rfl⟩
  · simp [Scanned]
  have ending : ('.' :: (front ++ [last])).getLast? = some last := by simp [getLast?_cons]
  rw [dotsBetween_append_dot (by simp)]
  simp [Scanned, ending]
  tauto

theorem labels_iff : (∀ label ∈ text.splitOn '.', IsLabel label) ↔
    Scanned text ∧ DotsBetween text := by
  induction size : text.length using Nat.strongRecOn generalizing text with
  | ind _ ih =>
    have single (piece : List Char) (whole : '.' ∉ piece) :
        piece.splitOnP (· == '.') = [piece] := by
      refine splitOnP_eq_singleton ?_
      intro c member
      simpa using fun dot : c = '.' => whole (dot ▸ member)
    rw [splitOn_eq_splitOnP]
    by_cases dotted : '.' ∈ text
    · rcases eq_append_cons_of_mem dotted with ⟨label, rest, rfl, whole⟩
      have later := ih rest.length (by simp [← size]; omega) rfl
      rw [splitOnP_append_cons _ _ (by simp), single label whole, singleton_append,
        forall_mem_cons, ← splitOn_eq_splitOnP, later, scanned_append_dot whole]
    · simpa [single text dotted] using isLabel_iff dotted

theorem isSubdomain_iff {name : String} :
    IsSubdomain name ↔ isK8sName name = true ∧ DotsBetween name.toList := by
  rw [IsSubdomain, labels_iff, isK8sName_iff, and_assoc]

/-- What of a pool has to be a Kubernetes name. -/
def PoolSpec.names (spec : PoolSpec) : List String :=
  spec.name :: spec.cohort :: spec.flavors.map (·.name)

/-- What of an allocation has to be a Kubernetes name. -/
def AllocationSpec.names (allocation : AllocationSpec) : List String :=
  [allocation.pool, allocation.project, allocation.namespaceName]

theorem isK8sName_of_validateFlavors {seen flavors : List FlavorSpec}
    (valid : PoolSpec.validateFlavors seen flavors = .ok ()) :
    ∀ flavor ∈ flavors, isK8sName flavor.name = true := by
  induction flavors generalizing seen with
  | nil => simp
  | cons flavor flavors ih =>
    simp only [PoolSpec.validateFlavors, FlavorSpec.validate, bind_eq_ok,
      mapError_eq_ok, reject_eq_ok, Bool.not_eq_false'] at valid
    rcases valid with ⟨_, ⟨_, named, _⟩, _, _, rest⟩
    exact forall_mem_cons.mpr ⟨named, ih rest⟩

theorem isK8sName_of_validate {spec : PoolSpec} (valid : spec.validate = .ok ()) :
    ∀ name ∈ spec.names, isK8sName name = true := by
  simp only [PoolSpec.validate, bind_eq_ok, reject_eq_ok,
    Bool.not_eq_false'] at valid
  rcases valid with ⟨_, named, _, joined, _, _, _, _, flavors⟩
  simpa [PoolSpec.names, named, joined] using isK8sName_of_validateFlavors flavors

theorem isK8sName_of_validate_allocation {allocation : AllocationSpec}
    (valid : allocation.validate = .ok ()) : ∀ name ∈ allocation.names, isK8sName name = true := by
  simpa [AllocationSpec.validate, bind_eq_ok, AllocationSpec.names] using valid

theorem isSubdomain_iff_of_accepted {names : List String}
    (accepted : ∀ name ∈ names, isK8sName name = true) :
    (∀ name ∈ names, IsSubdomain name) ↔ ∀ name ∈ names, DotsBetween name.toList := by
  refine forall₂_congr ?_
  intro name member
  rw [isSubdomain_iff, and_iff_right (accepted name member)]

/-- The check accepts the subdomains, and so do the validators, exactly if every dot of an accepted
name stands between letters and digits. -/
theorem k8s_names_iff (name : String) (spec : PoolSpec) (allocation : AllocationSpec) :
    ((isK8sName name = true ↔ IsSubdomain name) ↔
      (isK8sName name = true → DotsBetween name.toList)) ∧
    (spec.validate = .ok () →
      ((∀ name ∈ spec.names, IsSubdomain name) ↔ ∀ name ∈ spec.names, DotsBetween name.toList)) ∧
    (allocation.validate = .ok () →
      ((∀ name ∈ allocation.names, IsSubdomain name) ↔
        ∀ name ∈ allocation.names, DotsBetween name.toList)) := by
  refine ⟨?_, ?_, ?_⟩
  · rw [isSubdomain_iff]
    tauto
  · intro valid
    exact isSubdomain_iff_of_accepted (isK8sName_of_validate valid)
  · intro valid
    exact isSubdomain_iff_of_accepted (isK8sName_of_validate_allocation valid)

def namedPool (name : String) : PoolSpec :=
  ⟨name, [⟨"cpu", [], [], []⟩], "main", 1, true, none⟩

theorem dotted_pool_named : (namedPool "a.b").validate = .ok () ∧ IsSubdomain "a.b" := by
  have valid : (namedPool "a.b").validate = .ok () := by decide +kernel
  have named := (k8s_names_iff "a.b" (namedPool "a.b") ⟨"p", "q", "r", [], [], []⟩).2.1 valid
  exact ⟨valid, named.mpr (by decide +kernel) _ mem_cons_self⟩

/-- A name with an empty label is accepted. -/
theorem empty_label_accepted : (namedPool "a..b").validate = .ok () ∧ ¬ IsSubdomain "a..b" := by
  rw [isSubdomain_iff]
  decide +kernel

end Mobula
