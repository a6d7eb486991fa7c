import Mobula.Foundation.JsonReader

/-!
# Decoding records from JSON values

How a derived deserializer reads a value of a declared type. A record is read from an object,
where unknown fields are ignored, a repeated known field is an error and a missing one may have
a default; or from an array that lists its fields in order.
-/

namespace Foundation

namespace Json

variable {α β : Type}

def decodeBelow (bound : ℕ) (value : Json) : Option ℕ :=
  value.asU64?.filter (· < bound)

def decodeOption (decode : Json → Option α) : Json → Option (Option α)
  | .null => some none
  | value => (decode value).map some

def decodeList (decode : Json → Option α) : Json → Option (List α)
  | .arr items => items.mapM decode
  | _ => none

def decodeVariant : Json → Option String
  | .str name => some name
  | .obj [(name, .null)] => some name
  | _ => none

theorem decodeBelow_nat {bound n : ℕ} (small : n < bound) (fits : bound ≤ 2 ^ 64) :
    decodeBelow bound (.nat n) = some n := by
  rw [decodeBelow, asU64?_nat (by omega), Option.filter_some, if_pos (by simp [small])]

/-- An optional value is read back if the encoder of the value itself never writes `null`. -/
theorem decodeOption_option {encode : α → Json} {decode : Json → Option α} {value : Option α}
    (written : ∀ present ∈ value, encode present ≠ .null)
    (undone : ∀ present ∈ value, decode (encode present) = some present) :
    decodeOption decode (option encode value) = some value := by
  rcases value with _ | present
  · rfl
  have decoded := undone present rfl
  have visible := written present rfl
  rw [option]
  unfold decodeOption
  split
  case h_1 same => exact absurd same visible
  case h_2 => rw [decoded]; rfl

theorem decodeOption_str (value : Option String) :
    decodeOption asStr? (option .str value) = some value :=
  decodeOption_option (fun _ _ => by simp) (fun _ _ => rfl)

theorem decodeOption_nat {bound : ℕ} {value : Option ℕ} (small : ∀ n ∈ value, n < bound)
    (fits : bound ≤ 2 ^ 64) : decodeOption (decodeBelow bound) (option .nat value) = some value :=
  decodeOption_option (fun _ _ => by simp [nat])
    (fun n present => decodeBelow_nat (small n present) fits)

theorem decodeList_map {encode : α → Json} {decode : Json → Option α} {items : List α}
    (undone : ∀ item ∈ items, decode (encode item) = some item) :
    decodeList decode (.arr (items.map encode)) = some items := by
  rw [decodeList]
  induction items with
  | nil => rfl
  | cons item items ih =>
    simp at undone
    simp [undone.1, ih undone.2]

/-- Where the deserializer of a record finds one of its fields. -/
inductive Slot where
  | given (value : Json)
  | unnamed
  | short

namespace Slot

def required (decode : Json → Option α) : Slot → Option α
  | .given value => decode value
  | .unnamed => none
  | .short => none

def optional (decode : Json → Option α) : Slot → Option (Option α)
  | .given value => decodeOption decode value
  | .unnamed => some none
  | .short => none

def defaulted (default : α) (decode : Json → Option α) : Slot → Option α
  | .given value => decode value
  | .unnamed => some default
  | .short => some default

end Slot

def slots (names : List String) : Json → Option (String → Slot)
  | .obj fields =>
    if ((fields.map (·.1)).filter (· ∈ names)).Nodup then
      some fun name =>
        match fields.find? (·.1 = name) with
        | some field => .given field.2
        | none => .unnamed
    else none
  | .arr items =>
    if names.length < items.length then none
    else some fun name =>
      match items[names.idxOf name]? with
      | some value => .given value
      | none => .short
  | _ => none

def insertEntry (key : String) (value : α) : List (String × α) → List (String × α)
  | [] => [(key, value)]
  | entry :: entries =>
    if key < entry.1 then (key, value) :: entry :: entries
    else if key = entry.1 then (key, value) :: entries
    else entry :: insertEntry key value entries

/-- Entries in key order, no key twice. -/
def Ordered (entries : List (String × α)) : Prop :=
  entries.Pairwise fun first second => first.1 < second.1

instance (entries : List (String × α)) : Decidable (Ordered entries) :=
  inferInstanceAs (Decidable (entries.Pairwise fun first second => first.1 < second.1))

def decodeMap (decode : Json → Option α) : Json → Option (List (String × α))
  | .obj fields =>
    (fields.mapM fun field => (decode field.2).map fun value => (field.1, value)).map
      fun entries => entries.foldl (fun map entry => insertEntry entry.1 entry.2 map) []
  | _ => none

theorem insertEntry_last {key : String} {value : α} {entries : List (String × α)}
    (later : ∀ entry ∈ entries, entry.1 < key) :
    insertEntry key value entries = entries ++ [(key, value)] := by
  induction entries with
  | nil => rfl
  | cons entry entries ih =>
    rw [List.forall_mem_cons] at later
    have notBefore : ¬ key < entry.1 := String.lt_asymm later.1
    have differs : key ≠ entry.1 := fun same => String.lt_irrefl key (same ▸ later.1)
    rw [insertEntry, if_neg notBefore, if_neg differs, ih later.2, List.cons_append]

theorem foldl_insertEntry {front entries : List (String × α)}
    (ordered : Ordered (front ++ entries)) :
    entries.foldl (fun map entry => insertEntry entry.1 entry.2 map) front = front ++ entries := by
  induction entries generalizing front with
  | nil => simp
  | cons entry entries ih =>
    have later : ∀ earlier ∈ front, earlier.1 < entry.1 := by
      intro earlier earlierMem
      exact (List.pairwise_append.mp ordered).2.2 earlier earlierMem entry (by simp)
    have regrouped : front ++ entry :: entries = (front ++ [entry]) ++ entries := by simp
    rw [List.foldl_cons, insertEntry_last later, regrouped]
    rw [regrouped] at ordered
    exact ih ordered

theorem decodeMap_obj {encode : α → Json} {decode : Json → Option α} {entries : List (String × α)}
    (ordered : Ordered entries)
    (undone : ∀ entry ∈ entries, decode (encode entry.2) = some entry.2) :
    decodeMap decode (.obj (entries.map fun entry => (entry.1, encode entry.2))) =
      some entries := by
  have read : ((entries.map fun entry => (entry.1, encode entry.2)).mapM fun field =>
      (decode field.2).map fun value => (field.1, value)) = some entries := by
    clear ordered
    induction entries with
    | nil => rfl
    | cons entry entries ih =>
      rw [List.forall_mem_cons] at undone
      simp [undone.1, ih undone.2]
  have placed : entries.foldl (fun map entry => insertEntry entry.1 entry.2 map) [] = entries :=
    @foldl_insertEntry _ [] entries ordered
  simp [decodeMap, read, placed]

end Json

end Foundation
