import Mathlib.Data.List.Sort
import Mathlib.Data.Nat.Digits.Defs

/-!
# JSON values and their compact text

Reading a rendered value back consumes exactly its own characters, whatever follows
(`Json.render_cancel`), and so compact texts are equal only for equal values
(`Json.compress_injective`).
-/

namespace Foundation

open List Nat

def isNumeralChar (c : Char) : Bool :=
  c.isDigit || c = '-' || c = '+' || c = '.' || c = 'e' || c = 'E'

structure Numeral where
  text : List Char
  nonempty : text ≠ []
  valid : ∀ c ∈ text, isNumeralChar c = true
  deriving DecidableEq

theorem Numeral.ext {first second : Numeral} (same : first.text = second.text) :
    first = second := by
  cases first
  cases second
  simpa using same

def Numeral.ofNat (n : ℕ) : Numeral where
  text := Nat.toDigits 10 n
  nonempty := Nat.toDigits_ne_nil
  valid := by
    intro c digit
    have isDigit : c.isDigit = true := Nat.isDigit_of_mem_toDigits (by decide) (by decide) digit
    simp [isNumeralChar, isDigit]

theorem Numeral.ofNat_injective {first second : ℕ}
    (same : Numeral.ofNat first = Numeral.ofNat second) : first = second := by
  have texts : toDigits 10 first = toDigits 10 second := congrArg Numeral.text same
  rw [← ofDigitChars_ten_toDigits (n := first), texts, ofDigitChars_ten_toDigits]

def Numeral.ofInt : ℤ → Numeral
  | .ofNat n => .ofNat n
  | .negSucc n =>
    ⟨'-' :: (Numeral.ofNat (n + 1)).text, by simp, by
      intro c charMem
      rcases List.mem_cons.mp charMem with rfl | digit
      · rfl
      · exact (Numeral.ofNat (n + 1)).valid c digit⟩

/-- A JSON value; object fields keep their order. -/
inductive Json where
  | null
  | bool (value : Bool)
  | num (value : Numeral)
  | str (value : String)
  | arr (items : List Json)
  | obj (fields : List (String × Json))

namespace Json

def nat (n : ℕ) : Json :=
  .num (.ofNat n)

def option {α : Type} (encode : α → Json) : Option α → Json
  | none => .null
  | some value => encode value

@[simp]
theorem nat_inj {first second : ℕ} : nat first = nat second ↔ first = second :=
  ⟨fun same => Numeral.ofNat_injective (Json.num.inj same), congrArg nat⟩

theorem option_inj {α : Type} {encode : α → Json} (visible : ∀ value, encode value ≠ .null)
    (injective : ∀ {left right : α}, encode left = encode right → left = right)
    {first second : Option α} : option encode first = option encode second ↔ first = second := by
  constructor
  · intro same
    cases first with
    | none =>
      rcases second with _ | value
      · rfl
      · exact absurd same.symm (visible value)
    | some value =>
      rcases second with _ | other
      · exact absurd same (visible value)
      · exact congrArg some (injective same)
  · exact congrArg _

@[simp]
theorem option_str_inj {first second : Option String} :
    option .str first = option .str second ↔ first = second :=
  option_inj (by simp) Json.str.inj

@[simp]
theorem option_nat_inj {first second : Option ℕ} :
    option nat first = option nat second ↔ first = second :=
  option_inj (by simp [nat]) nat_inj.mp

def object (fields : List (String × Json)) : Json :=
  .obj (fields.insertionSort fun first second => first.1 ≤ second.1)

variable (value : Json) (key : String)

def get? : Option Json :=
  match value with
  | .obj fields => (fields.find? (·.1 = key)).map (·.2)
  | _ => none

/-- Null where there is no such key. -/
def index : Json :=
  (value.get? key).getD .null

def asStr? : Json → Option String
  | .str value => some value
  | _ => none

def asArray? : Json → Option (List Json)
  | .arr items => some items
  | _ => none

def asObject? : Json → Option (List (String × Json))
  | .obj fields => some fields
  | _ => none

def asU64? : Json → Option ℕ
  | .num numeral =>
    let value := Nat.ofDigitChars 10 numeral.text 0
    if numeral.text.all Char.isDigit ∧ value < 2 ^ 64 then some value else none
  | _ => none

variable {n : ℕ} {fields : List (String × Json)} {c : Char} {rest rest' : List Char}

theorem asU64?_nat (small : n < 2 ^ 64) : (nat n).asU64? = some n := by
  have digits : (toDigits 10 n).all Char.isDigit = true := all_eq_true.mpr
    fun _ digit => isDigit_of_mem_toDigits (by decide) (by decide) digit
  simp only [nat, asU64?, Numeral.ofNat, digits, ofDigitChars_ten_toDigits, true_and, if_pos small]

def asStringMap? : Option (List (String × String)) :=
  value.asObject?.bind fun fields =>
    fields.mapM fun field => field.2.asStr?.map fun text => (field.1, text)

def setField (field : Json) : Json → Json
  | .obj fields => .object ((fields.filter (·.1 ≠ key)) ++ [(key, field)])
  | _ => .obj [(key, field)]

theorem find?_orderedInsert (field : String × Json) (fields : List (String × Json)) (key : String) :
    (fields.orderedInsert (fun first second => first.1 ≤ second.1) field).find? (·.1 = key) =
      (field :: fields).find? (·.1 = key) := by
  induction fields with
  | nil => rfl
  | cons head fields ih =>
    rw [orderedInsert]
    split
    · rfl
    · next above =>
        rw [find?_cons, ih]
        by_cases found : field.1 = key
        · have passed : head.1 ≠ key := by
            intro same
            rw [found, same] at above
            exact above (String.le_refl key)
          simp [found, passed]
        · simp [found, find?_cons]

/-- The sort is stable: a field is found where it is first written. -/
@[simp]
theorem get?_object (fields : List (String × Json)) (key : String) :
    (object fields).get? key = (fields.find? (·.1 = key)).map (·.2) := by
  have sorted : (fields.insertionSort fun first second => first.1 ≤ second.1).find? (·.1 = key) =
      fields.find? (·.1 = key) := by
    induction fields with
    | nil => rfl
    | cons field fields ih =>
      rw [insertionSort_cons, find?_orderedInsert, find?_cons, find?_cons, ih]
  rw [object, get?, sorted]

@[simp]
theorem index_object (fields : List (String × Json)) (key : String) :
    (object fields).index key = ((fields.find? (·.1 = key)).map (·.2)).getD .null := by
  rw [index, get?_object]

theorem get?_object_of_mem {key : String} {value : Json} (distinct : (fields.map (·.1)).Nodup)
    (fieldMem : (key, value) ∈ fields) : (object fields).get? key = some value := by
  rw [get?_object]
  cases found : fields.find? (·.1 = key) with
  | none => simpa using find?_eq_none.mp found (key, value) fieldMem
  | some field =>
    have fieldKey : field.1 = key := by simpa using find?_some found
    rw [inj_on_of_nodup_map distinct (mem_of_find?_eq_some found) fieldMem fieldKey]
    rfl

theorem object_injective {fields' : List (String × Json)} (same : object fields = object fields')
    (keys : fields.map (·.1) = fields'.map (·.1)) (distinct : (fields.map (·.1)).Nodup) :
    fields = fields' := by
  have lengths : fields.length = fields'.length := by simpa using congrArg length keys
  refine ext_getElem lengths ?_
  intro i inFields inFields'
  have key : (fields[i]).1 = (fields'[i]).1 := by
    simpa [getElem?_map, inFields, inFields'] using congrArg (·[i]?) keys
  have found : (object fields).get? (fields[i]).1 = some (fields[i]).2 :=
    get?_object_of_mem distinct (getElem_mem inFields)
  have found' : (object fields').get? (fields'[i]).1 = some (fields'[i]).2 :=
    get?_object_of_mem (keys ▸ distinct) (getElem_mem inFields')
  rw [same, key, found'] at found
  exact Prod.ext key (Option.some.inj found).symm

def escapeChar (c : Char) : List Char :=
  if c = '"' then ['\\', '"']
  else if c = '\\' then ['\\', '\\']
  else if c.toNat = 8 then ['\\', 'b']
  else if c.toNat = 9 then ['\\', 't']
  else if c.toNat = 10 then ['\\', 'n']
  else if c.toNat = 12 then ['\\', 'f']
  else if c.toNat = 13 then ['\\', 'r']
  else if c.toNat < 32 then
    ['\\', 'u', '0', '0', (c.toNat / 16).digitChar, (c.toNat % 16).digitChar]
  else [c]

def escape (text : List Char) : List Char :=
  text.flatMap escapeChar

def quote (text : String) : List Char :=
  '"' :: (escape text.toList ++ ['"'])

def hexValue (c : Char) : ℕ :=
  if c.isDigit then c.toNat - 48 else c.toNat - 87

def readChar : List Char → Option (Char × List Char)
  | '\\' :: 'b' :: rest => some (Char.ofNat 8, rest)
  | '\\' :: 't' :: rest => some (Char.ofNat 9, rest)
  | '\\' :: 'n' :: rest => some (Char.ofNat 10, rest)
  | '\\' :: 'f' :: rest => some (Char.ofNat 12, rest)
  | '\\' :: 'r' :: rest => some (Char.ofNat 13, rest)
  | '\\' :: 'u' :: _ :: _ :: high :: low :: rest =>
    some (Char.ofNat (16 * hexValue high + hexValue low), rest)
  | '\\' :: c :: rest => some (c, rest)
  | c :: rest => some (c, rest)
  | [] => none

theorem hexValue_digits (small : n < 32) :
    16 * hexValue (n / 16).digitChar + hexValue (n % 16).digitChar = n := by
  revert n
  decide

theorem readChar_escapeChar (c : Char) (rest : List Char) :
    readChar (escapeChar c ++ rest) = some (c, rest) := by
  have code (n : ℕ) (eq : c.toNat = n) : Char.ofNat n = c := by rw [← eq, Char.ofNat_toNat]
  unfold escapeChar
  split_ifs with isQuote isBackslash backspace tab newline formFeed carriage control
  · simp [readChar, isQuote]
  · simp [readChar, isBackslash]
  · simpa [readChar] using code 8 backspace
  · simpa [readChar] using code 9 tab
  · simpa [readChar] using code 10 newline
  · simpa [readChar] using code 12 formFeed
  · simpa [readChar] using code 13 carriage
  · simp [readChar, hexValue_digits control, Char.ofNat_toNat]
  · simp [readChar, isBackslash]

theorem escapeChar_cancel {d : Char} (same : escapeChar c ++ rest = escapeChar d ++ rest') :
    c = d ∧ rest = rest' := by
  have read := readChar_escapeChar d rest'
  rw [← same, readChar_escapeChar] at read
  simpa using read

theorem escapeChar_ne_quote : escapeChar c ++ rest ≠ '"' :: rest' := by
  unfold escapeChar
  split_ifs with isQuote <;> simp_all

theorem escape_cancel {first second : List Char}
    (same : escape first ++ '"' :: rest = escape second ++ '"' :: rest') :
    first = second ∧ rest = rest' := by
  induction first generalizing second with
  | nil =>
    rcases second with _ | ⟨d, ds⟩
    · simpa [escape] using same
    simp [escape] at same
    exact absurd same.symm escapeChar_ne_quote
  | cons c cs ih =>
    cases second with
    | nil =>
      simp [escape] at same
      exact absurd same escapeChar_ne_quote
    | cons d ds =>
      simp [escape] at same
      rcases escapeChar_cancel same with ⟨rfl, tails⟩
      rcases ih tails with ⟨rfl, rests⟩
      exact ⟨rfl, rests⟩

theorem quote_cancel {first second : String} (same : quote first ++ rest = quote second ++ rest') :
    first = second ∧ rest = rest' := by
  simp [quote] at same
  rcases escape_cancel same with ⟨texts, rests⟩
  exact ⟨String.toList_injective texts, rests⟩

mutual

def render : Json → List Char
  | .null => ['n', 'u', 'l', 'l']
  | .bool true => ['t', 'r', 'u', 'e']
  | .bool false => ['f', 'a', 'l', 's', 'e']
  | .num value => value.text
  | .str value => quote value
  | .arr [] => ['[', ']']
  | .arr (first :: rest) => '[' :: (first.render ++ renderItems rest)
  | .obj [] => ['{', '}']
  | .obj ((key, first) :: rest) => '{' :: (quote key ++ ':' :: (first.render ++ renderFields rest))

def renderItems : List Json → List Char
  | [] => [']']
  | first :: rest => ',' :: (first.render ++ renderItems rest)

def renderFields : List (String × Json) → List Char
  | [] => ['}']
  | (key, first) :: rest => ',' :: (quote key ++ ':' :: (first.render ++ renderFields rest))

end

def compress : String :=
  String.ofList value.render

/-- What may follow a value inside a larger text. -/
def Delimited (rest : List Char) : Prop :=
  ∀ c ∈ rest.head?, isNumeralChar c = false

@[simp]
theorem delimited_renderItems (items : List Json) (rest : List Char) :
    Delimited (renderItems items ++ rest) := by
  cases items <;> simp [renderItems, Delimited] <;> decide

@[simp]
theorem delimited_renderFields (fields : List (String × Json)) (rest : List Char) :
    Delimited (renderFields fields ++ rest) := by
  cases fields <;> simp [renderFields, Delimited] <;> decide

theorem numeral_cancel {first second rest rest' : List Char}
    (firstValid : ∀ c ∈ first, isNumeralChar c = true)
    (secondValid : ∀ c ∈ second, isNumeralChar c = true)
    (delimited : Delimited rest) (delimited' : Delimited rest')
    (same : first ++ rest = second ++ rest') : first = second ∧ rest = rest' := by
  induction first generalizing second with
  | nil =>
    rcases second with _ | ⟨d, ds⟩
    · exact ⟨rfl, same⟩
    have stops := delimited d (by simp [show rest = d :: (ds ++ rest') from same])
    simp [secondValid d (by simp)] at stops
  | cons c cs ih =>
    cases second with
    | nil =>
      have stops := delimited' c (by simp [show rest' = c :: (cs ++ rest) from same.symm])
      simp [firstValid c (by simp)] at stops
    | cons d ds =>
      simp at same
      rcases same with ⟨rfl, tails⟩
      rcases ih (fun c mem => firstValid c (by simp [mem]))
        (fun c mem => secondValid c (by simp [mem])) tails with ⟨rfl, rests⟩
      exact ⟨rfl, rests⟩

/-- The constructor of a value, as its text shows it. -/
def shape : Json → ℕ
  | .null => 0
  | .bool true => 1
  | .bool false => 2
  | .str _ => 3
  | .arr _ => 4
  | .obj _ => 5
  | .num _ => 6

/-- The constructor announced by the first character of a text; a bracket announces none. -/
def announced : List Char → ℕ
  | ']' :: _ => 7
  | 'n' :: _ => 0
  | 't' :: _ => 1
  | 'f' :: _ => 2
  | '"' :: _ => 3
  | '[' :: _ => 4
  | '{' :: _ => 5
  | _ => 6

theorem announced_render (rest : List Char) : announced (value.render ++ rest) = value.shape := by
  cases value with
  | null => rfl
  | bool value => cases value <;> rfl
  | str value => rfl
  | arr items => cases items <;> rfl
  | obj fields =>
    rcases fields with _ | ⟨field, fields⟩
    · rfl
    · rcases field with ⟨key, first⟩; rfl
  | num value =>
    rcases textEq : value.text with _ | ⟨c, cs⟩
    · exact absurd textEq value.nonempty
    · have numeral := value.valid c (by simp [textEq])
      simp [render, textEq, shape]
      unfold announced
      split <;> simp_all [isNumeralChar]

theorem render_ne_close {rest rest' : List Char} : value.render ++ rest ≠ ']' :: rest' := by
  intro same
  have shape_eq := announced_render value rest
  rw [same] at shape_eq
  cases value with
  | bool value => cases value <;> cases shape_eq
  | _ => cases shape_eq

theorem shape_eq_of_render {first second : Json} {rest rest' : List Char}
    (same : first.render ++ rest = second.render ++ rest') : first.shape = second.shape := by
  rw [← announced_render first rest, same, announced_render]

mutual

/-- A rendered value is recovered together with the text that follows it. -/
theorem render_cancel (first second : Json) {rest rest' : List Char}
    (delimited : Delimited rest) (delimited' : Delimited rest')
    (same : first.render ++ rest = second.render ++ rest') : first = second ∧ rest = rest' := by
  have shapes := shape_eq_of_render same
  match first, second with
  | .null, .null => simpa [render] using same
  | .bool true, .bool true => simpa [render] using same
  | .bool false, .bool false => simpa [render] using same
  | .num value, .num value' =>
    rcases numeral_cancel value.valid value'.valid delimited delimited' same with ⟨texts, rests⟩
    exact ⟨congrArg Json.num (Numeral.ext texts), rests⟩
  | .str value, .str value' =>
    rcases quote_cancel same with ⟨rfl, rests⟩
    exact ⟨rfl, rests⟩
  | .arr [], .arr [] => simpa [render] using same
  | .arr [], .arr (item :: items) =>
    simp [render] at same
    exact absurd same.symm (render_ne_close item)
  | .arr (item :: items), .arr [] =>
    simp [render] at same
    exact absurd same (render_ne_close item)
  | .arr (item :: items), .arr (item' :: items') =>
    simp [render] at same
    rcases render_cancel item item' (by simp) (by simp) same with ⟨rfl, tails⟩
    rcases renderItems_cancel items items' tails with ⟨rfl, rests⟩
    exact ⟨rfl, rests⟩
  | .obj [], .obj [] => simpa [render] using same
  | .obj [], .obj ((key, item) :: fields) => simp [render, quote] at same
  | .obj ((key, item) :: fields), .obj [] => simp [render, quote] at same
  | .obj ((key, item) :: fields), .obj ((key', item') :: fields') =>
    simp [render] at same
    rcases quote_cancel same with ⟨rfl, afterKey⟩
    rcases render_cancel item item' (by simp) (by simp) (cons.inj afterKey).2 with
      ⟨rfl, tails⟩
    rcases renderFields_cancel fields fields' tails with ⟨rfl, rests⟩
    exact ⟨rfl, rests⟩

theorem renderItems_cancel (first second : List Json) {rest rest' : List Char}
    (same : renderItems first ++ rest = renderItems second ++ rest') :
    first = second ∧ rest = rest' := by
  match first, second with
  | [], [] => simpa [renderItems] using same
  | [], _ :: _ => simp [renderItems] at same
  | _ :: _, [] => simp [renderItems] at same
  | item :: items, item' :: items' =>
    simp [renderItems] at same
    rcases render_cancel item item' (by simp) (by simp) same with ⟨rfl, tails⟩
    rcases renderItems_cancel items items' tails with ⟨rfl, rests⟩
    exact ⟨rfl, rests⟩

theorem renderFields_cancel (first second : List (String × Json)) {rest rest' : List Char}
    (same : renderFields first ++ rest = renderFields second ++ rest') :
    first = second ∧ rest = rest' := by
  match first, second with
  | [], [] => simpa [renderFields] using same
  | [], (_, _) :: _ => simp [renderFields] at same
  | (_, _) :: _, [] => simp [renderFields] at same
  | (key, item) :: fields, (key', item') :: fields' =>
    simp [renderFields] at same
    rcases quote_cancel same with ⟨rfl, afterKey⟩
    rcases render_cancel item item' (by simp) (by simp) (cons.inj afterKey).2 with
      ⟨rfl, tails⟩
    rcases renderFields_cancel fields fields' tails with ⟨rfl, rests⟩
    exact ⟨rfl, rests⟩

end

theorem compress_injective {first second : Json} (same : first.compress = second.compress) :
    first = second := by
  have texts : first.render ++ [] = second.render ++ [] := by
    simpa [compress] using congrArg String.toList same
  exact (render_cancel first second (by simp [Delimited]) (by simp [Delimited]) texts).1

end Json

end Foundation
