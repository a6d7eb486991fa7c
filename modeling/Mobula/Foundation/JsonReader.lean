import Mobula.Foundation.Json
import Mathlib.Data.List.TakeDrop

/-!
# Reading JSON text

A recursive-descent reader with a limit on how deeply arrays and objects are nested. It undoes
the writer (`parse_compress`): the compact text of a value is read back as that value, provided
its numbers are natural and it is not nested too deeply (`Readable`).
-/

namespace Foundation

open Nat List

namespace Json

variable (value : Json) (c : Char)

def isSpace : Bool :=
  c = ' ' || c = '\n' || c = '\t' || c = '\r'

variable (text : List Char)

def skipSpace : List Char :=
  text.dropWhile isSpace

def hexDigit? : Option ℕ :=
  if c.isDigit then some (c.toNat - 48)
  else if 'a' ≤ c ∧ c ≤ 'f' then some (c.toNat - 87)
  else if 'A' ≤ c ∧ c ≤ 'F' then some (c.toNat - 55)
  else none

def readHex4 : List Char → Option (ℕ × List Char)
  | a :: b :: c :: d :: rest => do
      let a ← hexDigit? a
      let b ← hexDigit? b
      let c ← hexDigit? c
      let d ← hexDigit? d
      return (((a * 16 + b) * 16 + c) * 16 + d, rest)
  | _ => none

/-- The character of a `\u` escape; a leading surrogate needs a trailing one right after it. -/
def readUnicode : Option (Char × List Char) := do
  let (high, rest) ← readHex4 text
  if 0xDC00 ≤ high ∧ high ≤ 0xDFFF then none
  else if 0xD800 ≤ high ∧ high ≤ 0xDBFF then
    match rest with
    | '\\' :: 'u' :: rest => do
        let (low, rest) ← readHex4 rest
        if 0xDC00 ≤ low ∧ low ≤ 0xDFFF then
          return (Char.ofNat ((high - 0xD800) * 0x400 + (low - 0xDC00) + 0x10000), rest)
        else none
    | _ => none
  else return (Char.ofNat high, rest)

/-- One character of a string literal; control characters must be escaped. -/
def readStringChar : List Char → Option (Char × List Char)
  | '\\' :: '"' :: rest => some ('"', rest)
  | '\\' :: '\\' :: rest => some ('\\', rest)
  | '\\' :: '/' :: rest => some ('/', rest)
  | '\\' :: 'b' :: rest => some (Char.ofNat 8, rest)
  | '\\' :: 'f' :: rest => some (Char.ofNat 12, rest)
  | '\\' :: 'n' :: rest => some (Char.ofNat 10, rest)
  | '\\' :: 'r' :: rest => some (Char.ofNat 13, rest)
  | '\\' :: 't' :: rest => some (Char.ofNat 9, rest)
  | '\\' :: 'u' :: rest => readUnicode rest
  | '\\' :: _ => none
  | c :: rest => if c.toNat < 32 then none else some (c, rest)
  | [] => none

def readStringBody : ℕ → List Char → Option (List Char × List Char)
  | 0, _ => none
  | _ + 1, [] => none
  | fuel + 1, c :: text =>
    if c = '"' then some ([], text)
    else do
      let (first, rest) ← readStringChar (c :: text)
      let (others, rest) ← readStringBody fuel rest
      return (first :: others, rest)

def readString : List Char → Option (String × List Char)
  | '"' :: text =>
    (readStringBody (text.length + 1) text).map fun read => (String.ofList read.1, read.2)
  | _ => none

def readFraction : List Char → Option (List Char × List Char)
  | '.' :: text =>
    if text.takeWhile Char.isDigit = [] then none
    else some ('.' :: text.takeWhile Char.isDigit, text.dropWhile Char.isDigit)
  | text => some ([], text)

def readExponentDigits (front text : List Char) : Option (List Char × List Char) :=
  if text.takeWhile Char.isDigit = [] then none
  else some (front ++ text.takeWhile Char.isDigit, text.dropWhile Char.isDigit)

def readExponent : List Char → Option (List Char × List Char)
  | 'e' :: '+' :: text => readExponentDigits ['e', '+'] text
  | 'e' :: '-' :: text => readExponentDigits ['e', '-'] text
  | 'e' :: text => readExponentDigits ['e'] text
  | 'E' :: '+' :: text => readExponentDigits ['E', '+'] text
  | 'E' :: '-' :: text => readExponentDigits ['E', '-'] text
  | 'E' :: text => readExponentDigits ['E'] text
  | text => some ([], text)

def splitMinus : List Char → List Char × List Char
  | '-' :: text => (['-'], text)
  | text => ([], text)

instance (digits : List Char) : Decidable (∀ c ∈ digits, isNumeralChar c = true) :=
  List.decidableBAll (isNumeralChar · = true) digits

/-- A number: no leading zeros, and digits on both sides of a point. -/
def readNumber : Option (Numeral × List Char) :=
  let (sign, unsigned) := splitMinus text
  let whole := unsigned.takeWhile Char.isDigit
  if whole = [] ∨ (whole.head? = some '0' ∧ whole ≠ ['0']) then none
  else do
    let (fraction, rest) ← readFraction (unsigned.dropWhile Char.isDigit)
    let (exponent, rest) ← readExponent rest
    let digits := sign ++ whole ++ fraction ++ exponent
    if valid : digits ≠ [] ∧ ∀ c ∈ digits, isNumeralChar c = true then
      return (⟨digits, valid.1, valid.2⟩, rest)
    else none

mutual

def readValue : ℕ → ℕ → List Char → Option (Json × List Char)
  | 0, _, _ => none
  | fuel + 1, depth, text =>
    match skipSpace text with
    | 'n' :: 'u' :: 'l' :: 'l' :: rest => some (.null, rest)
    | 't' :: 'r' :: 'u' :: 'e' :: rest => some (.bool true, rest)
    | 'f' :: 'a' :: 'l' :: 's' :: 'e' :: rest => some (.bool false, rest)
    | '"' :: rest => (readString ('"' :: rest)).map fun read => (.str read.1, read.2)
    | '[' :: rest =>
      match depth with
      | 0 => none
      | depth + 1 =>
        match skipSpace rest with
        | ']' :: rest => some (.arr [], rest)
        | rest => (readItems fuel depth rest).map fun read => (.arr read.1, read.2)
    | '{' :: rest =>
      match depth with
      | 0 => none
      | depth + 1 =>
        match skipSpace rest with
        | '}' :: rest => some (.obj [], rest)
        | rest => (readFields fuel depth rest).map fun read => (.obj read.1, read.2)
    | rest => (readNumber rest).map fun read => (.num read.1, read.2)

def readItems : ℕ → ℕ → List Char → Option (List Json × List Char)
  | 0, _, _ => none
  | fuel + 1, depth, text =>
    (readValue fuel depth text).bind fun first =>
      match skipSpace first.2 with
      | ']' :: rest => some ([first.1], rest)
      | ',' :: rest =>
        (readItems fuel depth rest).map fun others => (first.1 :: others.1, others.2)
      | _ => none

def readFields : ℕ → ℕ → List Char → Option (List (String × Json) × List Char)
  | 0, _, _ => none
  | fuel + 1, depth, text =>
    (readString (skipSpace text)).bind fun key =>
      match skipSpace key.2 with
      | ':' :: rest =>
        (readValue fuel depth rest).bind fun first =>
          match skipSpace first.2 with
          | '}' :: rest => some ([(key.1, first.1)], rest)
          | ',' :: rest =>
            (readFields fuel depth rest).map fun others =>
              ((key.1, first.1) :: others.1, others.2)
          | _ => none
      | _ => none

end

/-- How many arrays and objects may be open at once. -/
def RECURSION_LIMIT : ℕ := 127

def parse (text : String) : Option Json :=
  (readValue (2 * text.toList.length) RECURSION_LIMIT text.toList).bind fun read =>
    if skipSpace read.2 = [] then some read.1 else none

mutual

/-- Numbers are natural, and no more than `depth` arrays and objects are open at once. -/
def Readable : ℕ → Json → Prop
  | _, .null => True
  | _, .bool _ => True
  | _, .str _ => True
  | _, .num value => ∃ n, value = .ofNat n
  | 0, .arr _ => False
  | depth + 1, .arr items => ReadableItems depth items
  | 0, .obj _ => False
  | depth + 1, .obj fields => ReadableFields depth fields

def ReadableItems : ℕ → List Json → Prop
  | _, [] => True
  | depth, item :: items => Readable depth item ∧ ReadableItems depth items

def ReadableFields : ℕ → List (String × Json) → Prop
  | _, [] => True
  | depth, (_, value) :: fields => Readable depth value ∧ ReadableFields depth fields

end

variable {depth n : ℕ} {rest : List Char}

theorem readableItems_iff {items : List Json} :
    ReadableItems depth items ↔ ∀ item ∈ items, Readable depth item := by
  induction items with
  | nil => simp [ReadableItems]
  | cons item items ih => simp [ReadableItems, ih]

theorem readable_option {α : Type} {encode : α → Json} (value : Option α)
    (readable : ∀ present, Readable depth (encode present)) :
    Readable depth (option encode value) := by
  rcases value with _ | present
  · simp [option, Readable]
  · exact readable present

theorem hexDigit?_digitChar (small : n < 16) : hexDigit? n.digitChar = some n := by
  revert n
  decide

theorem readStringChar_escapeChar (rest : List Char) :
    readStringChar (escapeChar c ++ rest) = some (c, rest) := by
  have code (n : ℕ) (eq : c.toNat = n) : Char.ofNat n = c := by rw [← eq, Char.ofNat_toNat]
  unfold escapeChar
  split_ifs with isQuote isBackslash backspace tab newline formFeed carriage control
  · simp [readStringChar, isQuote]
  · simp [readStringChar, isBackslash]
  · simpa [readStringChar] using code 8 backspace
  · simpa [readStringChar] using code 9 tab
  · simpa [readStringChar] using code 10 newline
  · simpa [readStringChar] using code 12 formFeed
  · simpa [readStringChar] using code 13 carriage
  · have high := hexDigit?_digitChar (n := c.toNat / 16) (by omega)
    have low := hexDigit?_digitChar (n := c.toNat % 16) (by omega)
    have zero : hexDigit? '0' = some 0 := by decide
    have whole : c.toNat / 16 * 16 + c.toNat % 16 = c.toNat := by omega
    have small : ¬ 56320 ≤ c.toNat ∧ ¬ 55296 ≤ c.toNat := by omega
    simp [readStringChar, readUnicode, readHex4, high, low, zero, whole, small.1, small.2,
      Char.ofNat_toNat]
  · simp only [singleton_append]
    unfold readStringChar
    split <;> simp_all

theorem escapeChar_cons : ∃ first others, escapeChar c = first :: others ∧ first ≠ '"' := by
  unfold escapeChar
  split_ifs with isQuote <;> simp_all

theorem readStringBody_escape (rest : List Char) {fuel : ℕ} (enough : text.length < fuel) :
    readStringBody fuel (escape text ++ '"' :: rest) = some (text, rest) := by
  induction text generalizing fuel with
  | nil =>
    obtain ⟨fuel, rfl⟩ : ∃ less, fuel = less + 1 := ⟨fuel - 1, by omega⟩
    simp [escape, readStringBody]
  | cons c text ih =>
    obtain ⟨fuel, rfl⟩ : ∃ less, fuel = less + 1 :=
      ⟨fuel - 1, by simp at enough; omega⟩
    simp at enough
    obtain ⟨first, others, escaped, unquoted⟩ := escapeChar_cons c
    have character := readStringChar_escapeChar c (escape text ++ '"' :: rest)
    simp [escaped] at character
    rw [escape, List.flatMap_cons, List.append_assoc, ← escape, escaped, List.cons_append,
      readStringBody, if_neg unquoted, character]
    simp [ih enough]

theorem length_escape : text.length ≤ (escape text).length := by
  induction text with
  | nil => simp
  | cons c text ih =>
    obtain ⟨first, others, escaped, _⟩ := escapeChar_cons c
    simp [escape] at ih ⊢
    simp [escaped]
    omega

theorem readString_quote (text : String) (rest : List Char) :
    readString (quote text ++ rest) = some (text, rest) := by
  have enough : text.toList.length < (escape text.toList ++ '"' :: rest).length + 1 := by
    have longer := length_escape text.toList
    simp only [length_append]
    omega
  simp only [quote, cons_append, append_assoc, nil_append, readString,
    readStringBody_escape text.toList rest enough, Option.map_some, String.ofList_toList]

theorem toDigits_eq_zero (zero : (toDigits 10 n).head? = some '0') : toDigits 10 n = ['0'] := by
  induction n using Nat.strong_induction_on with
  | _ n ih =>
    rcases Nat.lt_or_ge n 10 with small | large
    · rw [toDigits_of_lt_base small] at zero ⊢
      simpa using zero
    · rw [toDigits_of_base_le (by decide) large, head?_append_of_ne_nil _ toDigits_ne_nil] at zero
      have front := ih (n / 10) (by omega) zero
      have value : n / 10 = 0 := by
        rw [← ofDigitChars_ten_toDigits (n := n / 10), front]
        rfl
      omega

theorem takeWhile_digits {digits : List Char} (valid : ∀ c ∈ digits, c.isDigit = true)
    (delimited : Delimited rest) : (digits ++ rest).takeWhile Char.isDigit = digits ∧
      (digits ++ rest).dropWhile Char.isDigit = rest := by
  have stops : rest.takeWhile Char.isDigit = [] ∧ rest.dropWhile Char.isDigit = rest := by
    rcases rest with _ | ⟨c, rest⟩
    · simp
    have other := delimited c (by simp)
    simp [isNumeralChar] at other
    simp [other.1.1.1.1.1]
  rw [takeWhile_append_of_pos valid, dropWhile_append_of_pos valid, stops.1, stops.2]
  simp

theorem readFraction_delimited (delimited : Delimited rest) :
    readFraction rest = some ([], rest) := by
  unfold readFraction
  split
  case h_1 text =>
    have other := delimited '.' (by simp)
    simp [isNumeralChar] at other
  case h_2 => rfl

theorem readExponent_delimited (delimited : Delimited rest) :
    readExponent rest = some ([], rest) := by
  rcases rest with _ | ⟨c, rest⟩
  · rfl
  have other := delimited c (by simp)
  simp [isNumeralChar] at other
  unfold readExponent
  split <;> simp_all

theorem readNumber_ofNat (n : ℕ) (delimited : Delimited rest) :
    readNumber ((Numeral.ofNat n).text ++ rest) = some (.ofNat n, rest) := by
  have digits : ∀ c ∈ toDigits 10 n, c.isDigit = true := fun c digit =>
    isDigit_of_mem_toDigits (by decide) (by decide) digit
  have unsigned : splitMinus (toDigits 10 n ++ rest) = ([], toDigits 10 n ++ rest) := by
    unfold splitMinus
    split
    case h_1 text split =>
      rcases textEq : toDigits 10 n with _ | ⟨c, cs⟩
      · exact absurd textEq toDigits_ne_nil
      · simp [textEq] at split
        have digit := digits c (by simp [textEq])
        rw [split.1] at digit
        exact absurd digit (by decide)
    case h_2 => rfl
  have whole := takeWhile_digits digits delimited
  have nonempty : ¬ (toDigits 10 n = [] ∨
      ((toDigits 10 n).head? = some '0' ∧ toDigits 10 n ≠ ['0'])) := by
    rintro (empty | ⟨zero, more⟩)
    · exact toDigits_ne_nil empty
    · exact more (toDigits_eq_zero zero)
  have valid : toDigits 10 n ≠ [] ∧ ∀ c ∈ toDigits 10 n, isNumeralChar c = true :=
    ⟨(Numeral.ofNat n).nonempty, (Numeral.ofNat n).valid⟩
  simp only [readNumber, Numeral.ofNat, unsigned, whole.1, whole.2, if_neg nonempty,
    readFraction_delimited delimited, readExponent_delimited delimited, Option.bind_eq_bind,
    Option.bind_some, nil_append, append_nil, dif_pos valid]
  rfl

theorem render_cons : ∃ first others, value.render = first :: others ∧ isSpace first = false := by
  cases value with
  | null => exact ⟨_, _, rfl, rfl⟩
  | bool value => cases value <;> exact ⟨_, _, rfl, rfl⟩
  | str value => exact ⟨_, _, rfl, rfl⟩
  | arr items => cases items <;> exact ⟨_, _, rfl, rfl⟩
  | obj fields =>
    rcases fields with _ | ⟨field, fields⟩
    · exact ⟨_, _, rfl, rfl⟩
    · rcases field with ⟨key, first⟩; exact ⟨_, _, rfl, rfl⟩
  | num value =>
    rcases textEq : value.text with _ | ⟨c, cs⟩
    · exact absurd textEq value.nonempty
    · refine ⟨c, cs, textEq, ?_⟩
      have numeral := value.valid c (by simp [textEq])
      rcases space : isSpace c with _ | _
      · rfl
      simp [isSpace] at space
      rcases space with ((rfl | rfl) | rfl) | rfl <;> exact absurd numeral (by decide)

theorem skipSpace_render (rest : List Char) :
    skipSpace (value.render ++ rest) = value.render ++ rest := by
  rcases render_cons value with ⟨first, others, text, visible⟩
  rw [text, cons_append, skipSpace, dropWhile_cons_of_neg (by simp [visible])]

theorem length_render_pos : 0 < value.render.length := by
  rcases render_cons value with ⟨first, others, text, _⟩
  simp [text]

theorem readValue_digit {c : Char} {text : List Char} (fuel depth : ℕ) (digit : c.isDigit = true) :
    readValue (fuel + 1) depth (c :: text) =
      (readNumber (c :: text)).map fun read => (.num read.1, read.2) := by
  have differs {other : Char} {rest : List Char} (letter : other.isDigit = false) :
      c :: text ≠ other :: rest := by
    intro same
    rw [(cons.inj same).1, letter] at digit
    cases digit
  have visible : skipSpace (c :: text) = c :: text := by
    refine dropWhile_cons_of_neg ?_
    intro space
    simp [isSpace] at space
    rcases space with ((rfl | rfl) | rfl) | rfl <;> exact absurd digit (by decide)
  rw [readValue, visible]
  split
  case h_1 same => exact absurd same (differs (by decide))
  case h_2 same => exact absurd same (differs (by decide))
  case h_3 same => exact absurd same (differs (by decide))
  case h_4 same => exact absurd same (differs (by decide))
  case h_5 same => exact absurd same (differs (by decide))
  case h_6 same => exact absurd same (differs (by decide))
  case h_7 => rfl

theorem readValue_ofNat (n : ℕ) (fuel depth : ℕ) (delimited : Delimited rest) :
    readValue (fuel + 1) depth ((Numeral.ofNat n).text ++ rest) = some (.num (.ofNat n), rest) := by
  have read := readNumber_ofNat n delimited
  rcases textEq : (Numeral.ofNat n).text with _ | ⟨c, cs⟩
  · exact absurd textEq (Numeral.ofNat n).nonempty
  · have digit : c.isDigit = true := by
      have charMem : c ∈ toDigits 10 n := by
        rw [show toDigits 10 n = c :: cs from textEq]
        simp
      exact isDigit_of_mem_toDigits (by decide) (by decide) charMem
    simp [textEq] at read
    rw [cons_append, readValue_digit fuel depth digit, read]
    rfl

mutual

/-- The reader consumes exactly the text of a value. -/
theorem readValue_render (value : Json) {fuel depth : ℕ} {rest : List Char}
    (readable : value.Readable depth) (enough : 2 * value.render.length ≤ fuel)
    (delimited : Delimited rest) :
    readValue fuel depth (value.render ++ rest) = some (value, rest) := by
  obtain ⟨fuel, rfl⟩ : ∃ less, fuel = less + 1 :=
    ⟨fuel - 1, by have := length_render_pos value; omega⟩
  match value with
  | .null => rfl
  | .bool true => rfl
  | .bool false => rfl
  | .str value =>
    have read := readString_quote value rest
    rw [readValue, skipSpace_render]
    simp only [render, quote, cons_append] at read ⊢
    rw [read]
    rfl
  | .num value =>
    obtain ⟨n, rfl⟩ := readable
    exact readValue_ofNat n fuel depth delimited
  | .arr [] =>
    cases depth with
    | zero => exact readable.elim
    | succ depth => rfl
  | .arr (item :: items) =>
    cases depth with
    | zero => exact readable.elim
    | succ depth =>
      simp [render] at enough
      have read : readItems fuel depth (item.render ++ (renderItems items ++ rest)) =
          some (item :: items, rest) := readItems_render item items readable (by omega)
      rw [readValue, skipSpace_render]
      simp [render]
      rw [skipSpace_render]
      split
      case h_1 same => exact absurd same (render_ne_close item)
      case h_2 => rw [read]; rfl
  | .obj [] =>
    cases depth with
    | zero => exact readable.elim
    | succ depth => rfl
  | .obj ((key, item) :: fields) =>
    cases depth with
    | zero => exact readable.elim
    | succ depth =>
      simp [render] at enough
      have read : readFields fuel depth
          (quote key ++ ':' :: (item.render ++ (renderFields fields ++ rest))) =
          some ((key, item) :: fields, rest) :=
        readFields_render key item fields readable (by omega)
      rw [readValue, skipSpace_render]
      simp [render]
      -- the first key starts with its quote
      have visible : skipSpace (quote key ++ ':' :: (item.render ++ (renderFields fields ++
          rest))) = quote key ++ ':' :: (item.render ++ (renderFields fields ++ rest)) := rfl
      rw [visible]
      split
      case h_1 same => simp [quote] at same
      case h_2 => rw [read]; rfl
termination_by fuel

theorem readItems_render (item : Json) (items : List Json) {fuel depth : ℕ} {rest : List Char}
    (readable : ReadableItems depth (item :: items))
    (enough : 2 * (item.render.length + (renderItems items).length) ≤ fuel) :
    readItems fuel depth (item.render ++ (renderItems items ++ rest)) =
      some (item :: items, rest) := by
  obtain ⟨fuel, rfl⟩ : ∃ less, fuel = less + 1 :=
    ⟨fuel - 1, by have := length_render_pos item; omega⟩
  match items with
  | [] =>
    have first : readValue fuel depth (item.render ++ (renderItems [] ++ rest)) =
        some (item, renderItems [] ++ rest) :=
      readValue_render item readable.1 (by simp [renderItems] at enough; omega) (by simp)
    rw [readItems, first]
    rfl
  | second :: items =>
    simp [renderItems] at enough
    have first : readValue fuel depth (item.render ++ (renderItems (second :: items) ++ rest)) =
        some (item, renderItems (second :: items) ++ rest) :=
      readValue_render item readable.1 (by omega) (by simp)
    have others : readItems fuel depth (second.render ++ (renderItems items ++ rest)) =
        some (second :: items, rest) := readItems_render second items readable.2 (by omega)
    rw [readItems, first]
    have comma : skipSpace (renderItems (second :: items) ++ rest) =
        ',' :: (second.render ++ (renderItems items ++ rest)) := by
      simp [renderItems, skipSpace, isSpace]
    simp [comma, others]
termination_by fuel

theorem readFields_render (key : String) (item : Json) (fields : List (String × Json))
    {fuel depth : ℕ} {rest : List Char} (readable : ReadableFields depth ((key, item) :: fields))
    (enough : 2 * (item.render.length + (renderFields fields).length) + 2 ≤ fuel) :
    readFields fuel depth (quote key ++ ':' :: (item.render ++ (renderFields fields ++ rest))) =
      some ((key, item) :: fields, rest) := by
  obtain ⟨fuel, rfl⟩ : ∃ less, fuel = less + 1 := ⟨fuel - 1, by omega⟩
  have visible (text : List Char) : skipSpace (quote key ++ text) = quote key ++ text := rfl
  have colon (text : List Char) : skipSpace (':' :: text) = ':' :: text := rfl
  have first : readValue fuel depth (item.render ++ (renderFields fields ++ rest)) =
      some (item, renderFields fields ++ rest) :=
    readValue_render item readable.1 (by omega) (by simp)
  rw [readFields, visible, readString_quote]
  simp [colon, first]
  match fields with
  | [] => rfl
  | (key', item') :: fields =>
    simp [renderFields] at enough
    have others : readFields fuel depth
        (quote key' ++ ':' :: (item'.render ++ (renderFields fields ++ rest))) =
        some ((key', item') :: fields, rest) :=
      readFields_render key' item' fields readable.2 (by omega)
    have comma : skipSpace (renderFields ((key', item') :: fields) ++ rest) =
        ',' :: (quote key' ++ ':' :: (item'.render ++ (renderFields fields ++ rest))) := by
      simp [renderFields, skipSpace, isSpace]
    simp [comma, others]
termination_by fuel

end

theorem parse_compress {value : Json} (readable : value.Readable RECURSION_LIMIT) :
    parse value.compress = some value := by
  have read : readValue (2 * value.render.length) RECURSION_LIMIT value.render =
      some (value, []) := by
    have whole := readValue_render value readable (Nat.le_refl _)
      (show Delimited [] by simp [Delimited])
    rwa [append_nil] at whole
  rw [parse, compress, String.toList_ofList, read]
  rfl

end Json

end Foundation
