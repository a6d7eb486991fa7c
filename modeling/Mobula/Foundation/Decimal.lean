import Mathlib.Algebra.Group.Nat.Defs
import Mathlib.Data.List.Basic
import Mathlib.Data.List.TakeDrop
import Mathlib.Data.List.TakeWhile
import Mathlib.Data.Rat.Defs
import Mathlib.Algebra.Order.Ring.Unbundled.Rat

/-!
# Decimal floating-point literals

The texts that a standard library accepts as a binary64 literal, and their values. Finite values
are exact rationals: rounding to the nearest binary64 is idealised away, overflow to infinity is
not.
-/

namespace Foundation

open List

def isWhitespace (c : Char) : Bool :=
  let code := c.toNat
  (9 ≤ code && code ≤ 13) || code = 32 || code = 133 || code = 160 || code = 5760 ||
    (8192 ≤ code && code ≤ 8202) || code = 8232 || code = 8233 || code = 8239 ||
    code = 8287 || code = 12288

def trimStart (text : List Char) : List Char :=
  text.dropWhile isWhitespace

def trim (text : List Char) : List Char :=
  (trimStart (trimStart text).reverse).reverse

def stripSuffix (suffix text : List Char) : Option (List Char) :=
  if suffix.isSuffixOf text then some (text.take (text.length - suffix.length)) else none

theorem getLast?_append_eq_some {front back : List Char} {c : Char}
    (last : (front ++ back).getLast? = some c) :
    back.getLast? = some c ∨ back = [] ∧ front.getLast? = some c := by
  rcases back with _ | ⟨first, rest⟩
  · exact .inr ⟨rfl, by simpa using last⟩
  rw [getLast?_append_of_ne_nil _ (by simp)] at last
  exact .inl last

theorem getLast?_trim {text : List Char} {c : Char} (last : text.getLast? = some c)
    (visible : isWhitespace c = false) : (trim text).getLast? = some c := by
  have kept : (trimStart text).getLast? = some c := by
    have split : text = text.takeWhile isWhitespace ++ trimStart text :=
      takeWhile_append_dropWhile.symm
    rw [split] at last
    rcases getLast?_append_eq_some last with inRest | ⟨_, blank⟩
    · exact inRest
    · have white := mem_takeWhile_imp (mem_of_getLast? blank)
      rw [visible] at white
      cases white
  rw [getLast?_eq_some_iff] at kept
  rcases kept with ⟨front, split⟩
  simp [trim, split]
  simp [trimStart, visible]

/-- A binary64 value without rounding. -/
inductive Float64 where
  | finite (value : ℚ)
  | infinite (negative : Bool)
  | nan
  deriving DecidableEq, Repr

namespace Float64

def overflow : ℚ :=
  2 ^ 1024 - 2 ^ 970

def ofRat (value : ℚ) : Float64 :=
  if overflow ≤ value then .infinite false
  else if value ≤ -overflow then .infinite true
  else .finite value

def scale (factor : ℚ) : Float64 → Float64
  | .finite value => ofRat (value * factor)
  | .infinite negative => .infinite negative
  | .nan => .nan

def ofParts (negative : Bool) (digits : List Char) (fraction : ℕ) (exponent : ℤ) : Float64 :=
  let magnitude : ℚ := Nat.ofDigitChars 10 digits 0
  let shifted : ℚ := magnitude * 10 ^ exponent.toNat / 10 ^ (-exponent).toNat / 10 ^ fraction
  ofRat (if negative then -shifted else shifted)

def splitSign : List Char → Bool × List Char
  | '-' :: rest => (true, rest)
  | '+' :: rest => (false, rest)
  | rest => (false, rest)

def parseExponent : List Char → Option ℤ
  | [] => some 0
  | marker :: rest =>
    if marker = 'e' ∨ marker = 'E' then
      let (negative, digits) := splitSign rest
      if digits ≠ [] ∧ digits.all Char.isDigit then
        let magnitude : ℤ := Nat.ofDigitChars 10 digits 0
        some (if negative then -magnitude else magnitude)
      else none
    else none

def parseNumber (negative : Bool) (text : List Char) : Option Float64 :=
  let (whole, rest) := text.span Char.isDigit
  let (fraction, rest) :=
    match rest with
    | '.' :: rest => rest.span Char.isDigit
    | rest => ([], rest)
  if whole ++ fraction = [] then none
  else (parseExponent rest).map (ofParts negative (whole ++ fraction) fraction.length)

def parse (text : List Char) : Option Float64 :=
  let (negative, rest) := splitSign text
  let lower := rest.map Char.toLower
  if lower = ['i', 'n', 'f'] ∨ lower = ['i', 'n', 'f', 'i', 'n', 'i', 't', 'y'] then
    some (.infinite negative)
  else if lower = ['n', 'a', 'n'] then some .nan
  else parseNumber negative rest

example : parse ['1', '.', '5', 'e', '1'] = some (.finite 15) := by decide +kernel

example : parse ['.'] = none := by decide +kernel

theorem splitSign_eq_append (text : List Char) : ∃ sign, text = sign ++ (splitSign text).2 := by
  unfold splitSign
  split
  · exact ⟨['-'], rfl⟩
  · exact ⟨['+'], rfl⟩
  · exact ⟨[], rfl⟩

theorem parseExponent_last {text : List Char} {exponent : ℤ} {c : Char}
    (parsed : parseExponent text = some exponent) (last : text.getLast? = some c) :
    c.isDigit = true := by
  rcases text with _ | ⟨marker, rest⟩
  · simp at last
  simp only [parseExponent] at parsed
  split at parsed
  case isTrue marked =>
    split at parsed
    case isTrue numeric =>
      rcases splitSign_eq_append rest with ⟨sign, split⟩
      rw [split, ← cons_append, getLast?_append_of_ne_nil _ numeric.1] at last
      exact all_eq_true.mp numeric.2 c (mem_of_getLast? last)
    case isFalse bad => cases parsed
  case isFalse unmarked => cases parsed

theorem parseNumber_last {negative : Bool} {text : List Char} {value : Float64} {c : Char}
    (parsed : parseNumber negative text = some value) (last : text.getLast? = some c) :
    c.isDigit = true ∨ c = '.' := by
  have digits (part : List Char) (inDigits : (part.takeWhile Char.isDigit).getLast? = some c) :
      c.isDigit = true ∨ c = '.' :=
    .inl (mem_takeWhile_imp (mem_of_getLast? inDigits))
  rw [← takeWhile_append_dropWhile (p := Char.isDigit) (l := text)] at last
  simp only [parseNumber, span_eq_takeWhile_dropWhile] at parsed
  rcases getLast?_append_eq_some last with inRest | ⟨_, inWhole⟩
  · generalize text.dropWhile Char.isDigit = rest at parsed inRest
    split at parsed
    case h_1 after =>
      simp [ite_eq_iff] at parsed
      rcases parsed with ⟨_, exponent, powered, _⟩
      rw [← takeWhile_append_dropWhile (p := Char.isDigit) (l := after), ← cons_append] at inRest
      rcases getLast?_append_eq_some inRest with inExponent | ⟨_, inFraction⟩
      · exact .inl (parseExponent_last powered inExponent)
      · rw [← singleton_append] at inFraction
        rcases getLast?_append_eq_some inFraction with fractional | ⟨_, point⟩
        · exact digits after fractional
        · exact .inr (Option.some.inj point).symm
    case h_2 =>
      simp [ite_eq_iff] at parsed
      rcases parsed with ⟨_, exponent, powered, _⟩
      exact .inl (parseExponent_last powered inRest)
  · exact digits text inWhole

/-- The literal of a finite value ends with a digit or with its decimal point. -/
theorem parse_finite_last {text : List Char} {value : ℚ} {c : Char}
    (parsed : parse text = some (.finite value)) (last : text.getLast? = some c) :
    c.isDigit = true ∨ c = '.' := by
  simp only [parse] at parsed
  split at parsed
  case isTrue infinity => cases parsed
  case isFalse number =>
    split at parsed
    case isTrue notANumber => cases parsed
    case isFalse numeral =>
      rcases splitSign_eq_append text with ⟨sign, split⟩
      rw [split] at last
      rcases getLast?_append_eq_some last with inNumber | ⟨empty, _⟩
      · exact parseNumber_last parsed inNumber
      · rw [empty] at parsed
        cases parsed

end Float64

end Foundation
