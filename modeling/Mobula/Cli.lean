import Mathlib.Algebra.Group.Nat.Defs
import Mathlib.Data.List.Basic

/-!
# The payload of a token

The command line reads the expiry of a token out of its payload, which is base64url text.
The accumulator of the decoder is shifted without a mask: bits that were emitted stay above
the pending ones until they leave the word.
-/

namespace Mobula.Base64url

open List

/-- The alphabet of RFC 4648 §5, in the order of its values. -/
def alphabet : List Char :=
  "ABCDEFGHIJKLMNOPQRSTUVWXYZabcdefghijklmnopqrstuvwxyz0123456789-_".toList

def symbol (value : ℕ) : Char :=
  alphabet.getD value '='

def padding (padded : Bool) (count : ℕ) : List Char :=
  if padded then replicate count '=' else []

/-- The encoding of RFC 4648 §5: four symbols for three bytes. -/
def encode (padded : Bool) : List UInt8 → List Char
  | a :: b :: c :: rest =>
    [a.toNat / 4, a.toNat % 4 * 16 + b.toNat / 16, b.toNat % 16 * 4 + c.toNat / 64,
      c.toNat % 64].map symbol ++ encode padded rest
  | [a, b] =>
    [a.toNat / 4, a.toNat % 4 * 16 + b.toNat / 16, b.toNat % 16 * 4].map symbol ++
      padding padded 1
  | [a] => [a.toNat / 4, a.toNat % 4 * 16].map symbol ++ padding padded 2
  | [] => []

def val (c : UInt8) : Option ℕ :=
  let code := c.toNat
  if 65 ≤ code ∧ code ≤ 90 then some (code - 65)
  else if 97 ≤ code ∧ code ≤ 122 then some (code - 97 + 26)
  else if 48 ≤ code ∧ code ≤ 57 then some (code - 48 + 52)
  else if code = 45 then some 62
  else if code = 95 then some 63
  else none

/-- The loop over the bytes of a text; the accumulator is a word of 32 bits. -/
def decodeFrom (acc bits : ℕ) : List UInt8 → Option (List UInt8)
  | [] => some []
  | c :: rest =>
    if c = 61 then some []
    else do
      let acc := (acc <<< 6) % 2 ^ 32 ||| (← val c)
      let bits := bits + 6
      if 8 ≤ bits then
        let bits := bits - 8
        let out ← decodeFrom acc bits rest
        return UInt8.ofNat (acc >>> bits) :: out
      else decodeFrom acc bits rest

def base64urlDecode (text : String) : Option (List UInt8) :=
  decodeFrom 0 0 text.toUTF8.data.toList

def asciiByte (c : Char) : UInt8 :=
  UInt8.ofNat c.toNat

variable {acc bits value : ℕ} {bytes : List UInt8}

theorem val_symbol (small : value < 64) :
    val (asciiByte (symbol value)) = some value ∧ asciiByte (symbol value) ≠ 61 ∧
      (symbol value).toNat < 128 := by
  revert value
  decide +kernel

theorem val_eq_none {c : UInt8} : val c = none ↔ c ∉ alphabet.map asciiByte := by
  have checked : ∀ code < 256, val (UInt8.ofNat code) = none ↔
      UInt8.ofNat code ∉ alphabet.map asciiByte := by decide +kernel
  simpa using checked c.toNat c.toNat_lt

/-- The new six bits come below the old ones. -/
theorem shifted_or (small : value < 64) :
    (acc <<< 6) % 2 ^ 32 ||| value = (acc * 64 + value) % 2 ^ 32 := by
  have low : (acc <<< 6) % 2 ^ 32 = (acc % 2 ^ 26) <<< 6 := by
    simp only [Nat.shiftLeft_eq]
    omega
  rw [low, ← Nat.shiftLeft_add_eq_or_of_lt (by simpa using small), Nat.shiftLeft_eq]
  omega

theorem decodeFrom_symbol (small : value < 64) :
    decodeFrom acc bits (asciiByte (symbol value) :: bytes) =
      if bits < 2 then decodeFrom ((acc * 64 + value) % 2 ^ 32) (bits + 6) bytes
      else (decodeFrom ((acc * 64 + value) % 2 ^ 32) (bits - 2) bytes).map
        (UInt8.ofNat ((acc * 64 + value) % 2 ^ 32 / 2 ^ (bits - 2)) :: ·) := by
  rcases val_symbol small with ⟨read, noPad, _⟩
  simp only [decodeFrom, if_neg noPad, read, Option.bind_eq_bind, Option.bind_some,
    shifted_or small]
  by_cases few : bits < 2
  · have short : ¬ 8 ≤ bits + 6 := by omega
    simp [few, short]
  · have enough : 8 ≤ bits + 6 := by omega
    have left : bits + 6 - 8 = bits - 2 := by omega
    rw [if_neg few, if_pos enough, left, Nat.shiftRight_eq_div_pow, Option.map_eq_bind]
    rfl

theorem decodeFrom_padding {padded : Bool} {count : ℕ} :
    decodeFrom acc bits ((padding padded count).map asciiByte) = some [] := by
  cases padded <;> cases count <;> rfl

theorem ofNat_eq_of_mod {n : ℕ} {byte : UInt8} (same : n % 256 = byte.toNat) :
    UInt8.ofNat n = byte := by
  apply UInt8.toNat_inj.mp
  simpa using same

/-- An encoded text is read back, whatever the accumulator still holds. -/
theorem decodeFrom_encode (padded : Bool) (bytes : List UInt8) (acc : ℕ) :
    decodeFrom acc 0 ((encode padded bytes).map asciiByte) = some bytes := by
  fun_induction encode padded bytes generalizing acc with
  | case1 a b c rest ih =>
    have boundA := a.toNat_lt
    have boundB := b.toNat_lt
    have boundC := c.toNat_lt
    simp (disch := omega) [decodeFrom_symbol, ih]
    exact ⟨ofNat_eq_of_mod (by omega), ofNat_eq_of_mod (by omega), ofNat_eq_of_mod (by omega)⟩
  | case2 a b =>
    have boundA := a.toNat_lt
    have boundB := b.toNat_lt
    simp (disch := omega) [decodeFrom_symbol, decodeFrom_padding]
    exact ⟨ofNat_eq_of_mod (by omega), ofNat_eq_of_mod (by omega)⟩
  | case3 a =>
    have boundA := a.toNat_lt
    simp (disch := omega) [decodeFrom_symbol, decodeFrom_padding]
    exact ofNat_eq_of_mod (by omega)
  | case4 => rfl

theorem decodeFrom_eq_none {c : UInt8} (before : c ∈ bytes.takeWhile (· ≠ 61))
    (foreign : val c = none) : decodeFrom acc bits bytes = none := by
  induction bytes generalizing acc bits with
  | nil => simp at before
  | cons first rest ih =>
    by_cases pad : first = 61
    · simp [pad] at before
    simp [pad] at before
    rcases before with rfl | later
    · simp [decodeFrom, pad, foreign]
    · simp [decodeFrom, pad, ih (by simpa using later)]

theorem toUTF8_ascii {chars : List Char} (ascii : ∀ c ∈ chars, c.toNat < 128) :
    (String.ofList chars).toUTF8.data.toList = chars.map asciiByte := by
  have byte (c : Char) (member : c ∈ chars) : String.utf8EncodeChar c = [asciiByte c] := by
    have small := ascii c member
    simp [String.utf8EncodeChar, asciiByte, Nat.le_of_lt_succ small]
  simp [String.toUTF8, utf8Encode, map_eq_flatMap, flatMap_congr byte]

theorem ascii_encode (padded : Bool) (bytes : List UInt8) :
    ∀ c ∈ encode padded bytes, c.toNat < 128 := by
  have ascii (value : ℕ) : (symbol value).toNat < 128 := by
    rcases Nat.lt_or_ge value 64 with small | large
    · exact (val_symbol small).2.2
    · have outside : alphabet[value]? = none := getElem?_eq_none large
      simp [symbol, outside]
  have pad (count : ℕ) : ∀ c ∈ padding padded count, c.toNat < 128 := by
    cases padded <;> simp [padding]
  fun_induction encode padded bytes with
  | case1 a b c rest ih => simpa [ascii, or_imp, forall_and] using ih
  | case2 a b => simpa [ascii, or_imp, forall_and] using pad 1
  | case3 a => simpa [ascii, or_imp, forall_and] using pad 2
  | case4 => simp

/-- Decoding returns what was encoded, with and without padding, and refuses foreign bytes. -/
theorem base64url_round_trip :
    (∀ padded bytes, base64urlDecode (String.ofList (encode padded bytes)) = some bytes) ∧
    ∀ text : String, (∃ byte ∈ text.toUTF8.data.toList.takeWhile (· ≠ 61),
      byte ∉ alphabet.map asciiByte) → base64urlDecode text = none := by
  refine ⟨?_, ?_⟩
  · intro padded bytes
    rw [base64urlDecode, toUTF8_ascii (ascii_encode padded bytes)]
    exact decodeFrom_encode padded bytes 0
  · rintro text ⟨byte, before, foreign⟩
    exact decodeFrom_eq_none before (val_eq_none.mpr foreign)

theorem standard_alphabet_refused : base64urlDecode "Zm9v+A==" = none :=
  base64url_round_trip.2 _ ⟨43, by decide +kernel, by decide +kernel⟩

end Mobula.Base64url
