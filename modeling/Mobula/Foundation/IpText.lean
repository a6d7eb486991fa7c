import Mathlib.Algebra.Group.Nat.Defs
import Mathlib.Data.List.TakeWhile
import Mathlib.Data.List.TakeDrop
import Mathlib.Logic.Basic
import Mathlib.Tactic.Common

/-!
# IP addresses as text

The strict reading, as Rust's standard library reads an `IpAddr`: IPv4 is four decimal numbers
without superfluous zeros, IPv6 is up to eight groups of hexadecimal digits with at most one
gap, in which an IPv4 address may stand for the last two groups.
-/

namespace Foundation

inductive IpAddr where
  | v4 (a b c d : UInt8)
  | v6 (a b c d e f g h : UInt16)
  deriving DecidableEq, Repr

namespace IpAddr

abbrev Octets := ℕ × ℕ × ℕ × ℕ

def ofOctets : Octets → IpAddr
  | (a, b, c, d) => .v4 (.ofNat a) (.ofNat b) (.ofNat c) (.ofNat d)

def ofSegments : List ℕ → Option IpAddr
  | [a, b, c, d, e, f, g, h] =>
    some (.v6 (.ofNat a) (.ofNat b) (.ofNat c) (.ofNat d) (.ofNat e) (.ofNat f) (.ofNat g)
      (.ofNat h))
  | _ => none

def groupsOf : Octets → List ℕ
  | (a, b, c, d) => [a * 256 + b, c * 256 + d]

def v4Value (a b c d : UInt8) : ℕ :=
  a.toNat * 2 ^ 24 + b.toNat * 2 ^ 16 + c.toNat * 2 ^ 8 + d.toNat

/-- The address agrees with a base address in its first bits. -/
def InV4Block (base : ℕ) (bits : ℕ) : IpAddr → Prop
  | .v4 a b c d => v4Value a b c d / 2 ^ (32 - bits) = base / 2 ^ (32 - bits)
  | .v6 .. => False

/-- The first group agrees with a base in its first bits. -/
def InV6Block (base : ℕ) (bits : ℕ) : IpAddr → Prop
  | .v4 .. => False
  | .v6 a .. => a.toNat / 2 ^ (16 - bits) = base / 2 ^ (16 - bits)

instance (base bits : ℕ) : DecidablePred (InV4Block base bits) := by
  intro address
  cases address <;> unfold InV4Block <;> infer_instance

instance (base bits : ℕ) : DecidablePred (InV6Block base bits) := by
  intro address
  cases address <;> unfold InV6Block <;> infer_instance

/-- Whether an IPv6 address stands for an IPv4 address. -/
def isMapped : IpAddr → Bool
  | .v4 .. => false
  | .v6 a b c d e f _ _ => a = 0 && b = 0 && c = 0 && d = 0 && e = 0 && f = 0xffff

/-- The address that is meant: an IPv4 address that is written as an IPv6 address is meant. -/
def denoted (address : IpAddr) : IpAddr :=
  match address with
  | .v4 .. => address
  | .v6 _ _ _ _ _ _ g h =>
    if address.isMapped then
      .v4 (g >>> 8).toUInt8 g.toUInt8 (h >>> 8).toUInt8 h.toUInt8
    else address

theorem denoted_of_not_isMapped {address : IpAddr} (plain : address.isMapped = false) :
    address.denoted = address := by
  cases address with
  | v4 a b c d => rfl
  | v6 a b c d e f g h => simp [denoted, plain]

end IpAddr

def digitOf (c : Char) : Option ℕ :=
  if 48 ≤ c.toNat ∧ c.toNat ≤ 57 then some (c.toNat - 48)
  else if 97 ≤ c.toNat ∧ c.toNat ≤ 102 then some (c.toNat - 87)
  else if 65 ≤ c.toNat ∧ c.toNat ≤ 70 then some (c.toNat - 55)
  else none

def isDigitIn (radix : ℕ) (c : Char) : Bool :=
  (digitOf c).any (· < radix)

variable {c : Char} {radix : ℕ} {rest text : List Char}

theorem isDigitIn_ten_iff : isDigitIn 10 c = true ↔ 48 ≤ c.toNat ∧ c.toNat ≤ 57 := by
  unfold isDigitIn digitOf
  split
  case isTrue decimal =>
    simp
    omega
  case isFalse other =>
    split
    case isTrue lower =>
      simp
      omega
    case isFalse other' =>
      split
      case isTrue upper =>
        simp
        omega
      case isFalse letter => simp [other]

theorem code_of_digit (digit : isDigitIn radix c = true) :
    (48 ≤ c.toNat ∧ c.toNat ≤ 57) ∨ (97 ≤ c.toNat ∧ c.toNat ≤ 102) ∨
      (65 ≤ c.toNat ∧ c.toNat ≤ 70) := by
  unfold isDigitIn digitOf at digit
  split at digit
  case isTrue decimal => exact .inl decimal
  case isFalse =>
    split at digit
    case isTrue lower => exact .inr (.inl lower)
    case isFalse =>
      split at digit
      case isTrue upper => exact .inr (.inr upper)
      case isFalse => cases digit

def numeralFrom (radix value : ℕ) (digits : List Char) : ℕ :=
  digits.foldl (fun value c => value * radix + (digitOf c).getD 0) value

def numeral (radix : ℕ) (digits : List Char) : ℕ :=
  numeralFrom radix 0 digits

/-- Digits, and what follows where they end. -/
structure LeadingDigits (radix : ℕ) (digits rest : List Char) : Prop where
  nonempty : digits ≠ []
  areDigits : ∀ c ∈ digits, isDigitIn radix c = true
  ends : ∀ c, rest.head? = some c → isDigitIn radix c = false

theorem LeadingDigits.takeWhile {digits : List Char} (leading : LeadingDigits radix digits rest) :
    (digits ++ rest).takeWhile (isDigitIn radix) = digits := by
  rw [List.takeWhile_append_of_pos leading.areDigits]
  rcases rest with _ | ⟨c, rest⟩
  · simp
  · simp [leading.ends c rfl]

theorem isDigitIn_of_ten (decimal : isDigitIn 10 c = true) : isDigitIn 16 c = true := by
  unfold isDigitIn at decimal ⊢
  rcases value : digitOf c with _ | digit
  · simp [value] at decimal
  simp [value] at decimal ⊢
  omega

def readNumber (radix maxDigits limit : ℕ) (zeros : Bool) (text : List Char) :
    Option (ℕ × List Char) :=
  let digits := text.takeWhile (isDigitIn radix)
  if digits = [] ∨ maxDigits < digits.length then none
  else if zeros = false ∧ digits.head? = some '0' ∧ 1 < digits.length then none
  else if limit < numeral radix digits then none
  else some (numeral radix digits, text.dropWhile (isDigitIn radix))

theorem readNumber_eq_some {maxDigits limit value : ℕ} {zeros : Bool}
    (read : readNumber radix maxDigits limit zeros text = some (value, rest)) :
    ∃ digits, text = digits ++ rest ∧ LeadingDigits radix digits rest ∧
      digits.length ≤ maxDigits ∧ value = numeral radix digits ∧ value ≤ limit ∧
      (zeros = false → digits.head? = some '0' → digits.length = 1) := by
  simp only [readNumber] at read
  split at read
  case isTrue missing => cases read
  case isFalse counted =>
    split at read
    case isTrue padded => cases read
    case isFalse plain =>
      split at read
      case isTrue large => cases read
      case isFalse small =>
        cases read
        rw [not_or, not_lt] at counted
        refine ⟨_, List.takeWhile_append_dropWhile.symm, ⟨counted.1, ?_, ?_⟩, counted.2, rfl,
          not_lt.mp small, ?_⟩
        · intro c charMem
          exact List.mem_takeWhile_imp charMem
        · intro c first
          have stops := List.head?_dropWhile_not (isDigitIn radix) text
          rw [first] at stops
          exact stops
        · intro strict zero
          have short : ¬ 1 < (text.takeWhile (isDigitIn radix)).length :=
            fun long => plain ⟨strict, zero, long⟩
          have present := List.length_pos_iff.mpr counted.1
          omega

def readGiven (given : Char) : List Char → Option (List Char)
  | [] => none
  | c :: rest => if c = given then some rest else none

theorem readGiven_eq_some {given : Char} (read : readGiven given text = some rest) :
    text = given :: rest := by
  rcases text with _ | ⟨c, text⟩
  · cases read
  simp [readGiven] at read
  rw [read.1, read.2]

def readOctet : List Char → Option (ℕ × List Char) :=
  readNumber 10 3 255 false

def readIpv4 (text : List Char) : Option (IpAddr.Octets × List Char) := do
  let (a, text) ← readOctet text
  let text ← readGiven '.' text
  let (b, text) ← readOctet text
  let text ← readGiven '.' text
  let (c, text) ← readOctet text
  let text ← readGiven '.' text
  let (d, text) ← readOctet text
  return ((a, b, c, d), text)

theorem readIpv4_eq_some {a b c d : ℕ} (read : readIpv4 text = some ((a, b, c, d), rest)) :
    ∃ first second third, readOctet text = some (a, '.' :: first) ∧
      readOctet first = some (b, '.' :: second) ∧ readOctet second = some (c, '.' :: third) ∧
      readOctet third = some (d, rest) := by
  simp only [readIpv4, Option.bind_eq_bind, Option.bind_eq_some_iff, Prod.exists] at read
  rcases read with ⟨a', text₁, readA, text₂, dotA, b', text₃, readB, text₄, dotB, c', text₅, readC,
    text₆, dotC, d', text₇, readD, same⟩
  simp [Option.pure_def] at same
  rcases same with ⟨⟨rfl, rfl, rfl, rfl⟩, rfl⟩
  rw [readGiven_eq_some dotA] at readA
  rw [readGiven_eq_some dotB] at readB
  rw [readGiven_eq_some dotC] at readC
  exact ⟨text₂, text₄, text₆, readA, readB, readC, readD⟩

def readGroup : List Char → Option (ℕ × List Char) :=
  readNumber 16 4 65535 true

/-- What stands in one place of a list: after a colon, except in the first place. -/
def readPlace {α : Type} (first : Bool) (read : List Char → Option (α × List Char))
    (text : List Char) : Option (α × List Char) :=
  if first then read text else (readGiven ':' text).bind read

/-- An IPv4 address, where it has the room of two groups. -/
def readAddress (first : Bool) (places : ℕ) (text : List Char) :
    Option (IpAddr.Octets × List Char) :=
  if 2 ≤ places then readPlace first readIpv4 text else none

/-- As many groups as can be read, whether they end in an IPv4 address, and the rest. -/
def readGroups (first : Bool) : ℕ → List Char → List ℕ × Bool × List Char
  | 0, text => ([], false, text)
  | places + 1, text =>
    match readAddress first (places + 1) text with
    | some (octets, rest) => (IpAddr.groupsOf octets, true, rest)
    | none =>
      match readPlace first readGroup text with
      | some (group, rest) =>
        let (groups, embedded, rest) := readGroups false places rest
        (group :: groups, embedded, rest)
      | none => ([], false, text)

/-- Eight groups, some of which a double colon may stand for. -/
def readIpv6 (text : List Char) : Option (List ℕ × List Char) :=
  let (head, embedded, rest) := readGroups true 8 text
  if head.length = 8 then some (head, rest)
  else if embedded then none
  else do
    let rest ← readGiven ':' rest
    let rest ← readGiven ':' rest
    let (tail, _, rest) := readGroups true (8 - (head.length + 1)) rest
    return (head ++ List.replicate (8 - head.length - tail.length) 0 ++ tail, rest)

def IpAddr.parse (text : List Char) : Option IpAddr :=
  match readIpv4 text with
  | some (octets, rest) => if rest = [] then some (.ofOctets octets) else none
  | none =>
    match readIpv6 text with
    | some (segments, rest) => if rest = [] then IpAddr.ofSegments segments else none
    | none => none

example : IpAddr.parse "10.0.0.5".toList = some (.v4 10 0 0 5) := by decide +kernel

example : IpAddr.parse "10.0.0.05".toList = none := by decide +kernel

example : IpAddr.parse "fe80::1".toList = some (.v6 0xfe80 0 0 0 0 0 0 1) := by decide +kernel

end Foundation
