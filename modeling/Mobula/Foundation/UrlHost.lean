import Mobula.Foundation.IpText
import Mathlib.Data.List.DropRight

/-!
# The host of an HTTP URL

How a client that follows the WHATWG URL standard finds the host of a URL, and how it reads the
host: as an IPv6 address in brackets, as an IPv4 address in any of the old notations, or as a
domain. The mapping of international domain names is a parameter.
-/

namespace Foundation

def readPiece : Option ℕ → List Char → Option (Option ℕ × List Char)
  | piece, [] => some (piece, [])
  | piece, c :: rest =>
    if isDigitIn 10 c then
      match piece with
      | none => readPiece (some ((digitOf c).getD 0)) rest
      | some value =>
        if value = 0 then none
        else if 255 < value * 10 + (digitOf c).getD 0 then none
        else readPiece (some (value * 10 + (digitOf c).getD 0)) rest
    else some (piece, c :: rest)

variable (domains : DomainToAscii) (c : Char) (text : List Char)

def embeddedPiece : Option (ℕ × List Char) :=
  match readPiece none text with
  | some (some value, rest) => some (value, rest)
  | _ => none

def embeddedIpv4 : Option IpAddr.Octets := do
  let (a, text) ← embeddedPiece text
  let text ← readGiven '.' text
  let (b, text) ← embeddedPiece text
  let text ← readGiven '.' text
  let (c, text) ← embeddedPiece text
  let text ← readGiven '.' text
  let (d, text) ← embeddedPiece text
  if text = [] then return (a, b, c, d) else none

/--
The pieces of an IPv6 address from some place on, after the ones already read. A double
colon takes a place of its own and is remembered as the place after it.
-/
def scanPieces : ℕ → List ℕ → Option ℕ → List Char → Option (List ℕ × Option ℕ)
  | _, pieces, compress, [] => some (pieces, compress)
  | 0, _, _, _ :: _ => none
  | places + 1, pieces, compress, c :: text =>
    if c = ':' then
      if compress.isSome then none
      else scanPieces places (pieces ++ [0]) (some (pieces.length + 1)) text
    else
      let digits := ((c :: text).take 4).takeWhile (isDigitIn 16)
      match (c :: text).drop digits.length with
      | [] => some (pieces ++ [numeral 16 digits], compress)
      | next :: rest =>
        if next = '.' then
          if digits = [] ∨ places = 0 then none
          else (embeddedIpv4 (c :: text)).map fun octets =>
            (pieces ++ IpAddr.groupsOf octets, compress)
        else if next = ':' then
          if rest = [] then none
          else scanPieces places (pieces ++ [numeral 16 digits]) compress rest
        else none

def expandPieces : List ℕ × Option ℕ → Option (List ℕ)
  | (pieces, some compress) =>
    some (pieces.take compress ++ List.replicate (8 - pieces.length) 0 ++ pieces.drop compress)
  | (pieces, none) => if pieces.length = 8 then some pieces else none

def ipv6Segments : List Char → Option (List ℕ)
  | ':' :: ':' :: rest => (scanPieces 7 [0] (some 1) rest).bind expandPieces
  | ':' :: _ => none
  | text => (scanPieces 8 [] none text).bind expandPieces

def parseIpv6 : Option IpAddr :=
  (ipv6Segments text).bind IpAddr.ofSegments

/-- The radix that the start of a number announces, and its digits. -/
def radixOf : List Char → ℕ × List Char
  | '0' :: 'x' :: rest => (16, rest)
  | '0' :: 'X' :: rest => (16, rest)
  | '0' :: c :: rest => (8, c :: rest)
  | text => (10, text)

def ipv4Number : Option ℕ :=
  let (radix, digits) := radixOf text
  if text ≠ [] ∧ digits.all (isDigitIn radix) then some (numeral radix digits) else none

def ipv4Parts : List (List Char) :=
  let parts := text.splitOn '.'
  if parts.getLast? = some [] ∧ 1 < parts.length then parts.dropLast else parts

def endsInNumber : Bool :=
  match (ipv4Parts text).getLast? with
  | none => false
  | some last => (last ≠ [] && last.all (isDigitIn 10)) || (ipv4Number last).isSome

def placedValue : ℕ → List ℕ → ℕ
  | _, [] => 0
  | _, [last] => last
  | place, number :: numbers => number * 256 ^ place + placedValue (place - 1) numbers

def IpAddr.ofValue (value : ℕ) : IpAddr :=
  .v4 (.ofNat (value / 256 ^ 3)) (.ofNat (value / 256 ^ 2)) (.ofNat (value / 256)) (.ofNat value)

def parseIpv4 : Option IpAddr :=
  let parts := ipv4Parts text
  if 4 < parts.length then none
  else
    (parts.mapM ipv4Number).bind fun numbers =>
      if numbers.dropLast.any (255 < ·) then none
      else if 256 ^ (5 - numbers.length) ≤ numbers.getLast?.getD 0 then none
      else some (.ofValue (placedValue 3 numbers))

inductive UrlHost where
  | ip (address : IpAddr)
  | domain (name : List Char)
  deriving DecidableEq, Repr

/-- The mapping of decoded domain names to ASCII; digits and dots stay as they are. -/
structure DomainToAscii where
  toAscii : List UInt8 → Option (List Char)
  keeps : ∀ text : List Char, (∀ c ∈ text, isDigitIn 10 c = true ∨ c = '.') →
    toAscii (text.flatMap String.utf8EncodeChar) = some text

def byteDigit (byte : UInt8) : Option ℕ :=
  digitOf (Char.ofNat byte.toNat)

def escapedByte (sign high low : UInt8) : Option UInt8 :=
  if sign = 37 then
    (byteDigit high).bind fun high => (byteDigit low).map fun low => .ofNat (high * 16 + low)
  else none

def percentDecode : List UInt8 → List UInt8
  | sign :: high :: low :: rest =>
    match escapedByte sign high low with
    | some byte => byte :: percentDecode rest
    | none => sign :: percentDecode (high :: low :: rest)
  | short => short

theorem percentDecode_of_plain {bytes : List UInt8} (plain : ∀ byte ∈ bytes, byte ≠ 37) :
    percentDecode bytes = bytes := by
  fun_induction percentDecode bytes with
  | case1 sign high low rest byte escaped ih =>
    have other : sign ≠ 37 := plain sign List.mem_cons_self
    rw [escapedByte, if_neg other] at escaped
    cases escaped
  | case2 sign high low rest unescaped ih =>
    rw [ih fun byte byteMem => plain byte (List.mem_cons_of_mem _ byteMem)]
  | case3 short => rfl

theorem utf8EncodeChar_ascii {c : Char} (ascii : c.toNat < 128) :
    String.utf8EncodeChar c = [UInt8.ofNat c.toNat] :=
  if_pos (Nat.le_of_lt_succ ascii)

theorem utf8_ascii {text : List Char} (ascii : ∀ c ∈ text, c.toNat < 128) :
    text.flatMap String.utf8EncodeChar = text.map fun c => UInt8.ofNat c.toNat := by
  induction text with
  | nil => rfl
  | cons c text ih =>
    rw [List.flatMap_cons, utf8EncodeChar_ascii (ascii c List.mem_cons_self),
      ih fun other otherMem => ascii other (List.mem_cons_of_mem _ otherMem)]
    rfl

def isForbidden : Bool :=
  c.toNat ≤ 32 || c.toNat = 127 || "#/:<>?@[\\]^|%".toList.contains c

def parseHost : List Char → Option UrlHost
  | '[' :: rest =>
    if rest.getLast? = some ']' then (parseIpv6 rest.dropLast).map .ip else none
  | text =>
    (domains.toAscii (percentDecode (text.flatMap String.utf8EncodeChar))).bind fun name =>
      if name = [] ∨ name.any isForbidden then none
      else if endsInNumber name then (parseIpv4 name).map .ip
      else some (.domain name)

def isC0OrSpace : Bool :=
  c.toNat ≤ 32

def isTabOrNewline : Bool :=
  c = '\t' || c = '\n' || c = '\r'

def cleanUrl (url : List Char) : List Char :=
  ((url.dropWhile isC0OrSpace).rdropWhile isC0OrSpace).filter (!isTabOrNewline ·)

def afterScheme (url : List Char) : Option (List Char) :=
  if (url.take 6).map Char.toLower = "https:".toList then some (url.drop 6)
  else if (url.take 5).map Char.toLower = "http:".toList then some (url.drop 5)
  else none

def isSlash : Bool :=
  c = '/' || c = '\\'

def endsAuthority : Bool :=
  isSlash c || c = '?' || c = '#'

def urlAuthority (rest : List Char) : List Char :=
  (rest.dropWhile isSlash).takeWhile (!endsAuthority ·)

/-- The host and the text after its colon; colons in brackets are part of the host. -/
def splitPort : Bool → List Char → List Char × Option (List Char)
  | _, [] => ([], none)
  | inside, c :: rest =>
    if c = ':' ∧ inside = false then ([], some rest)
    else
      let (host, port) := splitPort (if c = '[' then true else if c = ']' then false else inside)
        rest
      (c :: host, port)

def legalPort : Option (List Char) → Bool
  | none => true
  | some digits => digits.all (isDigitIn 10) && numeral 10 digits ≤ 65535

/-- The host that the client connects to; none when it refuses the URL. -/
def httpHost (url : List Char) : Option UrlHost :=
  (afterScheme (cleanUrl url)).bind fun rest =>
    let (host, port) := splitPort false ((urlAuthority rest).rtakeWhile (· ≠ '@'))
    if legalPort port then parseHost domains host else none

theorem ascii_of_decimal {c : Char} (decimal : isDigitIn 10 c = true ∨ c = '.') :
    c.toNat < 128 := by
  rcases decimal with digit | rfl
  · have range := isDigitIn_ten_iff.mp digit
    omega
  · decide

/-- Read every byte as the character it stands for. -/
def asciiDomains : DomainToAscii where
  toAscii := fun bytes => some (bytes.map fun byte => Char.ofNat byte.toNat)
  keeps := by
    intro text decimal
    have ascii : ∀ c ∈ text, c.toNat < 128 := fun c charMem => ascii_of_decimal (decimal c charMem)
    simp [utf8_ascii ascii]
    calc
      _ = text.map id := by
        apply List.map_congr_left
        intro c charMem
        have small : (UInt8.ofNat c.toNat).toNat = c.toNat := by
          rw [UInt8.toNat_ofNat_of_lt']
          exact Nat.lt_trans (ascii c charMem) (by decide)
        simp [small, Char.ofNat_toNat, id]
      _ = text := List.map_id text

example : httpHost asciiDomains "http://0xa9.0376.43518?x".toList =
    some (.ip (.v4 169 254 169 254)) := by decide +kernel

example : httpHost asciiDomains "https://[1:2::7:8]:8265/x".toList =
    some (.ip (.v6 1 2 0 0 0 0 7 8)) := by decide +kernel

end Foundation
