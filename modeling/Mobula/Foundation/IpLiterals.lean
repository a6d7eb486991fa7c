import Mobula.Foundation.UrlHost

/-!
# Strict literals mean the same to a URL client

Where the strict reading finds an address, the client, which accepts more texts, finds the same
one. The two readings of IPv6 differ in how they go through the text: group by group with the
colons in front, or with the colons behind.
-/

namespace Foundation

open List Option

variable {value places a b d : ℕ} {piece compress : Option ℕ} {rest digits text : List Char}
  {c : Char} {octets : IpAddr.Octets} {α : Type} {embedded : Bool} {groups pieces segments : List ℕ}
  {after : List Char} {read : List Char → Option (α × List Char)}

theorem le_numeralFrom (positive : value ≠ 0) : value ≤ numeralFrom 10 value digits := by
  induction digits generalizing value with
  | nil => exact le_rfl
  | cons c digits ih =>
    have later := @ih (value * 10 + (digitOf c).getD 0) (by omega)
    simp [numeralFrom] at later ⊢
    omega

theorem readPiece_end (ends : ∀ c, rest.head? = some c → isDigitIn 10 c = false) :
    readPiece piece rest = some (piece, rest) := by
  rcases rest with _ | ⟨c, rest⟩
  · rfl
  · simp [readPiece, ends c rfl]

theorem eq_zero_of_digit (digit : isDigitIn 10 c = true) (zero : (digitOf c).getD 0 = 0) :
    c = '0' := by
  have range := isDigitIn_ten_iff.mp digit
  simp [digitOf, if_pos range] at zero
  have code : c.toNat = '0'.toNat := by
    have value : '0'.toNat = 48 := rfl
    omega
  exact Char.toNat_inj.mp code

theorem readPiece_some (positive : value ≠ 0) (areDigits : ∀ c ∈ digits, isDigitIn 10 c = true)
    (ends : ∀ c, rest.head? = some c → isDigitIn 10 c = false)
    (small : numeralFrom 10 value digits ≤ 255) :
    readPiece (some value) (digits ++ rest) = some (some (numeralFrom 10 value digits), rest) := by
  induction digits generalizing value with
  | nil => exact readPiece_end ends
  | cons c digits ih =>
    have next : value * 10 + (digitOf c).getD 0 ≤
        numeralFrom 10 (value * 10 + (digitOf c).getD 0) digits :=
      le_numeralFrom (by omega)
    have same : numeralFrom 10 value (c :: digits) =
        numeralFrom 10 (value * 10 + (digitOf c).getD 0) digits := rfl
    rw [same] at small ⊢
    rw [cons_append, readPiece, if_pos (areDigits c mem_cons_self)]
    simp only [if_neg positive, if_neg (show ¬ 255 < value * 10 + (digitOf c).getD 0 by omega)]
    exact ih (by omega) (fun d digitMem => areDigits d (mem_cons_of_mem _ digitMem)) small

theorem embeddedPiece_of_readOctet (read : readOctet text = some (value, rest)) :
    embeddedPiece text = some (value, rest) := by
  rcases readNumber_eq_some read with ⟨digits, rfl, leading, _, rfl, small, unpadded⟩
  rcases digits with _ | ⟨c, digits⟩
  · exact absurd rfl leading.nonempty
  have piece : readPiece none (c :: digits ++ rest) =
      some (some (numeral 10 (c :: digits)), rest) := by
    simp [readPiece, if_pos (leading.areDigits c mem_cons_self)]
    have same : numeral 10 (c :: digits) = numeralFrom 10 ((digitOf c).getD 0) digits := by
      simp [numeral, numeralFrom]
    rw [same] at small ⊢
    by_cases zero : (digitOf c).getD 0 = 0
    · -- Only the number zero itself starts with a zero.
      have digit := leading.areDigits c mem_cons_self
      have alone := unpadded rfl (by simp [eq_zero_of_digit digit zero])
      have noMore : digits = [] := by simpa using alone
      subst noMore
      exact readPiece_end leading.ends
    · exact readPiece_some zero
        (fun d digitMem => leading.areDigits d (mem_cons_of_mem _ digitMem)) leading.ends
        small
  rw [embeddedPiece, piece]

theorem embeddedIpv4_of_readIpv4 (read : readIpv4 text = some (octets, [])) :
    embeddedIpv4 text = some octets := by
  rcases octets with ⟨a, b, c, d⟩
  rcases readIpv4_eq_some read with ⟨first, second, third, readA, readB, readC, readD⟩
  simp [embeddedIpv4, embeddedPiece_of_readOctet readA, embeddedPiece_of_readOctet readB,
    embeddedPiece_of_readOctet readC, embeddedPiece_of_readOctet readD, readGiven]

theorem take_of_readGroup {group : ℕ} (read : readGroup text = some (group, rest)) :
    ∃ digits, digits ≠ [] ∧ (∀ c ∈ digits, isDigitIn 16 c = true) ∧ text = digits ++ rest ∧
      (text.take 4).takeWhile (isDigitIn 16) = digits ∧ numeral 16 digits = group := by
  rcases readNumber_eq_some read with ⟨digits, rfl, leading, few, rfl, _, _⟩
  refine ⟨digits, leading.nonempty, leading.areDigits, rfl, ?_, rfl⟩
  rw [← take_takeWhile, leading.takeWhile, take_of_length_le few]

theorem take_of_readIpv4 (read : readIpv4 text = some (octets, rest)) :
    ∃ digits after, digits ≠ [] ∧ (∀ c ∈ digits, isDigitIn 16 c = true) ∧
      text = digits ++ '.' :: after ∧ (text.take 4).takeWhile (isDigitIn 16) = digits := by
  rcases octets with ⟨a, b, c, d⟩
  rcases readIpv4_eq_some read with ⟨first, _, _, readA, _, _, _⟩
  rcases readNumber_eq_some readA with ⟨digits, rfl, leading, few, _, _, _⟩
  have hexadecimal : ∀ c ∈ digits, isDigitIn 16 c = true :=
    fun c digitMem => isDigitIn_of_ten (leading.areDigits c digitMem)
  refine ⟨digits, first, leading.nonempty, hexadecimal, rfl, ?_⟩
  have stops : LeadingDigits 16 digits ('.' :: first) := by
    refine ⟨leading.nonempty, hexadecimal, ?_⟩
    rintro c ⟨⟩
    decide
  rw [← take_takeWhile, stops.takeWhile, take_of_length_le (few.trans (by decide))]

theorem readPlace_colon : readPlace false read (':' :: after) = readPlace true read after := by
  simp [readPlace, readGiven]

theorem readPlace_other
    (other : ∀ after, text ≠ ':' :: after) : readPlace false read text = none := by
  rcases text with _ | ⟨c, text⟩
  · rfl
  have different : c ≠ ':' := by
    rintro rfl
    exact other text rfl
  simp [readPlace, readGiven, different]

theorem readGroups_other (other : ∀ after, text ≠ ':' :: after) :
    readGroups false places text = ([], false, text) := by
  cases places with
  | zero => rfl
  | succ places => simp [readGroups, readAddress, readPlace_other other]

theorem readAddress_colon :
    readAddress false places (':' :: after) = readAddress true places after := by
  simp only [readAddress, readPlace_colon]

theorem readGroups_cases (places : ℕ) (text : List Char) :
    (readGroups true places text = ([], false, text) ∧
      readGroups false places (':' :: text) = ([], false, ':' :: text)) ∨
    ((readGroups true places text).1 ≠ [] ∧
      readGroups false places (':' :: text) = readGroups true places text) := by
  cases places with
  | zero => exact .inl ⟨rfl, rfl⟩
  | succ places =>
    cases address : readAddress true (places + 1) text with
    | some found =>
      rcases found with ⟨⟨a, b, c, d⟩, rest⟩
      right
      simp [readGroups, readAddress_colon, address, IpAddr.groupsOf]
    | none =>
      cases place : readPlace true readGroup text with
      | some found =>
        right
        simp [readGroups, readAddress_colon, readPlace_colon, address, place]
      | none =>
        left
        simp [readGroups, readAddress_colon, readPlace_colon, address, place]

theorem rest_of_no_groups (read : readGroups true places text = ([], embedded, rest)) :
    rest = text := by
  rcases readGroups_cases places text with ⟨nothing, _⟩ | ⟨found, _⟩
  · rw [read] at nothing
    cases nothing
    rfl
  · rw [read] at found
    exact absurd rfl found

/-- The groups of a text, the number of places they have and what follows them. -/
inductive GroupRun : ℕ → List Char → List ℕ → Bool → List Char → Prop where
  | address {places : ℕ} {text rest : List Char} {octets : IpAddr.Octets} (room : 2 ≤ places)
      (read : readIpv4 text = some (octets, rest)) :
      GroupRun places text (IpAddr.groupsOf octets) true rest
  | last {places group : ℕ} {text rest : List Char} (read : readGroup text = some (group, rest)) :
      GroupRun (places + 1) text [group] false rest
  | more {places group : ℕ} {text after rest : List Char} {groups : List ℕ} {embedded : Bool}
      (read : readGroup text = some (group, ':' :: after))
      (next : GroupRun places after groups embedded rest) :
      GroupRun (places + 1) text (group :: groups) embedded rest

theorem groupRun_of_readGroups (read : readGroups true places text = (groups, embedded, rest))
    (present : groups ≠ []) : GroupRun places text groups embedded rest := by
  induction places generalizing text groups embedded rest with
  | zero =>
    cases read
    exact absurd rfl present
  | succ places ih =>
    simp only [readGroups] at read
    cases address : readAddress true (places + 1) text with
    | some found =>
      rcases found with ⟨octets, after⟩
      rw [address] at read
      cases read
      simp only [readAddress, ite_none_right_eq_some] at address
      exact .address address.1 address.2
    | none =>
      cases place : readPlace true readGroup text with
      | none =>
        rw [address, place] at read
        cases read
        exact absurd rfl present
      | some found =>
        rcases found with ⟨group, after⟩
        have here : readGroup text = some (group, after) := place
        rw [address, place] at read
        simp only at read
        by_cases colon : ∃ later, after = ':' :: later
        · rcases colon with ⟨later, rfl⟩
          rcases readGroups_cases places later with ⟨_, nothing⟩ | ⟨found, same⟩
          · rw [nothing] at read
            cases read
            exact .last here
          · rw [same] at read
            cases read
            exact .more here (ih rfl found)
        · rw [readGroups_other fun later same => colon ⟨later, same⟩] at read
          cases read
          exact .last here

section

variable (run : GroupRun places text groups embedded rest)

include run

theorem GroupRun.starts : ∃ c later, text = c :: later ∧ isDigitIn 16 c = true := by
  have digits : ∃ digits after, digits ≠ [] ∧ (∀ c ∈ digits, isDigitIn 16 c = true) ∧
      text = digits ++ after := by
    cases run with
    | address room read =>
      rcases take_of_readIpv4 read with ⟨digits, after, present, hexadecimal, shape, _⟩
      exact ⟨digits, _, present, hexadecimal, shape⟩
    | last read =>
      rcases take_of_readGroup read with ⟨digits, present, hexadecimal, shape, _⟩
      exact ⟨digits, _, present, hexadecimal, shape⟩
    | more read next =>
      rcases take_of_readGroup read with ⟨digits, present, hexadecimal, shape, _⟩
      exact ⟨digits, _, present, hexadecimal, shape⟩
  rcases digits with ⟨digits, after, present, hexadecimal, rfl⟩
  rcases exists_cons_of_ne_nil present with ⟨c, digits, rfl⟩
  exact ⟨c, _, rfl, hexadecimal c mem_cons_self⟩

theorem GroupRun.nonempty : text ≠ [] := by
  rcases run.starts with ⟨c, later, rfl, _⟩
  exact cons_ne_nil c later

theorem GroupRun.no_colon (after : List Char) : text ≠ ':' :: after := by
  rcases run.starts with ⟨c, later, rfl, digit⟩
  rintro ⟨⟩
  exact absurd digit (by decide)

end

theorem scanPieces_digits (present : digits ≠ [])
    (hexadecimal : ∀ c ∈ digits, isDigitIn 16 c = true)
    (taken : ((digits ++ rest).take 4).takeWhile (isDigitIn 16) = digits) :
    scanPieces (places + 1) pieces compress (digits ++ rest) =
      match rest with
      | [] => some (pieces ++ [numeral 16 digits], compress)
      | next :: after =>
        if next = '.' then
          if digits = [] ∨ places = 0 then none
          else (embeddedIpv4 (digits ++ rest)).map fun octets =>
            (pieces ++ IpAddr.groupsOf octets, compress)
        else if next = ':' then
          if after = [] then none
          else scanPieces places (pieces ++ [numeral 16 digits]) compress after
        else none := by
  rcases digits with _ | ⟨c, digits⟩
  · exact absurd rfl present
  have notColon : c ≠ ':' := by
    rintro rfl
    exact absurd (hexadecimal ':' mem_cons_self) (by decide)
  rw [cons_append, scanPieces, if_neg notColon]
  simp only [← cons_append, taken, drop_left]
  cases rest <;> rfl

section

variable (run : GroupRun places text groups embedded rest)

include run

/-- The client reads the pieces that the strict reading finds up to the end of the text. -/
theorem GroupRun.scanned (finished : rest = []) (pieces : List ℕ) (compress : Option ℕ) :
    scanPieces places pieces compress text = some (pieces ++ groups, compress) := by
  induction run generalizing pieces with
  | @address places text rest octets room read =>
    subst finished
    have embeds := embeddedIpv4_of_readIpv4 read
    rcases take_of_readIpv4 read with ⟨digits, after, present, hexadecimal, rfl, taken⟩
    cases places with
    | zero => omega
    | succ places =>
      have notLast : places ≠ 0 := by omega
      rw [scanPieces_digits present hexadecimal taken]
      simp [present, notLast, embeds]
  | last read =>
    subst finished
    rcases take_of_readGroup read with ⟨digits, present, hexadecimal, rfl, taken, value⟩
    rw [scanPieces_digits present hexadecimal taken, value]
  | @more places group text after rest groups embedded read next ih =>
    rcases take_of_readGroup read with ⟨digits, present, hexadecimal, rfl, taken, value⟩
    rw [scanPieces_digits present hexadecimal taken, value]
    have continued := ih finished (pieces ++ [group])
    simp [next.nonempty, continued]

/-- The client reads the pieces in front of a double colon and goes on after it. -/
theorem GroupRun.scanned_gap (plain : embedded = false) (gap : rest = ':' :: ':' :: after)
    (room : groups.length < places) (pieces : List ℕ) : scanPieces places pieces none text =
      scanPieces (places - (groups.length + 1)) (pieces ++ groups ++ [0])
        (some (pieces.length + groups.length + 1)) after := by
  induction run generalizing pieces with
  | address _ read => cases plain
  | @last places group text rest read =>
    subst gap
    rcases take_of_readGroup read with ⟨digits, present, hexadecimal, rfl, taken, value⟩
    rw [scanPieces_digits present hexadecimal taken, value]
    cases places with
    | zero => simp at room
    | succ places =>
      have colon : ':' ≠ '.' := by decide
      simp only [if_neg colon, if_true, cons_ne_nil, if_false, scanPieces,
        isSome_none, Bool.false_eq_true]
      simp [Nat.add_assoc]
  | @more places group text later rest groups embedded read next ih =>
    rcases take_of_readGroup read with ⟨digits, present, hexadecimal, rfl, taken, value⟩
    rw [scanPieces_digits present hexadecimal taken, value]
    have continued := ih plain gap (by simpa using room) (pieces ++ [group])
    have colon : ':' ≠ '.' := by decide
    simp [if_neg next.nonempty, continued]
    simp [Nat.add_assoc, Nat.add_comm 1]

theorem GroupRun.length_le : groups.length ≤ places := by
  induction run with
  | @address places text rest octets room read =>
    rcases octets with ⟨a, b, c, d⟩
    exact room
  | last read => simp
  | more read next ih => simpa using ih

end

/-- Groups that take up the text, if there are any, fit and are read by the client. -/
theorem scanned_of_readGroups (read : readGroups true places text = (groups, embedded, [])) :
    groups.length ≤ places ∧ ∀ pieces compress,
      scanPieces places pieces compress text = some (pieces ++ groups, compress) := by
  by_cases present : groups = []
  · subst present
    rw [← rest_of_no_groups read]
    simp [scanPieces]
  · have run := groupRun_of_readGroups read present
    exact ⟨run.length_le, run.scanned rfl⟩

theorem ipv6Segments_plain (other : ∀ after, text ≠ ':' :: after) :
    ipv6Segments text = (scanPieces 8 [] none text).bind expandPieces := by
  unfold ipv6Segments
  split
  case h_1 rest => exact absurd rfl (other _)
  case h_2 rest _ => exact absurd rfl (other _)
  case h_3 => rfl

/-- The pieces after a double colon go to the end. -/
theorem expandPieces_gap {head tail : List ℕ} (room : head.length + 1 + tail.length ≤ 8) :
    expandPieces (head ++ [0] ++ tail, some (head.length + 1)) =
      some (head ++ replicate (8 - head.length - tail.length) 0 ++ tail) := by
  have front : (head ++ [0]).length = head.length + 1 := by simp
  have zeros : 8 - head.length - tail.length = 8 - (head ++ [0] ++ tail).length + 1 := by
    simp
    omega
  rw [expandPieces, ← front, take_left, drop_left, zeros, replicate_succ]
  simp

/-- Where the strict reading finds the groups of an IPv6 address, so does the client. -/
theorem ipv6Segments_of_readIpv6 (read : readIpv6 text = some (segments, [])) :
    ipv6Segments text = some segments := by
  rcases front : readGroups true 8 text with ⟨head, embedded, rest⟩
  simp only [readIpv6, front] at read
  split at read
  case isTrue full =>
    simp at read
    rcases read with ⟨rfl, rfl⟩
    have present : head ≠ [] := by
      rintro rfl
      cases full
    have run := groupRun_of_readGroups front present
    rw [ipv6Segments_plain run.no_colon, run.scanned rfl]
    simp [expandPieces, full]
  case isFalse short =>
    split at read
    case isTrue address => cases read
    case isFalse plain =>
      simp only [bind_eq_bind, bind_eq_some_iff, Option.pure_def,
        Option.some.injEq, Prod.mk.injEq] at read
      rcases read with ⟨middle, colon, after, second, rfl, finished⟩
      rw [readGiven_eq_some second] at colon
      have gap := readGiven_eq_some colon
      rcases back : readGroups true (8 - (head.length + 1)) after with ⟨tail, closing, last⟩
      rw [back] at finished
      have ended : last = [] := finished
      subst ended
      rcases scanned_of_readGroups back with ⟨few, scanned⟩
      simp only
      by_cases present : head = []
      · subst present
        rw [← rest_of_no_groups front, gap]
        have room : ([] : List ℕ).length + 1 + tail.length ≤ 8 := by
          simp at few ⊢
          omega
        have expanded := expandPieces_gap room
        simp at scanned expanded ⊢
        rw [ipv6Segments, scanned [0] (some 1)]
        exact expanded
      · have run := groupRun_of_readGroups front present
        have fits := run.length_le
        have notEmbedded : embedded = false := by simpa using plain
        have expanded := @expandPieces_gap head tail (by omega)
        rw [ipv6Segments_plain run.no_colon, run.scanned_gap notEmbedded gap (by omega) [], scanned]
        simpa using expanded

theorem ipv4Number_of_digits (present : digits ≠ [])
    (areDigits : ∀ c ∈ digits, isDigitIn 10 c = true)
    (unpadded : digits.head? = some '0' → digits.length = 1) :
    ipv4Number digits = some (numeral 10 digits) := by
  have decimal : radixOf digits = (10, digits) := by
    unfold radixOf
    split
    case h_1 rest => simp at unpadded
    case h_2 rest => simp at unpadded
    case h_3 c rest _ _ => simp at unpadded
    case h_4 => rfl
  rw [ipv4Number, decimal]
  exact if_pos ⟨present, List.all_eq_true.mpr areDigits⟩

theorem ofValue_placed {c : ℕ} (smallB : b ≤ 255) (smallC : c ≤ 255) (smallD : d ≤ 255) :
    IpAddr.ofValue (placedValue 3 [a, b, c, d]) = .ofOctets (a, b, c, d) := by
  have value : placedValue 3 [a, b, c, d] = a * 16777216 + (b * 65536 + (c * 256 + d)) := rfl
  rw [IpAddr.ofValue, IpAddr.ofOctets, value]
  congr 1
  all_goals
    apply UInt8.toNat_inj.mp
    rw [UInt8.toNat_ofNat', UInt8.toNat_ofNat']
    omega

/-- One number of an address as the client reads it. -/
structure OctetText (digits : List Char) (value : ℕ) : Prop where
  present : digits ≠ []
  areDigits : ∀ c ∈ digits, isDigitIn 10 c = true
  number : ipv4Number digits = some value
  small : value ≤ 255

theorem octetText_of_readOctet (read : readOctet text = some (value, rest)) :
    ∃ digits, text = digits ++ rest ∧ OctetText digits value := by
  rcases readNumber_eq_some read with ⟨digits, shape, leading, _, rfl, small, unpadded⟩
  exact ⟨digits, shape, leading.nonempty, leading.areDigits,
    ipv4Number_of_digits leading.nonempty leading.areDigits (unpadded rfl), small⟩

theorem OctetText.no_dot (octet : OctetText digits value) : '.' ∉ digits := by
  intro dot
  exact absurd (octet.areDigits '.' dot) (by decide)

theorem parts_of_readIpv4 {c : ℕ} (read : readIpv4 text = some ((a, b, c, d), [])) :
    ∃ first second third fourth, text = ['.'].intercalate [first, second, third, fourth] ∧
      OctetText first a ∧ OctetText second b ∧ OctetText third c ∧ OctetText fourth d := by
  rcases readIpv4_eq_some read with ⟨_, _, _, readA, readB, readC, readD⟩
  rcases octetText_of_readOctet readA with ⟨first, rfl, octetA⟩
  rcases octetText_of_readOctet readB with ⟨second, rfl, octetB⟩
  rcases octetText_of_readOctet readC with ⟨third, rfl, octetC⟩
  rcases octetText_of_readOctet readD with ⟨fourth, rfl, octetD⟩
  exact ⟨first, second, third, fourth, by simp [intercalate], octetA, octetB, octetC, octetD⟩

theorem decimal_of_readIpv4 (read : readIpv4 text = some (octets, [])) :
    ∀ c ∈ text, isDigitIn 10 c = true ∨ c = '.' := by
  rcases octets with ⟨a, b, c, d⟩
  rcases parts_of_readIpv4 read with ⟨first, second, third, fourth, rfl, octetA, octetB, octetC,
    octetD⟩
  intro c charMem
  simp [intercalate, intersperse, flatten_cons, flatten_nil] at charMem
  rcases charMem with inA | dot | inB | dot | inC | dot | inD
  · exact .inl (octetA.areDigits c inA)
  · exact .inr dot
  · exact .inl (octetB.areDigits c inB)
  · exact .inr dot
  · exact .inl (octetC.areDigits c inC)
  · exact .inr dot
  · exact .inl (octetD.areDigits c inD)

/-- Where the strict reading finds an IPv4 address, so does the client. -/
theorem parseIpv4_of_readIpv4 (read : readIpv4 text = some (octets, [])) :
    endsInNumber text = true ∧ parseIpv4 text = some (.ofOctets octets) := by
  rcases octets with ⟨a, b, c, d⟩
  rcases parts_of_readIpv4 read with ⟨first, second, third, fourth, shape, octetA, octetB, octetC,
    octetD⟩
  have split : text.splitOn '.' = [first, second, third, fourth] := by
    rw [shape]
    apply splitOn_intercalate
    · intro part partMem
      simp at partMem
      rcases partMem with rfl | rfl | rfl | rfl
      · exact octetA.no_dot
      · exact octetB.no_dot
      · exact octetC.no_dot
      · exact octetD.no_dot
    · simp
  have parts : ipv4Parts text = [first, second, third, fourth] := by
    simp [ipv4Parts, split, octetD.present]
  constructor
  · simp [endsInNumber, parts, octetD.number]
  · have smallA := octetA.small
    have smallB := octetB.small
    have smallC := octetC.small
    have smallD := octetD.small
    have fits : ¬ 256 ≤ d := by omega
    simp only [parseIpv4, parts]
    simp [octetA.number, octetB.number, octetC.number, octetD.number, smallA, smallB, smallC, fits,
      ofValue_placed smallB smallC smallD]

theorem readPiece_eq_some {result : Option ℕ} (read : readPiece piece text = some (result, rest)) :
    ∃ digits, text = digits ++ rest ∧ ∀ c ∈ digits, isDigitIn 10 c = true := by
  induction text generalizing piece with
  | nil =>
    cases read
    exact ⟨[], rfl, by simp⟩
  | cons c text ih =>
    have extend {piece' : Option ℕ} (digit : isDigitIn 10 c = true)
        (continued : readPiece piece' text = some (result, rest)) :
        ∃ digits, c :: text = digits ++ rest ∧ ∀ c ∈ digits, isDigitIn 10 c = true := by
      rcases ih continued with ⟨digits, rfl, areDigits⟩
      exact ⟨c :: digits, rfl, by simpa [digit] using areDigits⟩
    unfold readPiece at read
    split at read
    case isFalse ended =>
      cases read
      exact ⟨[], rfl, by simp⟩
    case isTrue digit =>
      rcases piece with _ | value
      · exact extend digit read
      simp only at read
      split at read
      case isTrue zero => cases read
      case isFalse positive =>
        split at read
        case isTrue large => cases read
        case isFalse small => exact extend digit read

theorem embeddedPiece_eq_some (read : embeddedPiece text = some (value, rest)) :
    ∃ digits, text = digits ++ rest ∧ ∀ c ∈ digits, isDigitIn 10 c = true := by
  unfold embeddedPiece at read
  split at read
  case h_1 value' rest' found =>
    cases read
    exact readPiece_eq_some found
  case h_2 => cases read

def inLiteral (c : Char) : Prop :=
  isDigitIn 16 c = true ∨ c = ':' ∨ c = '.'

instance : DecidablePred inLiteral := fun c =>
  inferInstanceAs (Decidable (isDigitIn 16 c = true ∨ c = ':' ∨ c = '.'))

theorem inLiteral_of_ten (digit : isDigitIn 10 c = true) : inLiteral c :=
  .inl (isDigitIn_of_ten digit)

theorem embeddedIpv4_chars (read : embeddedIpv4 text = some octets) : ∀ c ∈ text, inLiteral c := by
  simp only [embeddedIpv4, bind_eq_bind, bind_eq_some_iff, Prod.exists] at read
  rcases read with ⟨a, text₁, readA, text₂, dotA, b, text₃, readB, text₄, dotB, c, text₅, readC,
    text₆, dotC, d, text₇, readD, ended⟩
  simp at ended
  rw [readGiven_eq_some dotA] at readA
  rw [readGiven_eq_some dotB] at readB
  rw [readGiven_eq_some dotC] at readC
  rw [ended.1] at readD
  rcases embeddedPiece_eq_some readA with ⟨first, rfl, digitsA⟩
  rcases embeddedPiece_eq_some readB with ⟨second, rfl, digitsB⟩
  rcases embeddedPiece_eq_some readC with ⟨third, rfl, digitsC⟩
  rcases embeddedPiece_eq_some readD with ⟨fourth, rfl, digitsD⟩
  intro c charMem
  simp at charMem
  rcases charMem with inA | rfl | inB | rfl | inC | rfl | inD
  · exact inLiteral_of_ten (digitsA c inA)
  · exact .inr (.inr rfl)
  · exact inLiteral_of_ten (digitsB c inB)
  · exact .inr (.inr rfl)
  · exact inLiteral_of_ten (digitsC c inC)
  · exact .inr (.inr rfl)
  · exact inLiteral_of_ten (digitsD c inD)

theorem mem_digits_or_rest (charMem : c ∈ text) : isDigitIn 16 c = true ∨
      c ∈ text.drop ((text.take 4).takeWhile (isDigitIn 16)).length := by
  have digits := (List.takeWhile_prefix (isDigitIn 16) (l := text.take 4)).trans
    (List.take_prefix 4 text)
  rw [← take_append_drop ((text.take 4).takeWhile (isDigitIn 16)).length text] at charMem
  rcases mem_append.mp charMem with front | rest
  · left
    rw [← prefix_iff_eq_take.mp digits] at front
    exact mem_takeWhile_imp front
  · exact .inr rest

theorem scanPieces_chars {result : List ℕ × Option ℕ}
    (scanned : scanPieces places pieces compress text = some result) : ∀ c ∈ text, inLiteral c := by
  induction places generalizing pieces compress text with
  | zero =>
    rcases text with _ | ⟨c, text⟩
    · simp
    · cases scanned
  | succ places ih =>
    rcases text with _ | ⟨first, text⟩
    · simp
    rw [scanPieces] at scanned
    split at scanned
    case isTrue colon =>
      split at scanned
      case isTrue second => cases scanned
      case isFalse gap =>
        intro c charMem
        rcases mem_cons.mp charMem with rfl | later
        · exact .inr (.inl colon)
        · exact ih scanned c later
    case isFalse piece =>
      simp only at scanned
      split at scanned
      case h_1 ended =>
        intro c charMem
        rcases mem_digits_or_rest charMem with digit | rest
        · exact .inl digit
        · rw [ended] at rest
          cases rest
      case h_2 next rest remaining =>
        split at scanned
        case isTrue dot =>
          split at scanned
          case isTrue refused => cases scanned
          case isFalse room =>
            rcases map_eq_some_iff.mp scanned with ⟨octets, embeds, _⟩
            exact embeddedIpv4_chars embeds
        case isFalse noDot =>
          split at scanned
          case isFalse other => cases scanned
          case isTrue colon =>
            split at scanned
            case isTrue ended => cases scanned
            case isFalse more =>
              intro c charMem
              rcases mem_digits_or_rest charMem with digit | later
              · exact .inl digit
              · rw [remaining] at later
                rcases mem_cons.mp later with rfl | later
                · exact .inr (.inl colon)
                · exact ih scanned c later

theorem ipv6Segments_chars (read : ipv6Segments text = some segments) :
    ∀ c ∈ text, inLiteral c := by
  unfold ipv6Segments at read
  split at read
  case h_1 rest =>
    rcases bind_eq_some_iff.mp read with ⟨result, scanned, _⟩
    intro c charMem
    simp only [mem_cons] at charMem
    rcases charMem with rfl | rfl | later
    · exact .inr (.inl rfl)
    · exact .inr (.inl rfl)
    · exact scanPieces_chars scanned c later
  case h_2 => cases read
  case h_3 =>
    rcases bind_eq_some_iff.mp read with ⟨result, scanned, _⟩
    exact scanPieces_chars scanned

theorem ipv6Segments_of_no_colon (colonFree : ':' ∉ text) : ipv6Segments text = none := by
  have other : ∀ after, text ≠ ':' :: after := by
    rintro after rfl
    exact colonFree mem_cons_self
  rw [ipv6Segments_plain other]
  rcases text with _ | ⟨first, text⟩
  · rfl
  have piece : first ≠ ':' := fun same => other text (by rw [same])
  rw [scanPieces, if_neg piece]
  simp only
  split
  case h_1 ended => rfl
  case h_2 next rest remaining =>
    have notColon : next ≠ ':' := by
      rintro rfl
      have there : ':' ∈ (first :: text).drop
          (((first :: text).take 4).takeWhile (isDigitIn 16)).length := by
        rw [remaining]
        exact mem_cons_self
      exact colonFree (mem_of_mem_drop there)
    rw [if_neg notColon]
    split
    case isTrue dot =>
      split
      case isTrue refused => rfl
      case isFalse room =>
        rcases embeddedIpv4 (first :: text) with _ | octets
        · rfl
        rcases octets with ⟨a, b, c, d⟩
        rfl
    case isFalse other => rfl

end Foundation
