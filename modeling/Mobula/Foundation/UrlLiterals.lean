import Mobula.Foundation.IpLiterals

/-!
# Literals in URLs

Where the text after the slashes of an HTTP URL starts with a strict IP literal, a client that
finds an address in the URL finds this one. Characters that the client ends the authority at,
drops or decodes cannot stand in a literal.
-/

namespace Foundation

open List Option

variable {text start front tail : List Char} {address found : IpAddr} {c : Char}
  {domains : DomainToAscii}

/-- The strict reading finds four numbers, or groups that the client finds as well. -/
theorem parse_cases (parsed : IpAddr.parse text = some address) :
    (∃ octets, readIpv4 text = some (octets, []) ∧ address = .ofOctets octets) ∨
      ∃ segments, ipv6Segments text = some segments ∧
        IpAddr.ofSegments segments = some address := by
  unfold IpAddr.parse at parsed
  split at parsed
  case h_1 octets rest read =>
    simp at parsed
    rw [parsed.1] at read
    exact .inl ⟨octets, read, parsed.2.symm⟩
  case h_2 =>
    split at parsed
    case h_1 segments rest read =>
      simp at parsed
      rw [parsed.1] at read
      exact .inr ⟨segments, ipv6Segments_of_readIpv6 read, parsed.2⟩
    case h_2 => cases parsed

theorem parse_chars (parsed : IpAddr.parse text = some address) : ∀ c ∈ text, inLiteral c := by
  rcases parse_cases parsed with ⟨octets, read, _⟩ | ⟨segments, read, _⟩
  · intro c charMem
    rcases decimal_of_readIpv4 read c charMem with digit | dot
    · exact inLiteral_of_ten digit
    · exact .inr (.inr dot)
  · exact ipv6Segments_chars read

theorem decimal_not_forbidden (decimal : isDigitIn 10 c = true ∨ c = '.') :
    isForbidden c = false := by
  rcases decimal with digit | rfl
  · have range := isDigitIn_ten_iff.mp digit
    have digits : ∀ code ∈ range' 48 10, isForbidden (Char.ofNat code) = false := by decide
    have found := digits c.toNat (by simp only [mem_range'_1]; omega)
    rwa [Char.ofNat_toNat] at found
  · decide

theorem byte_of_decimal (decimal : isDigitIn 10 c = true ∨ c = '.') : UInt8.ofNat c.toNat ≠ 37 := by
  intro sign
  have code : c.toNat % 256 = 37 := by
    rw [← UInt8.toNat_ofNat', sign]
    rfl
  rcases decimal with digit | rfl
  · have range := isDigitIn_ten_iff.mp digit
    omega
  · exact absurd code (by decide)

theorem parseHost_of_readIpv4 {octets : IpAddr.Octets} (read : readIpv4 text = some (octets, [])) :
    parseHost domains text = some (.ip (.ofOctets octets)) := by
  have decimal := decimal_of_readIpv4 read
  rcases parseIpv4_of_readIpv4 read with ⟨numeric, address⟩
  have present : text ≠ [] := by
    rintro rfl
    cases read
  have allowed : text.any isForbidden = false := by
    rw [List.any_eq_false]
    intro c charMem
    rw [decimal_not_forbidden (decimal c charMem)]
    exact Bool.false_ne_true
  have plain : percentDecode (text.flatMap String.utf8EncodeChar) =
      text.flatMap String.utf8EncodeChar := by
    apply percentDecode_of_plain
    rw [utf8_ascii fun c charMem => ascii_of_decimal (decimal c charMem)]
    intro byte byteMem
    rcases List.mem_map.mp byteMem with ⟨c, charMem, rfl⟩
    exact byte_of_decimal (decimal c charMem)
  unfold parseHost
  split
  case h_1 rest => exact absurd (decimal '[' mem_cons_self) (by decide)
  case h_2 =>
    have accepted : ¬ (text = [] ∨ text.any isForbidden = true) := by
      rintro (empty | forbidden)
      · exact present empty
      · rw [allowed] at forbidden
        cases forbidden
    rw [plain, domains.keeps text decimal, bind_some, if_neg accepted, if_pos numeric, address]
    rfl

theorem parseHost_plain (parsed : IpAddr.parse text = some address) (colonFree : ':' ∉ text) :
    parseHost domains text = some (.ip address) := by
  rcases parse_cases parsed with ⟨octets, read, rfl⟩ | ⟨segments, read, _⟩
  · exact parseHost_of_readIpv4 read
  · rw [ipv6Segments_of_no_colon colonFree] at read
    cases read

theorem parseHost_bracket {extra : List Char} (parsed : IpAddr.parse text = some address)
    (host : parseHost domains ('[' :: text ++ ']' :: extra) = some (.ip found)) :
    found = address := by
  rw [cons_append, parseHost, ite_none_right_eq_some, map_eq_some_iff] at host
  rcases host with ⟨closed, inner, read, same⟩
  cases same
  rcases bind_eq_some_iff.mp read with ⟨segments, scanned, built⟩
  cases extra with
  | cons c extra =>
    -- A second bracket cannot be part of an address.
    have close : ']' ∈ (text ++ ']' :: c :: extra).dropLast := by
      rw [dropLast_append_cons, dropLast_cons_cons]
      simp
    exact absurd (ipv6Segments_chars scanned ']' close) (by decide)
  | nil =>
    rw [dropLast_concat] at scanned
    rcases parse_cases parsed with ⟨octets, address4, _⟩ | ⟨strict, same, built'⟩
    · have colonFree : ':' ∉ text := by
        intro colon
        exact absurd (decimal_of_readIpv4 address4 ':' colon) (by decide)
      rw [ipv6Segments_of_no_colon colonFree] at scanned
      cases scanned
    · simp [same] at scanned
      rw [← scanned, built', Option.some.injEq] at built
      exact built.symm

theorem splitPort_outside {text more : List Char} (plain : ∀ c ∈ text, c ≠ ':' ∧ c ≠ '[') :
    splitPort false (text ++ more) =
      (text ++ (splitPort false more).1, (splitPort false more).2) := by
  induction text with
  | nil => rfl
  | cons c text ih =>
    rcases plain c mem_cons_self with ⟨noColon, noBracket⟩
    have later := ih fun other otherMem => plain other (mem_cons_of_mem _ otherMem)
    simp [splitPort, noColon, noBracket, later]

theorem splitPort_inside {text more : List Char} (unclosed : ']' ∉ text) :
    splitPort true (text ++ more) =
      (text ++ (splitPort true more).1, (splitPort true more).2) := by
  induction text with
  | nil => rfl
  | cons c text ih =>
    have here : c ≠ ']' := fun same => unclosed (same ▸ mem_cons_self)
    have later := ih fun closing => unclosed (mem_cons_of_mem _ closing)
    simp [splitPort, here, later]

theorem rdropWhile_append {α : Type} (p : α → Bool) {front : List α} (tail : List α) {last : α}
    (ends : front.getLast? = some last) (stays : p last = false) :
    (front ++ tail).rdropWhile p = front ++ tail.rdropWhile p := by
  have kept : front.reverse.dropWhile p = front.reverse := by
    rw [getLast?_eq_head?_reverse] at ends
    rcases reversed : front.reverse with _ | ⟨first, others⟩
    · rfl
    simp [reversed] at ends
    rw [dropWhile_cons_of_neg (by rw [ends, stays]; exact Bool.false_ne_true)]
  unfold rdropWhile
  rw [reverse_append, dropWhile_append]
  split
  case isTrue dropped =>
    rw [kept, List.isEmpty_iff.mp dropped]
    simp
  case isFalse stopped => simp

theorem mem_authority
    (charMem : c ∈ (text.filter (!isTabOrNewline ·)).takeWhile (!endsAuthority ·)) :
    c ∈ text.takeWhile (· ≠ '/') := by
  induction text with
  | nil => cases charMem
  | cons first text ih =>
    by_cases slash : first = '/'
    · subst slash
      have here : isTabOrNewline '/' = false := by decide
      have ends : endsAuthority '/' = true := by decide
      simp [here, ends] at charMem
    · rw [takeWhile_cons_of_pos (by simpa using slash)]
      by_cases blank : isTabOrNewline first = true
      · rw [filter_cons_of_neg (by simp [blank])] at charMem
        exact mem_cons_of_mem _ (ih charMem)
      · rw [filter_cons_of_pos (by simpa using blank)] at charMem
        by_cases ends : endsAuthority first = true
        · simp [ends] at charMem
        · rw [takeWhile_cons_of_pos (by simpa using ends)] at charMem
          rcases mem_cons.mp charMem with rfl | later
          · exact mem_cons_self
          · exact mem_cons_of_mem _ (ih later)

theorem mem_takeWhile_of_starts {longer : List Char} {p : Char → Bool} (starts : text <+: longer)
    (charMem : c ∈ text.takeWhile p) : c ∈ longer.takeWhile p := by
  rcases starts with ⟨rest, rfl⟩
  rw [takeWhile_append]
  split
  case isTrue whole => exact mem_append_left _ (takeWhile_subset p charMem)
  case isFalse part => exact charMem

def isHttpStart (start : List Char) : Prop :=
  start = "http://".toList ∨ start = "https://".toList

/-- Characters that a client takes for part of the authority, as they are. -/
def inAuthority (c : Char) : Prop :=
  32 < c.toNat ∧ endsAuthority c = false ∧ c ≠ '@'

theorem not_isTabOrNewline (visible : 32 < c.toNat) : isTabOrNewline c = false := by
  simp [isTabOrNewline]
  refine ⟨⟨?_, ?_⟩, ?_⟩
  all_goals
    rintro rfl
    exact absurd visible (by decide)

theorem afterScheme_of_start (http : isHttpStart start) :
    afterScheme (start ++ text) = some ('/' :: '/' :: text) := by
  rcases http with rfl | rfl <;> rfl

theorem cleanUrl_of_front (http : isHttpStart start) (present : front ≠ [])
    (visible : ∀ c ∈ front, 32 < c.toNat) : cleanUrl (start ++ front ++ tail) =
      start ++ front ++ (tail.rdropWhile isC0OrSpace).filter (!isTabOrNewline ·) := by
  have begins : (start ++ front ++ tail).dropWhile isC0OrSpace = start ++ front ++ tail := by
    rcases http with rfl | rfl <;> rfl
  have ends : (start ++ front).getLast? = some (front.getLast present) := by
    rw [getLast?_append_of_ne_nil _ present, getLast?_eq_some_getLast]
  have stays : isC0OrSpace (front.getLast present) = false := by
    have last := visible _ (getLast_mem present)
    simp only [isC0OrSpace, decide_eq_false_iff_not]
    omega
  have startKept : start.filter (!isTabOrNewline ·) = start := by
    rcases http with rfl | rfl <;> rfl
  have frontKept : front.filter (!isTabOrNewline ·) = front := by
    rw [filter_eq_self]
    intro c charMem
    rw [not_isTabOrNewline (visible c charMem)]
    rfl
  rw [cleanUrl, begins, rdropWhile_append _ _ ends stays, filter_append, filter_append,
    startKept, frontKept]

theorem urlAuthority_of_front (present : front ≠ [])
    (plain : ∀ c ∈ front, endsAuthority c = false) :
    urlAuthority ('/' :: '/' :: (front ++ tail)) = front ++ tail.takeWhile (!endsAuthority ·) := by
  rcases exists_cons_of_ne_nil present with ⟨first, others, rfl⟩
  have notSlash : isSlash first = false := by
    have ends := plain first mem_cons_self
    simp [endsAuthority] at ends
    exact ends.1.1
  have slashes : ('/' :: '/' :: (first :: others ++ tail)).dropWhile isSlash =
      first :: others ++ tail := by
    have slash : isSlash '/' = true := by decide
    simp [slash, notSlash]
  rw [urlAuthority, slashes, takeWhile_append_of_pos]
  intro c charMem
  rw [plain c charMem]
  rfl

theorem authority_of_front (http : isHttpStart start) (present : front ≠ [])
    (plain : ∀ c ∈ front, inAuthority c) (visible : ∀ c, tail.head? = some c → 32 < c.toNat)
    (noUser : '@' ∉ tail.takeWhile (· ≠ '/')) :
    ∃ rest more, afterScheme (cleanUrl (start ++ front ++ tail)) = some rest ∧
      (urlAuthority rest).rtakeWhile (· ≠ '@') = front ++ more ∧
      (more = [] ∨ ∃ c later later', tail = c :: later ∧ endsAuthority c = false ∧
        more = c :: later') := by
  let kept := (tail.rdropWhile isC0OrSpace).filter (!isTabOrNewline ·)
  refine ⟨'/' :: '/' :: (front ++ kept), kept.takeWhile (!endsAuthority ·), ?_, ?_, ?_⟩
  · rw [cleanUrl_of_front http present fun c charMem => (plain c charMem).1, append_assoc]
    exact afterScheme_of_start http
  · rw [urlAuthority_of_front present fun c charMem => (plain c charMem).2.1,
      rtakeWhile_eq_self_iff]
    intro c charMem
    simp
    rintro rfl
    rcases mem_append.mp charMem with inFront | later
    · exact (plain '@' inFront).2.2 rfl
    · exact noUser (mem_takeWhile_of_starts (List.rdropWhile_prefix _ _) (mem_authority later))
  · rcases tail with _ | ⟨c, later⟩
    · exact .inl rfl
    have shown := visible c rfl
    have stays : isC0OrSpace c = false := by
      simp [isC0OrSpace]
      omega
    have same : kept = c :: (later.rdropWhile isC0OrSpace).filter (!isTabOrNewline ·) := by
      have first : (c :: later).rdropWhile isC0OrSpace = c :: later.rdropWhile isC0OrSpace :=
        @rdropWhile_append _ isC0OrSpace [c] later c rfl stays
      show ((c :: later).rdropWhile isC0OrSpace).filter (!isTabOrNewline ·) = _
      rw [first, filter_cons_of_pos (by rw [not_isTabOrNewline shown]; rfl)]
    rw [same]
    by_cases ends : endsAuthority c = true
    · rw [takeWhile_cons_of_neg (by simp [ends])]
      exact .inl rfl
    · rw [takeWhile_cons_of_pos (by simpa using ends)]
      exact .inr ⟨c, later, _, rfl, by simpa using ends, rfl⟩

theorem inAuthority_of_code (visible : 32 < c.toNat) (other : c.toNat ∉ [35, 47, 63, 64, 92]) :
    inAuthority c := by
  refine ⟨visible, ?_, ?_⟩
  · simp [endsAuthority, isSlash]
    refine ⟨⟨⟨?_, ?_⟩, ?_⟩, ?_⟩
    all_goals
      rintro rfl
      exact other (by decide)
  · rintro rfl
    exact other (by decide)

theorem inAuthority_of_inLiteral (literal : inLiteral c) : inAuthority c := by
  rcases literal with digit | rfl | rfl
  · have codes := code_of_digit digit
    apply inAuthority_of_code
    · omega
    · simp
      omega
  · exact inAuthority_of_code (by decide) (by decide)
  · exact inAuthority_of_code (by decide) (by decide)

theorem httpHost_eq_some {url rest : List Char} {host : UrlHost}
    (scheme : afterScheme (cleanUrl url) = some rest) (read : httpHost domains url = some host) :
    parseHost domains (splitPort false ((urlAuthority rest).rtakeWhile (· ≠ '@'))).1 =
      some host := by
  rw [httpHost, scheme] at read
  simp only [bind_some, ite_none_right_eq_some] at read
  exact read.2

/-- In brackets after the slashes the client finds what the strict reading does, or nothing. -/
theorem httpHost_bracket {domains : DomainToAscii} {start text tail : List Char}
    {address found : IpAddr} (http : isHttpStart start) (parsed : IpAddr.parse text = some address)
    (closed : ∀ c, tail.head? = some c → c = ']' ∨ c = '/')
    (noUser : '@' ∉ tail.takeWhile (· ≠ '/'))
    (host : httpHost domains (start ++ '[' :: text ++ tail) = some (.ip found)) :
    found = address := by
  have literal := parse_chars parsed
  have unclosed : ']' ∉ text := fun close => absurd (literal ']' close) (by decide)
  have plain : ∀ c ∈ '[' :: text, inAuthority c := by
    intro c charMem
    rcases mem_cons.mp charMem with rfl | inText
    · exact inAuthority_of_code (by decide) (by decide)
    · exact inAuthority_of_inLiteral (literal c inText)
  have visible : ∀ c, tail.head? = some c → 32 < c.toNat := by
    intro c first
    rcases closed c first with rfl | rfl <;> decide
  rcases authority_of_front http (cons_ne_nil '[' text) plain visible noUser with
    ⟨rest, more, scheme, authority, shape⟩
  have read := httpHost_eq_some scheme host
  rw [authority, cons_append] at read
  have inside : splitPort false ('[' :: (text ++ more)) =
      ('[' :: (text ++ (splitPort true more).1), (splitPort true more).2) := by
    rw [splitPort, if_neg (by decide)]
    simp only [if_true, splitPort_inside unclosed]
  rw [inside] at read
  rcases shape with rfl | ⟨c, later, later', rfl, inside', rfl⟩
  · -- Without a closing bracket the client refuses the host.
    simp [splitPort, parseHost] at read
    exact absurd (mem_of_getLast? read.1) unclosed
  · rcases closed c rfl with rfl | rfl
    · have close : splitPort true (']' :: later') =
          (']' :: (splitPort false later').1, (splitPort false later').2) := by
        rw [splitPort, if_neg (by decide)]
        rfl
      rw [close] at read
      exact parseHost_bracket parsed read
    · exact absurd inside' (by decide)

/-- Right after the slashes the client finds what the strict reading does, or nothing. -/
theorem httpHost_plain (http : isHttpStart start) (parsed : IpAddr.parse text = some address)
    (colonFree : ':' ∉ text) (ended : ∀ c, tail.head? = some c → c = ':' ∨ c = '/')
    (noUser : '@' ∉ tail.takeWhile (· ≠ '/'))
    (host : httpHost domains (start ++ text ++ tail) = some (.ip found)) : found = address := by
  have literal := parse_chars parsed
  have present : text ≠ [] := by
    rintro rfl
    cases parsed
  have visible : ∀ c, tail.head? = some c → 32 < c.toNat := by
    intro c first
    rcases ended c first with rfl | rfl <;> decide
  rcases authority_of_front http present
    (fun c charMem => inAuthority_of_inLiteral (literal c charMem)) visible noUser with
    ⟨rest, more, scheme, authority, shape⟩
  have read := httpHost_eq_some scheme host
  have outside : ∀ c ∈ text, c ≠ ':' ∧ c ≠ '[' := by
    intro c charMem
    constructor
    · rintro rfl
      exact colonFree charMem
    · rintro rfl
      exact absurd (literal '[' charMem) (by decide)
  have hostText : (splitPort false more).1 = [] := by
    rcases shape with rfl | ⟨c, later, later', rfl, inside', rfl⟩
    · rfl
    · rcases ended c rfl with rfl | rfl
      · rfl
      · exact absurd inside' (by decide)
  rw [authority, splitPort_outside outside, hostText, append_nil,
    parseHost_plain parsed colonFree, Option.some.injEq, UrlHost.ip.injEq] at read
  exact read.symm

end Foundation
