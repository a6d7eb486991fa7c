import Mobula.Foundation.UrlLiterals
import Mobula.Registry

/-!
# Addresses that a validated registry can name

The validation of the registry cuts the host out of a base URL by hand and reads it strictly;
the HTTP client goes by the rules for URLs, which accept more. Where the validation finds a
literal, the client finds the same one.
-/

namespace Mobula

open Foundation List IpAddr Nat

/-- The blocks 169.254.0.0/16, 100.64.0.0/10 and fe80::/10. -/
def InDeniedRange (address : IpAddr) : Prop :=
  address.InV4Block (169 * 2 ^ 24 + 254 * 2 ^ 16) 16 ∨
    address.InV4Block (100 * 2 ^ 24 + 64 * 2 ^ 16) 10 ∨ address.InV6Block 0xfe80 10

instance : DecidablePred InDeniedRange := fun address => by
  unfold InDeniedRange
  infer_instance

theorem and_mask {value : ℕ} (small : value < 2 ^ 16) : value &&& 0xffc0 = (value >>> 6) <<< 6 := by
  have mask : ∀ bit < 16, testBit 0xffc0 bit = decide (6 ≤ bit) := by decide
  apply eq_of_testBit_eq
  intro bit
  rw [testBit_and, testBit_shiftLeft, testBit_shiftRight]
  by_cases high : 6 ≤ bit
  · have same : 6 + (bit - 6) = bit := by omega
    rw [same]
    by_cases within : bit < 16
    · rw [mask bit within, Bool.and_comm]
    · have clear : value.testBit bit = false :=
        testBit_lt_two_pow (small.trans_le (Nat.pow_le_pow_right (by decide) (by omega)))
      rw [clear, Bool.false_and, Bool.and_false]
  · rw [mask bit (by omega)]
    simp [high]

theorem masked_iff {group : UInt16} :
    group &&& 0xffc0 = 0xfe80 ↔ group.toNat / 2 ^ 6 = 0xfe80 / 2 ^ 6 := by
  have masked := and_mask group.toNat_lt
  rw [shiftRight_eq_div_pow, shiftLeft_eq] at masked
  rw [← UInt16.toNat_inj, UInt16.toNat_and]
  show group.toNat &&& 0xffc0 = 0xfe80 ↔ _
  rw [masked]
  omega

theorem isDeniedSouthboundIp_iff {address : IpAddr} :
    isDeniedSouthboundIp address = true ↔ InDeniedRange address := by
  cases address with
  | v4 a b c d =>
    have smallA := a.toNat_lt
    have smallB := b.toNat_lt
    have smallC := c.toNat_lt
    have smallD := d.toNat_lt
    simp [isDeniedSouthboundIp, InDeniedRange, InV4Block, InV6Block, v4Value,
      ← UInt8.toNat_inj, UInt8.le_iff_toNat_le, UInt8.lt_iff_toNat_lt, UInt8.toNat_ofNat]
    omega
  | v6 a b c d e f g h =>
    simp [isDeniedSouthboundIp, InDeniedRange, InV4Block, InV6Block]
    exact masked_iff

variable {start rest : List Char} {endpoint : ClusterEndpoint}

theorem splitOnce_of_start (http : isHttpStart start) :
    (splitOnce "://".toList (start ++ rest)).map (·.2) = some rest := by
  rcases http with rfl | rfl <;> rfl

/-- What a URL that passed its checks looks like. -/
structure UrlAccepted (url : String) (start rest : List Char) : Prop where
  http : isHttpStart start
  shape : url.toList = start ++ rest
  authority : authorityOf url = rest.takeWhile (· ≠ '/')
  noUser : '@' ∉ rest.takeWhile (· ≠ '/')

theorem urlAccepted_of_validateUrl {allowInsecureTransport : Bool}
    (accepted : endpoint.validateUrl allowInsecureTransport = .ok ()) :
    endpoint.screenedIp.any isDeniedSouthboundIp = false ∧
      ∃ start rest, UrlAccepted endpoint.apiBaseUrl start rest := by
  simp only [ClusterEndpoint.validateUrl, Fallible.bind_eq_ok, Fallible.reject_eq_ok] at accepted
  rcases accepted with ⟨_, scheme, _, _, _, noUser, _, _, _, allowed, _⟩
  refine ⟨allowed, ?_⟩
  have starts : ∃ start rest, isHttpStart start ∧ endpoint.apiBaseUrl.toList = start ++ rest := by
    rw [Bool.and_eq_false_iff, Bool.not_eq_false_eq_eq_true, Bool.not_eq_false_eq_eq_true] at scheme
    rcases scheme with https | http
    · rcases isPrefixOf_iff_prefix.mp https with ⟨rest, shape⟩
      exact ⟨_, rest, .inr rfl, shape.symm⟩
    · rcases isPrefixOf_iff_prefix.mp http with ⟨rest, shape⟩
      exact ⟨_, rest, .inl rfl, shape.symm⟩
  rcases starts with ⟨start, rest, http, shape⟩
  have authority : authorityOf endpoint.apiBaseUrl = rest.takeWhile (· ≠ '/') := by
    rw [authorityOf, shape, splitOnce_of_start http, Option.getD_some]
  refine ⟨start, rest, http, shape, authority, ?_⟩
  rw [← authority]
  simpa using noUser

theorem head?_dropWhile_eq {text : List Char} {stop c : Char}
    (first : (text.dropWhile (· ≠ stop)).head? = some c) : c = stop := by
  have stops := head?_dropWhile_not (fun c => decide (c ≠ stop)) text
  rw [first] at stops
  simpa using stops

theorem split_rest {front more : List Char} (cut : rest.takeWhile (· ≠ '/') = front ++ more)
    (noUser : '@' ∉ rest.takeWhile (· ≠ '/')) :
    ∃ tail, rest = front ++ tail ∧ '@' ∉ tail.takeWhile (· ≠ '/') ∧
      ∀ c, tail.head? = some c → more.head? = some c ∨ c = '/' := by
  have whole : rest = front ++ (more ++ rest.dropWhile (· ≠ '/')) := by
    rw [← append_assoc, ← cut, takeWhile_append_dropWhile]
  refine ⟨more ++ rest.dropWhile (· ≠ '/'), whole, ?_, ?_⟩
  · intro user
    apply noUser
    have inFront : ∀ c ∈ front, decide (c ≠ '/') = true := by
      intro c charMem
      have inCut : c ∈ rest.takeWhile (· ≠ '/') := by
        rw [cut]
        exact mem_append_left _ charMem
      have holds := mem_takeWhile_imp inCut
      exact holds
    rw [whole, takeWhile_append_of_pos inFront]
    exact mem_append_right _ user
  · intro c first
    rcases more with _ | ⟨next, others⟩
    · exact .inr (head?_dropWhile_eq first)
    · exact .inl first

/-- The client finds the literal that the validation finds, or no address. -/
theorem client_agrees {domains : DomainToAscii} {screened found : IpAddr}
    (accepted : UrlAccepted endpoint.apiBaseUrl start rest)
    (literal : endpoint.screenedIp = some screened)
    (client : httpHost domains endpoint.apiBaseUrl.toList = some (.ip found)) :
    found = screened := by
  rw [ClusterEndpoint.screenedIp, accepted.authority] at literal
  rw [accepted.shape] at client
  unfold authorityHost at literal
  split at literal
  case h_1 inner bracket =>
    have cut : rest.takeWhile (· ≠ '/') =
        '[' :: inner.takeWhile (· ≠ ']') ++ inner.dropWhile (· ≠ ']') := by
      rw [bracket, cons_append, takeWhile_append_dropWhile]
    rcases split_rest cut accepted.noUser with ⟨tail, rfl, noUser, heads⟩
    rw [← append_assoc] at client
    refine httpHost_bracket accepted.http literal ?_ noUser client
    intro c first
    rcases heads c first with closing | slash
    · exact .inl (head?_dropWhile_eq closing)
    · exact .inr slash
  case h_2 plain =>
    have cut : rest.takeWhile (· ≠ '/') = (rest.takeWhile (· ≠ '/')).takeWhile (· ≠ ':') ++
          (rest.takeWhile (· ≠ '/')).dropWhile (· ≠ ':') := by
      rw [takeWhile_append_dropWhile]
    rcases split_rest cut accepted.noUser with ⟨tail, shape, noUser, heads⟩
    rw [shape, ← append_assoc] at client
    refine httpHost_plain accepted.http literal ?_ ?_ noUser client
    · intro colon
      have stopped := mem_takeWhile_imp colon
      simp at stopped
    · intro c first
      rcases heads c first with colon | slash
      · exact .inl (head?_dropWhile_eq colon)
      · exact .inr slash

/--
No entry of an accepted registry leads the client to a denied address iff none
does so in one of two ways: by an IPv6 literal that stands for an IPv4 address, or
by a host that the validation does not read as a literal.
-/
theorem registry_screen_iff (domains : DomainToAscii) {registry : ClusterRegistry}
    {allowInsecureTransport : Bool} {endpoint : ClusterEndpoint}
    (accepted : registry.validate allowInsecureTransport = .ok ())
    (listed : endpoint ∈ registry.clusters) :
    (∀ address, httpHost domains endpoint.apiBaseUrl.toList = some (.ip address) →
        ¬ InDeniedRange address.denoted) ↔
      ¬ ∃ address, httpHost domains endpoint.apiBaseUrl.toList = some (.ip address) ∧
        (address.isMapped = true ∨ endpoint.screenedIp = none) ∧
          InDeniedRange address.denoted := by
  have checked := ClusterRegistry.validateUrl_of_validateFrom accepted endpoint listed
  rcases urlAccepted_of_validateUrl checked with ⟨allowed, start, rest, url⟩
  constructor
  · rintro outside ⟨address, client, _, denied⟩
    exact outside address client denied
  · intro unhidden address client denied
    apply unhidden
    refine ⟨address, client, ?_, denied⟩
    rcases literal : endpoint.screenedIp with _ | screened
    · exact .inr rfl
    left
    by_contra plain
    simp at plain
    -- An address that is not mapped was screened as the one that the client finds.
    have same := client_agrees url literal client
    rw [denoted_of_not_isMapped plain, same, ← isDeniedSouthboundIp_iff] at denied
    rw [literal, Option.any_some, denied] at allowed
    cases allowed

def privateRegistry : ClusterRegistry :=
  ⟨[⟨"demo", "demo.ray.example.com", "http://10.0.0.5:8265", none⟩]⟩

/-- The client is led to the private address, which is not denied. -/
theorem registry_screen_of_private_address :
    privateRegistry.validate false = .ok () ∧
      ∀ address, httpHost asciiDomains "http://10.0.0.5:8265".toList = some (.ip address) →
        ¬ InDeniedRange address.denoted := by
  have accepted : privateRegistry.validate false = .ok () := by decide +kernel
  refine ⟨accepted, (registry_screen_iff asciiDomains accepted mem_cons_self).mpr ?_⟩
  rintro ⟨address, client, hidden, _⟩
  have found : httpHost asciiDomains "http://10.0.0.5:8265".toList =
      some (.ip (.v4 10 0 0 5)) := by decide +kernel
  have same : v4 10 0 0 5 = address := by
    simpa using found.symm.trans client
  subst same
  rcases hidden with mapped | unread
  · cases mapped
  · exact absurd unread (by decide +kernel)

/-- Spellings of a cloud metadata address that the validation does not refuse. -/
def sneakyRegistry : ClusterRegistry :=
  ⟨[⟨"mapped", "a.ray.example.com", "http://[::ffff:169.254.169.254]:8265", none⟩,
    ⟨"decimal", "b.ray.example.com", "http://2852039166:8265", none⟩,
    ⟨"query", "c.ray.example.com", "http://169.254.169.254?x", none⟩]⟩

/-- A registry is accepted whose clusters are all at a cloud metadata address. -/
theorem metadata_address_accepted :
    sneakyRegistry.validate false = .ok () ∧
      ∀ endpoint ∈ sneakyRegistry.clusters,
        ∃ address ∈ [IpAddr.v4 169 254 169 254, .v6 0 0 0 0 0 0xffff 0xa9fe 0xa9fe],
          httpHost asciiDomains endpoint.apiBaseUrl.toList = some (.ip address) ∧
            address.denoted = .v4 169 254 169 254 ∧ InDeniedRange address.denoted := by
  decide +kernel

end Mobula
