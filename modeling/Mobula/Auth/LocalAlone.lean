import Mobula.Auth.Local
import Mobula.Provision.Demo

/-!
# Local authentication running alone

What login, the issue of a token and the check of a token do to the users and
tokens when nothing else runs in between.
-/

namespace Mobula

open Foundation Prog Table Attempt Within

variable {Provider α β : Type} {platform : Platform Provider} {bcrypt : Bcrypt} {thread : ℕ}
  {state final : AuthState Provider}

structure SameRows (before after : Credentials) : Prop where
  users : after.users = before.users
  tokens : after.tokens = before.tokens

variable {value : α} {result : Except LocalAuthError β}
  {username password hash label presented : String} {held before after : Credentials}
  {record : ApiTokenRecord} {minted : MintedToken} {expiresAt : ℕ} {program : AuthProgram α}
  {auth : LocalAuthenticator}

theorem of_perform {call : AuthCall} {rest : call.Res → AuthProgram α}
    (ran : (call.perform >>= rest).Yields (authMachine platform bcrypt thread) state value final) :
    (rest (execCredentials bcrypt call state.2 state.1.now).1).Yields
      (authMachine platform bcrypt thread)
      (state.1.afterReading call.stamps, (execCredentials bcrypt call state.2 state.1.now).2)
      value final := by
  rcases ran.of_invoke with ⟨answer, middle, answered, continued⟩
  cases answered
  exact continued

theorem of_nowUnix {rest : ℕ → AuthProgram α}
    (ran : (AuthCalls.nowUnix >>= rest).Yields (authMachine platform bcrypt thread) state value
      final) :
    (rest state.1.now).Yields (authMachine platform bcrypt thread)
      (state.1.afterReading true, state.2) value final := by
  rcases Yields.of_invoke ran with ⟨now, middle, read, continued⟩
  cases read
  exact continued

theorem of_orBackend {operation : AuthProgram (StoreResult α)} {rest : α → LocalAuth β}
    (ran : (orBackend operation >>= rest).run.Yields (authMachine platform bcrypt thread) state
      result final) :
    (∃ failure message, operation.Yields (authMachine platform bcrypt thread) state
        (.error failure) final ∧ result = .error (.backend message)) ∨
      ∃ value middle,
        operation.Yields (authMachine platform bcrypt thread) state (.ok value) middle ∧
          (rest value).run.Yields (authMachine platform bcrypt thread) middle result final := by
  rcases of_bind ran with ⟨failure, began, rfl⟩ | ⟨value, middle, began, continued⟩
  · rcases of_lift began with ⟨answer, after, operated, ended⟩
    cases answer with
    | error refused =>
      rcases ended.of_ret with ⟨same, rfl⟩
      cases same
      exact .inl ⟨refused, _, operated, rfl⟩
    | ok value => cases ended.of_ret.1
  · rcases of_lift began with ⟨answer, after, operated, ended⟩
    rcases answer with refused | answered
    · cases ended.of_ret.1
    rcases ended.of_ret with ⟨same, rfl⟩
    cases same
    exact .inr ⟨value, _, operated, continued⟩

theorem of_getLocalUser {rest : Option LocalUserRecord → LocalAuth β}
    (ran : (orBackend (AuthCalls.getLocalUser username) >>= rest).run.Yields
      (authMachine platform bcrypt thread) state result final) :
    (rest (state.2.users.find? username)).run.Yields (authMachine platform bcrypt thread) state
      result final := by
  rcases of_orBackend ran with ⟨_, _, operated, _⟩ | ⟨found, middle, operated, continued⟩
  · cases (of_perform operated).of_ret.1
  · rcases (of_perform operated).of_ret with ⟨same, rfl⟩
    cases same
    exact continued

def Bcrypt.accepts (bcrypt : Bcrypt) (text hash : String) : Bool :=
  match bcrypt.verify text hash with
  | .ok accepted => accepted
  | .error _ => false

theorem verifyPassword_spec {result : Except LocalAuthError Bool}
    (ran : (verifyPassword password hash).run.Yields (authMachine platform bcrypt thread) state
      result final) :
    final = state ∧
      ((∃ message, result = .error (.backend message)) ∨
        result = .ok (bcrypt.accepts password hash)) := by
  rcases of_lift ran with ⟨answer, after, asked, ended⟩
  rcases (of_perform asked).of_ret with ⟨rfl, rfl⟩
  unfold Bcrypt.accepts
  cases answered : bcrypt.verify password hash with
  | ok accepted =>
    simp only [execCredentials, answered] at ended
    rcases ended.of_ret with ⟨rfl, rfl⟩
    exact ⟨rfl, .inr rfl⟩
  | error failure =>
    simp only [execCredentials, answered] at ended
    cases failure with
    | task message =>
      rcases ended.of_ret with ⟨rfl, rfl⟩
      exact ⟨rfl, .inl ⟨_, rfl⟩⟩
    | bcrypt message =>
      rcases ended.of_ret with ⟨rfl, rfl⟩
      exact ⟨rfl, .inr rfl⟩

theorem of_verifyPassword {rest : Bool → LocalAuth β}
    (ran : (verifyPassword password hash >>= rest).run.Yields (authMachine platform bcrypt thread)
      state result final) :
    (∃ message, result = .error (.backend message) ∧ final = state) ∨
      (rest (bcrypt.accepts password hash)).run.Yields (authMachine platform bcrypt thread) state
        result final := by
  rcases of_bind ran with ⟨failure, began, rfl⟩ | ⟨accepted, middle, began, continued⟩
  · rcases verifyPassword_spec began with ⟨rfl, ⟨message, same⟩ | same⟩
    · cases same
      exact .inl ⟨message, rfl, rfl⟩
    · cases same
  · rcases verifyPassword_spec began with ⟨rfl, ⟨message, same⟩ | same⟩
    · cases same
    · cases same
      exact .inr continued

theorem hashPassword_spec {result : Except LocalAuthError String}
    (ran : (hashPassword password).run.Yields (authMachine platform bcrypt thread) state result
      final) :
    SameRows state.2 final.2 ∧
      ((∃ message, result = .error (.backend message)) ∨
        ∃ salt hash, bcrypt.hash salt password = .ok hash ∧ result = .ok hash) := by
  rcases of_lift ran with ⟨answer, after, asked, ended⟩
  rcases (of_perform asked).of_ret with ⟨rfl, rfl⟩
  cases answered : bcrypt.hash (state.2.salts 0) password with
  | ok hash =>
    simp only [execCredentials, answered] at ended
    rcases ended.of_ret with ⟨rfl, rfl⟩
    exact ⟨⟨rfl, rfl⟩, .inr ⟨_, hash, answered, rfl⟩⟩
  | error failure =>
    simp only [execCredentials, answered] at ended
    cases failure with
    | task message =>
      rcases ended.of_ret with ⟨rfl, rfl⟩
      exact ⟨⟨rfl, rfl⟩, .inl ⟨_, rfl⟩⟩
    | bcrypt message =>
      rcases ended.of_ret with ⟨rfl, rfl⟩
      exact ⟨⟨rfl, rfl⟩, .inl ⟨_, rfl⟩⟩

theorem createApiToken_created (created : (held.createApiToken record).1 = .ok ()) :
    held.tokens.find? record.lookupPrefix = none ∧
      (held.createApiToken record).2.users = held.users ∧
      (held.createApiToken record).2.tokens = held.tokens.insert record := by
  unfold Credentials.createApiToken at created ⊢
  rcases found : held.tokens.find? record.lookupPrefix with _ | taken
  · exact ⟨rfl, rfl, rfl⟩
  · simp [found] at created

theorem createApiToken_refused {failure : StoreError}
    (refused : (held.createApiToken record).1 = .error failure) :
    (held.createApiToken record).2 = held := by
  unfold Credentials.createApiToken at refused ⊢
  rcases found : held.tokens.find? record.lookupPrefix with _ | taken
  · simp [found] at refused
  · rfl

structure Gains (bcrypt : Bcrypt) (before after : Credentials) (minted : MintedToken)
    (username : String) (expiresAt : ℕ) (record : ApiTokenRecord) : Prop where
  added : after.tokens = before.tokens.insert record
  fresh : before.tokens.find? record.lookupPrefix = none
  found : tokenPrefix minted.token = some record.lookupPrefix
  hashed : ∃ salt, bcrypt.hash salt minted.token = .ok record.tokenHash
  lookupPrefix : record.lookupPrefix = minted.lookupPrefix
  username : record.username = username
  expiresAt : record.expiresAt = expiresAt
  revoked : record.revoked = false

theorem Gains.of_tokens {middle : Credentials}
    (gains : Gains bcrypt middle after minted username expiresAt record)
    (kept : middle.tokens = before.tokens) :
    Gains bcrypt before after minted username expiresAt record :=
  { gains with
    added := by rw [gains.added, kept]
    fresh := by rw [← kept, gains.fresh] }

theorem Gains.find? (gains : Gains bcrypt before after minted username expiresAt record) :
    after.tokens.find? minted.lookupPrefix = some record := by
  rw [gains.added, find?_insert, if_pos gains.lookupPrefix.symm]

/-- What storing a token changes: the token is added, or the attempt failed and nothing is. -/
def Stores (bcrypt : Bcrypt) (before after : Credentials) (username : String) (expiresAt : ℕ) :
    Except LocalAuthError MintedToken → Prop
  | .ok minted => ∃ record, Gains bcrypt before after minted username expiresAt record
  | .error _ => after.tokens = before.tokens

theorem storeToken_spec {result : Except LocalAuthError MintedToken}
    (ran : (storeToken username label expiresAt).run.Yields (authMachine platform bcrypt thread)
      state result final) :
    final.2.users = state.2.users ∧ Stores bcrypt state.2 final.2 username expiresAt result := by
  rcases of_lift ran with ⟨parts, _, drawn, rest⟩
  rcases (of_perform drawn).of_ret with ⟨rfl, rfl⟩
  rcases of_bind rest with ⟨failure, began, rfl⟩ | ⟨hash, hashedAt, began, rest⟩
  · rcases hashPassword_spec began with ⟨same, _⟩
    exact ⟨same.users, same.tokens⟩
  · rcases hashPassword_spec began with ⟨same, ⟨_, impossible⟩ | ⟨salt, _, hashed, answer⟩⟩
    · cases impossible
    cases answer
    rcases of_lift rest with ⟨createdAt, _, read, rest⟩
    rcases (of_nowUnix read).of_ret with ⟨rfl, rfl⟩
    rcases of_orBackend rest with ⟨_, _, operated, rfl⟩ | ⟨_, _, operated, rest⟩
    · rcases (of_perform operated).of_ret with ⟨refused, rfl⟩
      have kept := createApiToken_refused refused.symm
      exact ⟨(congrArg Credentials.users kept).trans same.users,
        (congrArg Credentials.tokens kept).trans same.tokens⟩
    · rcases (of_perform operated).of_ret with ⟨created, rfl⟩
      rcases createApiToken_created created.symm with ⟨fresh, users, added⟩
      rcases rest.of_ret with ⟨rfl, rfl⟩
      rw [same.tokens] at fresh added
      exact ⟨users.trans same.users, _, added, fresh, tokenPrefix_token, ⟨salt, hashed⟩, rfl, rfl,
        rfl, rfl⟩

def keepsTokens : Call ⊕ AuthCall → Bool
  | .inl _ => true
  | .inr (.createApiToken _) => false
  | .inr (.revokeApiToken _ _) => false
  | .inr (.touchApiToken _ _) => false
  | .inr _ => true

theorem changeUser_tokens {change : LocalUserRecord → LocalUserRecord} :
    (held.changeUser username change).2.tokens = held.tokens := by
  unfold Credentials.changeUser
  split <;> rfl

theorem createLocalUser_tokens {email : Option String}
    {passwordHash : String} {role : LocalRole} {now : ℕ} :
    (held.createLocalUser username email passwordHash role now).2.tokens = held.tokens := by
  unfold Credentials.createLocalUser
  split <;> rfl

theorem authMachine_tokens {call : Call ⊕ AuthCall} {before after : AuthState Provider}
    {answer : Sum.elim Call.Res AuthCall.Res call} (keeps : keepsTokens call = true)
    (answered : authMachine platform bcrypt thread call before = some (answer, after)) :
    after.2.tokens = before.2.tokens := by
  cases call with
  | inl lower =>
    rcases Option.map_eq_some_iff.mp answered with ⟨_, _, same⟩
    cases same
    rfl
  | inr upper =>
    cases answered
    cases upper with
    | createLocalUser => exact createLocalUser_tokens
    | setLocalUserPassword => exact changeUser_tokens
    | setLocalUserRole => exact changeUser_tokens
    | setLocalUserDisabled => exact changeUser_tokens
    | setLoginLockout => exact changeUser_tokens
    | createApiToken => cases keeps
    | revokeApiToken => cases keeps
    | touchApiToken => cases keeps
    | _ => rfl

theorem tokens_of_within (within : program.Within fun call => keepsTokens call = true)
    (ran : program.Yields (authMachine platform bcrypt thread) state value final) :
    final.2.tokens = state.2.tokens := by
  apply within.yields_invariant (fun reached => reached.2.tokens = state.2.tokens) _ ran rfl
  intro call before answer after keeps answered kept
  exact (authMachine_tokens keeps answered).trans kept

theorem recordLoginFailure_within (username : String) :
    (recordLoginFailure username).Within fun call => keepsTokens call = true := by
  refine invoke (by rfl) fun answer => ?_
  rcases answer with failure | found
  · trivial
  rcases found with _ | user
  · trivial
  exact invoke (by rfl) fun now => within_invoke (by rfl)

theorem recordLoginSuccess_within (username : String) :
    (recordLoginSuccess username).Within fun call => keepsTokens call = true :=
  within_invoke (by rfl)

theorem login_spec {result : Except LocalAuthError LoginOutcome}
    (ran : (auth.login username password).run.Yields (authMachine platform bcrypt thread) state
      result final) :
    match result with
    | .ok outcome =>
      ∃ record, Gains bcrypt state.2 final.2 outcome.token username outcome.expiresAt record
    | .error _ => final.2.tokens = state.2.tokens := by
  have rest := of_getLocalUser ran
  cases found : state.2.users.find? username with
  | none =>
    rw [found] at rest
    rcases of_verifyPassword rest with ⟨_, rfl, rfl⟩ | thrown
    · rfl
    · rcases thrown.of_ret with ⟨rfl, rfl⟩
      rfl
  | some user =>
    rw [found] at rest
    dsimp only at rest
    split at rest
    case isTrue disabled =>
      rcases of_verifyPassword rest with ⟨_, rfl, rfl⟩ | thrown
      · rfl
      · rcases thrown.of_ret with ⟨rfl, rfl⟩
        rfl
    case isFalse enabled =>
      rcases of_lift rest with ⟨now, _, read, rest⟩
      rcases (of_nowUnix read).of_ret with ⟨rfl, rfl⟩
      split at rest
      case isTrue locked =>
        rcases rest.of_ret with ⟨rfl, rfl⟩
        rfl
      case isFalse unlocked =>
        rcases of_verifyPassword rest with ⟨_, rfl, rfl⟩ | rest
        · rfl
        split at rest
        case isTrue accepted =>
          have clears := recordLoginSuccess_within username
          rcases of_orBackend rest with ⟨_, _, cleared, rfl⟩ | ⟨_, middle, cleared, rest⟩
          · have kept := tokens_of_within clears cleared
            exact kept
          have kept := tokens_of_within clears cleared
          rcases of_bind rest with ⟨_, stored, rfl⟩ | ⟨minted, _, stored, rest⟩
          · exact (storeToken_spec stored).2.trans kept
          · rcases rest.of_ret with ⟨rfl, rfl⟩
            rcases (storeToken_spec stored).2 with ⟨record, gains⟩
            exact ⟨record, gains.of_tokens kept⟩
        case isFalse rejected =>
          have counts := recordLoginFailure_within username
          rcases of_orBackend rest with ⟨_, _, counted, rfl⟩ | ⟨_, _, counted, rest⟩
          · have kept := tokens_of_within counts counted
            exact kept
          · have kept := tokens_of_within counts counted
            rcases rest.of_ret with ⟨rfl, rfl⟩
            exact kept

theorem issueToken_spec {ttlDays : ℕ}
    {result : Except LocalAuthError (MintedToken × ApiTokenRecord)}
    (ran : (auth.issueToken username label ttlDays).run.Yields (authMachine platform bcrypt thread)
      state result final) :
    final.2.users = state.2.users ∧
      match result with
      | .ok (minted, record) =>
        Gains bcrypt state.2 final.2 minted username record.expiresAt record ∧
          ∃ user, state.2.users.find? username = some user ∧ user.disabled = false
      | .error _ => final.2.tokens = state.2.tokens := by
  unfold LocalAuthenticator.issueToken at ran
  split at ran
  case isTrue refused =>
    rcases ran.of_ret with ⟨rfl, rfl⟩
    exact ⟨rfl, rfl⟩
  case isFalse accepted =>
    have rest := of_getLocalUser ran
    cases found : state.2.users.find? username with
    | none =>
      rw [found] at rest
      rcases rest.of_ret with ⟨rfl, rfl⟩
      exact ⟨rfl, rfl⟩
    | some user =>
      rw [found] at rest
      dsimp only at rest
      split at rest
      case isTrue disabled =>
        rcases rest.of_ret with ⟨rfl, rfl⟩
        exact ⟨rfl, rfl⟩
      case isFalse enabled =>
        rcases of_lift rest with ⟨now, _, read, rest⟩
        rcases (of_nowUnix read).of_ret with ⟨rfl, rfl⟩
        rcases of_bind rest with ⟨_, stored, rfl⟩ | ⟨minted, middle, stored, rest⟩
        · exact storeToken_spec stored
        rcases storeToken_spec stored with ⟨users, record, gains⟩
        rcases of_orBackend rest with ⟨_, _, operated, rfl⟩ | ⟨_, _, operated, rest⟩
        · cases (of_perform operated).of_ret.1
        rcases (of_perform operated).of_ret with ⟨answer, rfl⟩
        cases answer.trans (congrArg Except.ok gains.find?)
        rcases rest.of_ret with ⟨rfl, rfl⟩
        exact ⟨users, { gains with expiresAt := rfl }, user, rfl, Bool.eq_false_iff.mpr enabled⟩

/-- The row and the user behind a token that was accepted. -/
structure Accepts (bcrypt : Bcrypt) (state : AuthState Provider) (presented : String)
    (record : ApiTokenRecord) (user : LocalUserRecord) : Prop where
  lookup : tokenPrefix presented = some record.lookupPrefix
  stored : record ∈ state.2.tokens.rows
  valid : record.revoked = false
  unexpired : state.1.now < record.expiresAt
  verified : bcrypt.accepts presented record.tokenHash = true
  owner : state.2.users.find? record.username = some user
  enabled : user.disabled = false

theorem authenticateToken_accepts {identity : Identity}
    (ran : (authenticateToken presented).Yields (authMachine platform bcrypt thread) state
      (some identity) final) :
    ∃ record user, Accepts bcrypt state presented record user ∧ identity = identityOf user := by
  unfold authenticateToken at ran
  split at ran
  case h_1 shapeless => cases ran.of_ret.1
  case h_2 lookupPrefix lookup =>
    have rest := of_perform ran
    dsimp only [execCredentials] at rest
    cases found : state.2.tokens.find? lookupPrefix with
    | none =>
      rw [found] at rest
      cases rest.of_ret.1
    | some record =>
      rw [found] at rest
      have rest := of_nowUnix rest
      split at rest
      case isTrue refused => cases rest.of_ret.1
      case isFalse current =>
        rcases rest.of_bind with ⟨verdict, _, checked, rest⟩
        rcases verifyPassword_spec checked with ⟨rfl, ⟨_, rfl⟩ | rfl⟩
        · cases rest.of_ret.1
        cases verified : bcrypt.accepts presented record.tokenHash with
        | false =>
          rw [verified] at rest
          cases rest.of_ret.1
        | true =>
          rw [verified] at rest
          have rest := of_perform rest
          dsimp only [execCredentials] at rest
          cases owner : state.2.users.find? record.username with
          | none =>
            rw [owner] at rest
            cases rest.of_ret.1
          | some user =>
            rw [owner] at rest
            dsimp only at rest
            split at rest
            case isTrue disabled => cases rest.of_ret.1
            case isFalse enabled =>
              have rest := of_perform rest
              cases rest.of_ret.1
              simp [not_or] at current
              rcases find?_eq_some_iff.mp found with ⟨stored, rfl⟩
              exact ⟨record, user, ⟨lookup, stored, current.1, current.2, verified, owner,
                Bool.eq_false_iff.mpr enabled⟩, rfl⟩

/-- Every token is one that was there before, revoked or used since at most. -/
def Persists (before after : Table ApiTokenRecord.lookupPrefix) : Prop :=
  ∀ row ∈ after.rows, ∃ old ∈ before.rows, ∃ revoked lastUsedAt,
    row = { old with revoked, lastUsedAt } ∧ (revoked = false → old.revoked = false)

theorem Persists.refl (tokens : Table ApiTokenRecord.lookupPrefix) : Persists tokens tokens :=
  fun row stored => ⟨row, stored, row.revoked, row.lastUsedAt, rfl, id⟩

theorem Persists.trans {first second third : Table ApiTokenRecord.lookupPrefix}
    (earlier : Persists first second) (later : Persists second third) : Persists first third := by
  intro row stored
  rcases later row stored with ⟨_, middleStored, revoked, lastUsedAt, rfl, laterRevoked⟩
  rcases earlier _ middleStored with ⟨old, oldStored, _, _, rfl, earlierRevoked⟩
  exact ⟨old, oldStored, revoked, lastUsedAt, rfl, fun valid => earlierRevoked (laterRevoked valid)⟩

theorem Persists.modify {tokens : Table ApiTokenRecord.lookupPrefix} {lookupPrefix : String}
    {change : ApiTokenRecord → ApiTokenRecord}
    (bounded : ∀ old, ∃ revoked lastUsedAt, change old = { old with revoked, lastUsedAt } ∧
      (revoked = false → old.revoked = false)) :
    Persists tokens (tokens.modify lookupPrefix change) := by
  unfold Table.modify
  split
  case h_1 absent => exact .refl tokens
  case h_2 old found =>
    intro row stored
    rcases mem_insert.mp stored with rfl | ⟨stored, _⟩
    · rcases bounded old with ⟨revoked, lastUsedAt, changed, valid⟩
      exact ⟨old, mem_of_find? found, revoked, lastUsedAt, changed, valid⟩
    · exact Persists.refl tokens row stored

def createsNoToken : Call ⊕ AuthCall → Bool
  | .inr (.createApiToken _) => false
  | _ => true

theorem revokeApiToken_persists (held : Credentials) (lookupPrefix username : String) :
    Persists held.tokens (held.revokeApiToken lookupPrefix username).2.tokens := by
  unfold Credentials.revokeApiToken
  split
  · exact .modify fun old => ⟨true, old.lastUsedAt, rfl, fun impossible => by cases impossible⟩
  · exact .refl _

theorem persists_of_within (within : program.Within fun call => createsNoToken call = true)
    (ran : program.Yields (authMachine platform bcrypt thread) state value final) :
    Persists state.2.tokens final.2.tokens := by
  apply within.yields_invariant (fun reached => Persists state.2.tokens reached.2.tokens) _ ran
    (.refl _)
  intro call before answer after creates answered kept
  apply kept.trans
  cases keeps : keepsTokens call with
  | true =>
    rw [authMachine_tokens keeps answered]
    exact .refl _
  | false =>
    rcases call with _ | auth
    · cases keeps
    cases answered
    cases auth with
    | createApiToken => cases creates
    | revokeApiToken => exact revokeApiToken_persists _ _ _
    | touchApiToken _ now => exact .modify fun old => ⟨old.revoked, some now, rfl, id⟩
    | _ => cases keeps

theorem authenticateToken_persists {identity : Caller}
    (ran : (authenticateToken presented).Yields (authMachine platform bcrypt thread) state
      identity final) : Persists state.2.tokens final.2.tokens := by
  refine persists_of_within ?_ ran
  unfold authenticateToken
  split
  · trivial
  refine invoke (by rfl) fun answer => ?_
  rcases answer with _ | _ | record
  · trivial
  · trivial
  refine invoke (by rfl) fun now => ?_
  split
  · trivial
  refine bind ?_ fun verdict => ?_
  · refine invoke (by rfl) fun answer => ?_
    rcases answer with (_ | _) | _ <;> trivial
  rcases verdict with _ | _ | _
  · trivial
  · trivial
  refine invoke (by rfl) fun answer => ?_
  rcases answer with _ | _ | user
  · trivial
  · trivial
  dsimp only
  split
  · trivial
  · exact invoke (by rfl) fun _ => trivial

def Revoked (held : Credentials) (lookupPrefix username : String) : Prop :=
  ∀ row ∈ held.tokens.rows, row.lookupPrefix = lookupPrefix → row.username = username →
    row.revoked = true

theorem revokeApiToken_revokes (held : Credentials) (lookupPrefix username : String) :
    Revoked (held.revokeApiToken lookupPrefix username).2 lookupPrefix username := by
  intro row stored sameKey sameUser
  unfold Credentials.revokeApiToken at stored
  subst sameKey sameUser
  split at stored
  case isTrue owned =>
    have found := find?_of_mem stored
    dsimp only at found
    rw [find?_modify, if_pos rfl] at found
    case keeps => exact fun _ => rfl
    rcases Option.map_eq_some_iff.mp found with ⟨old, _, changed⟩
    exact congrArg ApiTokenRecord.revoked changed.symm
  case isFalse others => simp [find?_of_mem stored] at others

/-- A stand-in for bcrypt that hashes nothing. -/
def plainBcrypt : Bcrypt where
  hash := fun _ text => .ok text
  verify := fun text hash => .ok (text = hash)

def plainParts : TokenParts where
  lookupPrefix := List.replicate 8 'a'
  hex := List.replicate 32 '0'
  prefixLength := by decide
  prefixAlphanumeric := by decide
  hexLength := by decide
  hexDigits := by decide

def localUser (username : String) (role : LocalRole) : LocalUserRecord where
  username := username
  email := none
  passwordHash := "password"
  role := role
  disabled := false
  createdAt := 0
  failedLogins := 0
  lockedUntil := none

def demoAuth (user : LocalUserRecord) : AuthState DemoClusters :=
  (demoWorld .empty,
    { users := Table.empty.insert user
      tokens := Table.empty
      mints := fun _ => plainParts
      salts := fun _ => 0 })

def demoAuthenticator : LocalAuthenticator := ⟨3600, 90⟩

end Mobula
