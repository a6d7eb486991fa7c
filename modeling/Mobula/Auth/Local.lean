import Mobula.Auth
import Mobula.Controller.World
import Mobula.Foundation.Attempt

/-!
# Local users and tokens

Login by password and opaque tokens, without an identity provider. bcrypt is a parameter:
hashing draws a salt, and either operation may fail, because the task that runs it does or
because bcrypt does.
-/

namespace Mobula

open Foundation

variable {Provider α : Type}

inductive LocalRole where
  | viewer
  | developer
  | operator
  | admin
  | auditor
  deriving DecidableEq, Repr

def LocalRole.asStr : LocalRole → String
  | .viewer => "viewer"
  | .developer => "developer"
  | .operator => "operator"
  | .admin => "admin"
  | .auditor => "auditor"

structure LocalUserRecord where
  username : String
  email : Option String
  passwordHash : String
  role : LocalRole
  disabled : Bool
  createdAt : ℕ
  failedLogins : ℕ
  lockedUntil : Option ℕ
  deriving DecidableEq, Repr

structure ApiTokenRecord where
  lookupPrefix : String
  tokenHash : String
  username : String
  label : String
  createdAt : ℕ
  expiresAt : ℕ
  revoked : Bool
  lastUsedAt : Option ℕ
  deriving DecidableEq, Repr

def TOKEN_PREFIX_LEN : ℕ := 8

def isAsciiHexdigit (c : Char) : Bool :=
  c.isDigit || ('a' ≤ c && c ≤ 'f') || ('A' ≤ c && c ≤ 'F')

structure TokenParts where
  lookupPrefix : List Char
  hex : List Char
  prefixLength : lookupPrefix.length = TOKEN_PREFIX_LEN
  prefixAlphanumeric : lookupPrefix.all Char.isAlphanum = true
  hexLength : hex.length = 32
  hexDigits : hex.all isAsciiHexdigit = true

def TokenParts.token (parts : TokenParts) : String :=
  String.ofList ("mob_".toList ++ (parts.lookupPrefix ++ '_' :: parts.hex))

def afterUnderscore : List Char → Option (List Char)
  | '_' :: rest => some rest
  | _ => none

variable (bcrypt : Bcrypt) (presented : String)

/-- The lookup key of a presented token, if it has the shape of one. -/
def tokenPrefix : Option String := do
  let rest := (← stripPrefix "mob_" presented).toList
  if rest.length ≠ TOKEN_PREFIX_LEN + 1 + 32 then none
  else if ¬ (rest.take TOKEN_PREFIX_LEN).all Char.isAlphanum then none
  else
    let hex ← afterUnderscore (rest.drop TOKEN_PREFIX_LEN)
    if hex.all isAsciiHexdigit then some (String.ofList (rest.take TOKEN_PREFIX_LEN)) else none

theorem tokenPrefix_token {parts : TokenParts} :
    tokenPrefix parts.token = some (String.ofList parts.lookupPrefix) := by
  have stripped : stripPrefix "mob_" parts.token =
      some (String.ofList (parts.lookupPrefix ++ '_' :: parts.hex)) :=
    stripPrefix_append
  have counted :
      (parts.lookupPrefix ++ '_' :: parts.hex).length = parts.lookupPrefix.length + 1 + 32 := by
    rw [List.length_append, List.length_cons, parts.hexLength, Nat.add_assoc, Nat.add_comm 32]
  rw [tokenPrefix, stripped, ← parts.prefixLength]
  simp only [Option.bind_eq_bind, Option.bind_some, String.toList_ofList, counted, ne_eq,
    not_true_eq_false, if_false, List.take_left, List.drop_left, parts.prefixAlphanumeric,
    afterUnderscore, parts.hexDigits, if_true]

/-- Why bcrypt gave no answer: the task that ran it was lost, or bcrypt failed. -/
inductive BcryptFailure where
  | task (message : String)
  | bcrypt (message : String)
  deriving DecidableEq, Repr

/-- The functions of the hash library. -/
structure Bcrypt where
  hash : ℕ → String → Except BcryptFailure String
  verify : String → String → Except BcryptFailure Bool

/-- The users and tokens of the store, and the randomness still to come. -/
structure Credentials where
  users : Table LocalUserRecord.username
  tokens : Table ApiTokenRecord.lookupPrefix
  mints : ℕ → TokenParts
  salts : ℕ → ℕ

inductive AuthCall where
  | createLocalUser (username : String) (email : Option String) (passwordHash : String)
      (role : LocalRole)
  | getLocalUser (username : String)
  | setLocalUserPassword (username passwordHash : String)
  | setLocalUserRole (username : String) (role : LocalRole)
  | setLocalUserDisabled (username : String) (disabled : Bool)
  | setLoginLockout (username : String) (failedLogins : ℕ) (lockedUntil : Option ℕ)
  | createApiToken (record : ApiTokenRecord)
  | getApiTokenByPrefix (lookupPrefix : String)
  | revokeApiToken (lookupPrefix username : String)
  | touchApiToken (lookupPrefix : String) (now : ℕ)
  | mintTokenParts
  | bcryptHash (text : String)
  | bcryptVerify (text hash : String)

@[reducible]
def AuthCall.Res : AuthCall → Type
  | .createLocalUser _ _ _ _ => StoreResult Unit
  | .getLocalUser _ => StoreResult (Option LocalUserRecord)
  | .setLocalUserPassword _ _ => StoreResult Unit
  | .setLocalUserRole _ _ => StoreResult Unit
  | .setLocalUserDisabled _ _ => StoreResult Unit
  | .setLoginLockout _ _ _ => StoreResult Unit
  | .createApiToken _ => StoreResult Unit
  | .getApiTokenByPrefix _ => StoreResult (Option ApiTokenRecord)
  | .revokeApiToken _ _ => StoreResult Unit
  | .touchApiToken _ _ => StoreResult Unit
  | .mintTokenParts => TokenParts
  | .bcryptHash _ => Except BcryptFailure String
  | .bcryptVerify _ _ => Except BcryptFailure Bool

abbrev AuthProgram (α : Type) := Prog (Sum.elim Call.Res AuthCall.Res) α

abbrev AuthCall.perform (call : AuthCall) : AuthProgram call.Res :=
  Prog.invoke (Sum.inr call)

namespace AuthCalls

abbrev createLocalUser (username : String) (email : Option String) (passwordHash : String)
    (role : LocalRole) : AuthProgram (StoreResult Unit) :=
  AuthCall.perform (.createLocalUser username email passwordHash role)

abbrev getLocalUser (username : String) : AuthProgram (StoreResult (Option LocalUserRecord)) :=
  AuthCall.perform (.getLocalUser username)

abbrev setLocalUserPassword (username passwordHash : String) : AuthProgram (StoreResult Unit) :=
  AuthCall.perform (.setLocalUserPassword username passwordHash)

abbrev setLocalUserRole (username : String) (role : LocalRole) : AuthProgram (StoreResult Unit) :=
  AuthCall.perform (.setLocalUserRole username role)

abbrev setLocalUserDisabled (username : String) (disabled : Bool) :
    AuthProgram (StoreResult Unit) :=
  AuthCall.perform (.setLocalUserDisabled username disabled)

abbrev setLoginLockout (username : String) (failedLogins : ℕ) (lockedUntil : Option ℕ) :
    AuthProgram (StoreResult Unit) :=
  AuthCall.perform (.setLoginLockout username failedLogins lockedUntil)

abbrev createApiToken (record : ApiTokenRecord) : AuthProgram (StoreResult Unit) :=
  AuthCall.perform (.createApiToken record)

abbrev getApiTokenByPrefix (lookupPrefix : String) :
    AuthProgram (StoreResult (Option ApiTokenRecord)) :=
  AuthCall.perform (.getApiTokenByPrefix lookupPrefix)

abbrev revokeApiToken (lookupPrefix username : String) : AuthProgram (StoreResult Unit) :=
  AuthCall.perform (.revokeApiToken lookupPrefix username)

abbrev touchApiToken (lookupPrefix : String) (now : ℕ) : AuthProgram (StoreResult Unit) :=
  AuthCall.perform (.touchApiToken lookupPrefix now)

abbrev mintTokenParts : AuthProgram TokenParts := AuthCall.perform .mintTokenParts

abbrev bcryptHash (text : String) : AuthProgram (Except BcryptFailure String) :=
  AuthCall.perform (.bcryptHash text)

abbrev bcryptVerify (text hash : String) : AuthProgram (Except BcryptFailure Bool) :=
  AuthCall.perform (.bcryptVerify text hash)

abbrev nowUnix : AuthProgram ℕ := Calls.nowUnix.lowered

end AuthCalls

namespace Credentials

variable (held : Credentials) (lookupPrefix username : String)

def changeUser (change : LocalUserRecord → LocalUserRecord) : StoreResult Unit × Credentials :=
  match held.users.find? username with
  | none => (.error ⟨"no such local user " ++ username⟩, held)
  | some _ => (.ok (), { held with users := held.users.modify username change })

def createLocalUser (email : Option String) (passwordHash : String) (role : LocalRole) (now : ℕ)
    : StoreResult Unit × Credentials :=
  match held.users.find? username with
  | some _ => (.error ⟨"local user " ++ username ++ " already exists"⟩, held)
  | none =>
    (.ok (), { held with
      users := held.users.insert
        { username, email, passwordHash, role, disabled := false, createdAt := now,
          failedLogins := 0, lockedUntil := none } })

def createApiToken (record : ApiTokenRecord) : StoreResult Unit × Credentials :=
  match held.tokens.find? record.lookupPrefix with
  | some _ => (.error ⟨"api token prefix " ++ record.lookupPrefix ++ " already exists"⟩, held)
  | none => (.ok (), { held with tokens := held.tokens.insert record })

def revokeApiToken : StoreResult Unit × Credentials :=
  if (held.tokens.find? lookupPrefix).any fun record => record.username = username then
    (.ok (), { held with
      tokens := held.tokens.modify lookupPrefix fun record => { record with revoked := true } })
  else (.error ⟨"no such api token " ++ lookupPrefix⟩, held)

def touchApiToken (now : ℕ) : Credentials :=
  { held with
    tokens := held.tokens.modify lookupPrefix fun record =>
      { record with lastUsedAt := some now } }

end Credentials

def execCredentials (call : AuthCall) (held : Credentials) (now : ℕ) : call.Res × Credentials :=
  match call with
  | .createLocalUser username email passwordHash role =>
    held.createLocalUser username email passwordHash role now
  | .getLocalUser username => (.ok (held.users.find? username), held)
  | .setLocalUserPassword username passwordHash =>
    held.changeUser username fun user => { user with passwordHash }
  | .setLocalUserRole username role => held.changeUser username fun user => { user with role }
  | .setLocalUserDisabled username disabled =>
    held.changeUser username fun user => { user with disabled }
  | .setLoginLockout username failedLogins lockedUntil =>
    held.changeUser username fun user => { user with failedLogins, lockedUntil }
  | .createApiToken record => held.createApiToken record
  | .getApiTokenByPrefix lookupPrefix => (.ok (held.tokens.find? lookupPrefix), held)
  | .revokeApiToken lookupPrefix username => held.revokeApiToken lookupPrefix username
  | .touchApiToken lookupPrefix used => (.ok (), held.touchApiToken lookupPrefix used)
  | .mintTokenParts => (held.mints 0, { held with mints := fun n => held.mints (n + 1) })
  | .bcryptHash text =>
    (bcrypt.hash (held.salts 0) text, { held with salts := fun n => held.salts (n + 1) })
  | .bcryptVerify text hash => (bcrypt.verify text hash, held)

def AuthCall.stamps : AuthCall → Bool
  | .createLocalUser _ _ _ _ => true
  | _ => false

abbrev AuthState (Provider : Type) := World Provider × Credentials

def execAuth (call : AuthCall) (state : AuthState Provider) :
    Option (call.Res × AuthState Provider) :=
  let (answer, held) := execCredentials bcrypt call state.2 state.1.now
  some (answer, (state.1.afterReading call.stamps, held))

abbrev authMachine (platform : Platform Provider) (bcrypt : Bcrypt) (thread : ℕ) :
    (call : Call ⊕ AuthCall) → AuthState Provider →
      Option (Sum.elim Call.Res AuthCall.Res call × AuthState Provider) :=
  Prog.layered (exec platform thread) (execAuth bcrypt)

inductive LocalAuthError where
  | invalidCredentials
  | locked
  | disabled
  | unknownUser
  | ttlTooLong
  | backend (message : String)
  deriving DecidableEq, Repr

abbrev LocalAuth (α : Type) := Attempt (Sum.elim Call.Res AuthCall.Res) LocalAuthError α

def orBackend (operation : AuthProgram (StoreResult α)) : LocalAuth α := do
  match ← operation with
  | .ok value => return value
  | .error failure => throw (.backend ("store backend error: " ++ failure.backend))

def hashPassword (password : String) : LocalAuth String := do
  match ← AuthCalls.bcryptHash password with
  | .ok hash => return hash
  | .error (.task message) => throw (.backend ("hash task: " ++ message))
  | .error (.bcrypt message) => throw (.backend ("bcrypt: " ++ message))

/-- Whether a password fits a hash; a malformed hash fits nothing. -/
def verifyPassword (password hash : String) : LocalAuth Bool := do
  match ← AuthCalls.bcryptVerify password hash with
  | .ok accepted => return accepted
  | .error (.task message) => throw (.backend ("verify task: " ++ message))
  | .error (.bcrypt _) => return false

def DUMMY_HASH : String :=
  "$2b$12$dcjUjjUwxXC4Z9wsZzBD3.8Ec1/3r8C.XkqTVfQsgyrNz9sJGUt.K"

def LOGIN_LOCKOUT_THRESHOLD : ℕ := 5

def LOCKOUT_SECS : ℕ := 300

/-- The counter and the lock after one more failure. -/
def nextLoginFailureState (failedLogins now : ℕ) : ℕ × Option ℕ :=
  let failed := failedLogins + 1
  if LOGIN_LOCKOUT_THRESHOLD ≤ failed then (0, some (now + LOCKOUT_SECS)) else (failed, none)

variable (username : String)

def recordLoginFailure : AuthProgram (StoreResult Unit) := do
  match ← AuthCalls.getLocalUser username with
  | .error failure => return .error failure
  | .ok none => return .error ⟨"no such local user " ++ username⟩
  | .ok (some user) =>
    let now ← AuthCalls.nowUnix
    let (failed, locked) := nextLoginFailureState user.failedLogins now
    AuthCalls.setLoginLockout username failed locked

def recordLoginSuccess : AuthProgram (StoreResult Unit) :=
  AuthCalls.setLoginLockout username 0 none

def LocalRole.toRole : LocalRole → Role
  | .viewer => .viewer
  | .developer => .developer
  | .operator => .operator
  | .admin => .admin
  | .auditor => .auditor

def identityOf (user : LocalUserRecord) : Identity where
  subject := user.username
  username := some user.username
  roles := [user.role.toRole]
  projectRoles := []

structure MintedToken where
  lookupPrefix : String
  token : String
  tokenHash : String
  deriving DecidableEq, Repr

structure LoginOutcome where
  token : MintedToken
  expiresAt : ℕ
  identity : Identity

/-- How long logins and tokens are good for. -/
structure LocalAuthenticator where
  loginTtlSecs : ℕ
  tokenMaxDays : ℕ

def storeToken (label : String) (expiresAt : ℕ) : LocalAuth MintedToken := do
  let parts ← AuthCalls.mintTokenParts
  let lookupPrefix := String.ofList parts.lookupPrefix
  let tokenHash ← hashPassword parts.token
  let createdAt ← AuthCalls.nowUnix
  orBackend (AuthCalls.createApiToken
    { lookupPrefix, tokenHash, username, label, createdAt, expiresAt, revoked := false,
      lastUsedAt := none })
  return ⟨lookupPrefix, parts.token, tokenHash⟩

namespace LocalAuthenticator

variable (auth : LocalAuthenticator)

/-- Login by password: a disabled account first, then a locked one, then the password. -/
def login (username password : String) : LocalAuth LoginOutcome := do
  match ← orBackend (AuthCalls.getLocalUser username) with
  | none =>
    let _ ← verifyPassword password DUMMY_HASH
    throw .invalidCredentials
  | some user =>
    if user.disabled then
      let _ ← verifyPassword password user.passwordHash
      throw .disabled
    else
      let now ← AuthCalls.nowUnix
      if user.lockedUntil.any (now < ·) then throw .locked
      else if ← verifyPassword password user.passwordHash then
        orBackend (recordLoginSuccess username)
        let expiresAt := now + auth.loginTtlSecs
        let token ← storeToken username "login" expiresAt
        return ⟨token, expiresAt, identityOf user⟩
      else
        orBackend (recordLoginFailure username)
        throw .invalidCredentials

def issueToken (username label : String) (ttlDays : ℕ) :
    LocalAuth (MintedToken × ApiTokenRecord) :=
  if ttlDays = 0 ∨ auth.tokenMaxDays < ttlDays then throw .ttlTooLong
  else do
    match ← orBackend (AuthCalls.getLocalUser username) with
    | none => throw .unknownUser
    | some user =>
      if user.disabled then throw .disabled
      else
        let now ← AuthCalls.nowUnix
        let minted ← storeToken username label (now + ttlDays * 86400)
        match ← orBackend (AuthCalls.getApiTokenByPrefix minted.lookupPrefix) with
        | none => throw (.backend "token vanished after create")
        | some record => return (minted, record)

end LocalAuthenticator

/-- The identity behind a presented token, if everything about the token checks out. -/
def authenticateToken : AuthProgram (Option Identity) := do
  match tokenPrefix presented with
  | none => return none
  | some lookupPrefix =>
    match ← AuthCalls.getApiTokenByPrefix lookupPrefix with
    | .error _ => return none
    | .ok none => return none
    | .ok (some record) =>
      let now ← AuthCalls.nowUnix
      if record.revoked ∨ record.expiresAt ≤ now then return none
      else
        match ← (verifyPassword presented record.tokenHash).run with
        | .error _ => return none
        | .ok false => return none
        | .ok true =>
          match ← AuthCalls.getLocalUser record.username with
          | .error _ => return none
          | .ok none => return none
          | .ok (some user) =>
            if user.disabled then return none
            else
              let _ ← AuthCalls.touchApiToken lookupPrefix now
              return some (identityOf user)

end Mobula
