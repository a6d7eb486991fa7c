import Mobula.Api.Access
import Mobula.Auth.LocalAlone

/-!
# Local authentication requests

The handlers under `/api/v1/auth`: login, the tokens of the caller, logout, and
the management of users by administrators. Every failed login gets the same
response; what went wrong stands in the audit trail only.
-/

namespace Mobula

open Foundation

structure LoginRequest where
  username : String
  password : String

structure CreateTokenRequest where
  label : String
  expiresInDays : ℕ

structure CreateUserRequest where
  username : String
  email : Option String
  password : String
  role : LocalRole

structure UpdateUserRequest where
  role : Option LocalRole
  disabled : Option Bool
  password : Option String

namespace LocalAuthApi

def loginResponse (token : String) (expiresAt : ℕ) (identity : Identity) : Response :=
  ⟨200, .json (.obj
    [("token", .str token), ("token_type", .str "bearer"), ("expires_at", .nat expiresAt),
      ("identity", .obj
        [("subject", .str identity.subject),
          ("roles", .arr (identity.roles.map fun role => .str role.asStr))])])⟩

def invalidCredentials : Response :=
  ⟨401, .json (.obj [("error", .str "invalid_credentials")])⟩

def createTokenResponse (lookupPrefix token : String) (expiresAt : ℕ) : Response :=
  ⟨201, .json (.obj
    [("prefix", .str lookupPrefix), ("token", .str token), ("expires_at", .nat expiresAt)])⟩

def authenticationRequired : Response := ⟨401, .text "authentication required"⟩

def storeFailed : Response := ⟨500, .text "store error"⟩

def hashFailed : Response := ⟨500, .text "hash error"⟩

def noContent : Response := ⟨204, .empty⟩

variable (identity : Caller) (username : String)

def userView (email : Option String) (role : LocalRole) (disabled : Bool) (createdAt : ℕ) : Json :=
  .obj
    [("username", .str username), ("email", .option .str email), ("role", .str role.asStr),
      ("disabled", .bool disabled), ("created_at", .nat createdAt)]

def emitNow (event : AuditEvent) : AuthProgram Unit := do
  let now ← AuthCalls.nowUnix
  (emit { event with ts := now }).lowered

def auditLogin (decision : AuditDecision) (reason : Option String) (status : ℕ)
    : AuthProgram Unit :=
  emitNow { ts := 0, subject := some username, decision, reason, action := some "login",
            method := some "POST", path := some "/api/v1/auth/login", status := some status }

def auditAllowed (subject : Option String) (action method path : String) (status : ℕ) :
    AuthProgram Unit :=
  emitNow { ts := 0, subject, decision := .allow, action := some action, method := some method,
            path := some path, status := some status }

def loginFailureReason : LocalAuthError → String
  | .invalidCredentials => "invalid_credentials"
  | .unknownUser => "invalid_credentials"
  | .locked => "locked"
  | .disabled => "disabled"
  | .backend _ => "backend_error"
  | .ttlTooLong => "backend_error"

def login (auth : LocalAuthenticator) (body : LoginRequest) : AuthProgram Response := do
  match ← (auth.login body.username body.password).run with
  | .ok outcome =>
    auditLogin body.username .allow none 200
    return loginResponse outcome.token.token outcome.expiresAt outcome.identity
  | .error failure =>
    auditLogin body.username .deny (some (loginFailureReason failure)) 401
    return invalidCredentials

def createToken (auth : LocalAuthenticator) (identity : Caller)
    (body : CreateTokenRequest) : AuthProgram Response :=
  match identity with
  | none => return authenticationRequired
  | some identity => do
      match ← (auth.issueToken identity.subject body.label body.expiresInDays).run with
      | .ok (minted, record) =>
        auditAllowed (some identity.subject) "issue_token" "POST" "/api/v1/auth/tokens" 201
        return createTokenResponse minted.lookupPrefix minted.token record.expiresAt
      | .error .ttlTooLong =>
        return ⟨400, .text "expires_in_days must be between 1 and the server maximum (90)"⟩
      | .error _ => return storeFailed

def revokeToken (lookupPrefix : String) : AuthProgram Response :=
  match identity with
  | none => return authenticationRequired
  | some identity => do
      match ← AuthCalls.revokeApiToken lookupPrefix identity.subject with
      | .ok _ =>
        auditAllowed (some identity.subject) "revoke_token" "DELETE"
          ("/api/v1/auth/tokens/" ++ lookupPrefix) 204
        return noContent
      | .error _ => return ⟨404, .text "no such token"⟩

def bearerPrefix (authorization : Option String) : Option String :=
  (authorization.bind (stripPrefix "Bearer ")).bind tokenPrefix

def revokeIfAny (lookupPrefix : Option String) (username : String) : AuthProgram Unit :=
  match lookupPrefix with
  | none => return ()
  | some lookupPrefix => do
      let _ ← AuthCalls.revokeApiToken lookupPrefix username
      return ()

def logout (identity : Caller) (authorization : Option String) : AuthProgram Response :=
  match identity with
  | none => return authenticationRequired
  | some identity => do
      revokeIfAny (bearerPrefix authorization) identity.subject
      auditAllowed (some identity.subject) "logout" "POST" "/api/v1/auth/logout" 204
      return noContent

def requireAdmin : AuthProgram (Option Response) :=
  (authorize identity .admin .cluster).lowered

variable (password : String)

def passwordOk : Bool :=
  8 ≤ password.utf8ByteSize

def passwordTooShort : Response := ⟨400, .text "password must be at least 8 characters"⟩

def createUser (body : CreateUserRequest) : AuthProgram Response := do
  match ← requireAdmin identity with
  | some denial => return denial
  | none =>
    if ¬ isK8sName body.username then
      return ⟨400, .text "username must be a valid Kubernetes name (RFC 1123 subdomain)"⟩
    else if ¬ passwordOk body.password then return passwordTooShort
    else
      match ← AuthCalls.getLocalUser body.username with
      | .error _ => return storeFailed
      | .ok (some _) => return ⟨409, .text "username already taken"⟩
      | .ok none =>
        match ← (hashPassword body.password).run with
        | .error _ => return hashFailed
        | .ok hash =>
          match ← AuthCalls.createLocalUser body.username body.email hash body.role with
          | .error _ => return storeFailed
          | .ok _ =>
            auditAllowed (identity.map (·.subject)) "create_user" "POST"
              "/api/v1/auth/users" 201
            let now ← AuthCalls.nowUnix
            return ⟨201, .json (userView body.username body.email body.role false now)⟩

def applyIfGiven {α : Type} (given : Option α) (change : α → AuthProgram (Option Response)) :
    AuthProgram (Option Response) :=
  match given with
  | none => return none
  | some value => change value

def orStoreFailed (operation : AuthProgram (StoreResult Unit)) :
    AuthProgram (Option Response) := do
  match ← operation with
  | .ok _ => return none
  | .error _ => return some storeFailed

def changePassword : AuthProgram (Option Response) := do
  match ← (hashPassword password).run with
  | .error _ => return some hashFailed
  | .ok hash => orStoreFailed (AuthCalls.setLocalUserPassword username hash)

def updateUser (body : UpdateUserRequest) : AuthProgram Response := do
  match ← requireAdmin identity with
  | some denial => return denial
  | none =>
    if body.password.any (¬ passwordOk ·) then return passwordTooShort
    else
      match ← AuthCalls.getLocalUser username with
      | .error _ => return storeFailed
      | .ok none => return ⟨404, .text "no such user"⟩
      | .ok (some user) =>
        match ← applyIfGiven body.role fun role =>
            orStoreFailed (AuthCalls.setLocalUserRole username role) with
        | some failed => return failed
        | none =>
          match ← applyIfGiven body.disabled fun disabled =>
              orStoreFailed (AuthCalls.setLocalUserDisabled username disabled) with
          | some failed => return failed
          | none =>
            match ← applyIfGiven body.password (changePassword username) with
            | some failed => return failed
            | none =>
              auditAllowed (identity.map (·.subject)) "update_user" "PUT"
                ("/api/v1/auth/users/" ++ username) 200
              return ⟨200, .json (userView user.username user.email
                (body.role.getD user.role) (body.disabled.getD user.disabled)
                user.createdAt)⟩

end LocalAuthApi

inductive AuthRequest where
  | login (body : LoginRequest)
  | createToken (identity : Caller) (body : CreateTokenRequest)
  | revokeToken (identity : Caller) (lookupPrefix : String)
  | logout (identity : Caller) (authorization : Option String)
  | createUser (identity : Caller) (body : CreateUserRequest)
  | updateUser (identity : Caller) (username : String) (body : UpdateUserRequest)

def AuthRequest.handle (auth : LocalAuthenticator) : AuthRequest → AuthProgram Response
  | .login body => LocalAuthApi.login auth body
  | .createToken identity body => LocalAuthApi.createToken auth identity body
  | .revokeToken identity lookupPrefix => LocalAuthApi.revokeToken identity lookupPrefix
  | .logout identity authorization => LocalAuthApi.logout identity authorization
  | .createUser identity body => LocalAuthApi.createUser identity body
  | .updateUser identity username body => LocalAuthApi.updateUser identity username body

end Mobula
