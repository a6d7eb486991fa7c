import Mobula.Auth.Local

/-!
# Identities from an identity provider

A JWT is checked against the keys of the identity provider, which are fetched once more when its
key is not among them. Reading and verifying a JWT is left to a library and fetching keys to
the network: they are calls of a third layer, above those on users and tokens.
-/

namespace Mobula

open Foundation

variable {Provider Idp : Type}

/-- The groups that hold each role; `*` stands for every caller. -/
structure RoleMappings where
  admin : List String
  operator : List String
  developer : List String
  viewer : List String
  auditor : List String

def RoleMappings.resolve (mappings : RoleMappings) (groups : List String) : List Role :=
  let holds (patterns : List String) (role : Role) : List Role :=
    if patterns.any fun pattern => pattern = "*" || groups.any (· = pattern) then [role] else []
  holds mappings.admin .admin ++ holds mappings.operator .operator ++
    holds mappings.developer .developer ++ holds mappings.viewer .viewer ++
    holds mappings.auditor .auditor

/-- The groups whose members hold a role on the project that the group names. -/
structure ProjectRoleMappings where
  admin : List String
  operator : List String
  developer : List String
  viewer : List String
  auditor : List String
  stripPrefix : String

namespace ProjectRoleMappings

variable (mappings : ProjectRoleMappings)

def byRole : List (List String × Role) :=
  [(mappings.admin, .admin), (mappings.operator, .operator), (mappings.developer, .developer),
    (mappings.viewer, .viewer), (mappings.auditor, .auditor)]

def scopeOf (group : String) : Option String :=
  let name := (Mobula.stripPrefix mappings.stripPrefix group).getD group
  if name.isEmpty then none
  else if validScope ("project:" ++ name) then some ("project:" ++ name) else none

def resolve (groups : List String) : List (Role × String) :=
  appendNew [] <| mappings.byRole.flatMap fun mapping =>
    if mapping.1.isEmpty then []
    else
      groups.filterMap fun group =>
        if mapping.1.any fun pattern => pattern = "*" || pattern = group then
          (mappings.scopeOf group).map fun scope => (mapping.2, scope)
        else none

end ProjectRoleMappings

structure AuthConfig where
  issuer : String
  audience : String
  groupsClaim : String
  roles : RoleMappings
  projectRoles : ProjectRoleMappings

def isControl (c : Char) : Bool :=
  c.toNat < 32 || (127 ≤ c.toNat && c.toNat < 160)

def sanitizeClaim (text : String) : String :=
  String.ofList (text.toList.map fun c => if isControl c then '?' else c)

def splitWhitespace (text : String) : List String :=
  ((text.toList.splitOnP isWhitespace).filter (!·.isEmpty)).map String.ofList

def groupsOf (groupsClaim : String) (claims : Json) : List String :=
  match claims.get? groupsClaim with
  | some (.arr items) => items.filterMap Json.asStr?
  | some (.str text) => splitWhitespace text
  | _ => []

def AuthConfig.identityFromClaims (config : AuthConfig) (claims : Json) : Identity :=
  let groups := groupsOf config.groupsClaim claims
  { subject := sanitizeClaim (((claims.get? "sub").bind Json.asStr?).getD "")
    username := ((claims.get? "preferred_username").bind Json.asStr?).map sanitizeClaim
    roles := config.roles.resolve groups
    projectRoles := config.projectRoles.resolve groups }

inductive AuthError where
  | jwks (message : String)
  | invalidToken (message : String)
  | unknownKeyId
  | missingSubject
  deriving DecidableEq, Repr

inductive JwtAlgorithm where
  | rs256
  | other (name : String)
  deriving DecidableEq, Repr

structure JwtHeader where
  alg : JwtAlgorithm
  kid : Option String

structure DecodingKey where
  jwk : Json

structure Validation where
  audience : String
  issuer : String
  requiredSpecClaims : List String
  validateNbf : Bool

inductive OidcCall where
  | decodeHeader (token : String)
  | key (kid : String)
  | refreshJwks
  | decode (token : String) (key : DecodingKey) (validation : Validation)

@[reducible]
def OidcCall.Res : OidcCall → Type
  | .decodeHeader _ => Except String JwtHeader
  | .key _ => Option DecodingKey
  | .refreshJwks => Except AuthError Unit
  | .decode _ _ _ => Except String Json

abbrev OidcProgram (α : Type) := Prog (Sum.elim (Sum.elim Call.Res AuthCall.Res) OidcCall.Res) α

abbrev OidcCall.perform (call : OidcCall) : OidcProgram call.Res :=
  Prog.invoke (Sum.inr call)

/-- The identity provider as the process knows it: its keys, and how tokens decode. -/
structure IdentityProvider (Idp : Type) where
  decodeHeader : String → Except String JwtHeader
  key : Idp → String → Option DecodingKey
  refreshJwks : Idp → Except AuthError Unit × Idp
  decode : Idp → String → DecodingKey → Validation → Except String Json

def IdentityProvider.exec (idp : IdentityProvider Idp) (call : OidcCall)
    (state : AuthState Provider × Idp) : Option (call.Res × (AuthState Provider × Idp)) :=
  match call with
  | .decodeHeader token => some (idp.decodeHeader token, state)
  | .key kid => some (idp.key state.2 kid, state)
  | .refreshJwks =>
    let refreshed := idp.refreshJwks state.2
    some (refreshed.1, (state.1, refreshed.2))
  | .decode token key validation => some (idp.decode state.2 token key validation, state)

abbrev oidcMachine (platform : Platform Provider) (bcrypt : Bcrypt) (idp : IdentityProvider Idp)
    (thread : ℕ) :=
  Prog.layered (authMachine platform bcrypt thread) idp.exec

namespace AuthConfig

variable (config : AuthConfig)

/-- The key with an id, after one refresh if it is not known yet. -/
def keyFor (kid : String) : OidcProgram (Except AuthError DecodingKey) := do
  match ← (OidcCall.key kid).perform with
  | some key => return .ok key
  | none =>
    match ← OidcCall.refreshJwks.perform with
    | .error failure => return .error failure
    | .ok _ =>
      match ← (OidcCall.key kid).perform with
      | some key => return .ok key
      | none => return .error .unknownKeyId

def validation : Validation where
  audience := config.audience
  issuer := trimEndSlashes config.issuer
  requiredSpecClaims := ["exp", "iss", "aud", "sub"]
  validateNbf := true

def validate (token : String) : OidcProgram (Except AuthError Identity) := do
  match ← (OidcCall.decodeHeader token).perform with
  | .error message => return .error (.invalidToken message)
  | .ok ⟨.other name, _⟩ => return .error (.invalidToken ("unsupported alg " ++ name))
  | .ok ⟨.rs256, none⟩ => return .error (.invalidToken "missing kid")
  | .ok ⟨.rs256, some kid⟩ =>
    match ← keyFor kid with
    | .error failure => return .error failure
    | .ok key =>
      match ← (OidcCall.decode token key config.validation).perform with
      | .error message => return .error (.invalidToken message)
      | .ok claims =>
        let identity := config.identityFromClaims claims
        if identity.subject.isEmpty then return .error .missingSubject
        else return .ok identity

end AuthConfig

end Mobula
