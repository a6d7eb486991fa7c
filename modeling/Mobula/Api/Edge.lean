import Mobula.Api.Access
import Mobula.Auth.Oidc
import Mobula.Foundation.Scheduler
import Mobula.Registry

/-!
# The edge of the control plane

Every request passes two layers before a route handler sees it. The first one authenticates:
only a few paths on the control plane's own host are public. The second one looks at the host,
and hands a request for a registered cluster to the gateway, which proxies it.
-/

namespace Mobula

open Foundation Prog

inductive Method where
  | get
  | head
  | options
  | other (name : String)
  deriving DecidableEq, Repr

def Method.asStr : Method → String
  | .get => "GET"
  | .head => "HEAD"
  | .options => "OPTIONS"
  | .other name => name

abbrev HeaderValue := List UInt8

def HeaderValue.toStr (value : HeaderValue) : Option String :=
  if value.all fun byte => (32 ≤ byte && byte < 127) || byte = 9 then
    some (String.ofList (value.map fun byte => Char.ofNat byte.toNat))
  else none

structure HttpRequest where
  method : Method
  path : String
  host : Option HeaderValue
  authorization : Option HeaderValue
  upgrade : Option HeaderValue
  deriving DecidableEq, Repr

inductive GatewayCall where
  | tryAcquire
  | proxy (cluster : ClusterEndpoint) (request : HttpRequest) (identity : Caller)
  | proxyUpgrade (cluster : ClusterEndpoint) (request : HttpRequest) (identity : Caller)
  | route (request : HttpRequest) (identity : Caller)

@[reducible]
def GatewayCall.Res : GatewayCall → Type
  | .tryAcquire => Bool
  | .proxy _ _ _ => Response
  | .proxyUpgrade _ _ _ => Response
  | .route _ _ => Response

abbrev EdgeCall := ((Call ⊕ AuthCall) ⊕ OidcCall) ⊕ GatewayCall

abbrev EdgeCall.Res : EdgeCall → Type :=
  Sum.elim (Sum.elim (Sum.elim Call.Res AuthCall.Res) OidcCall.Res) GatewayCall.Res

abbrev EdgeProgram (α : Type) := Prog EdgeCall.Res α

abbrev GatewayCall.perform (call : GatewayCall) : EdgeProgram call.Res :=
  Prog.invoke (Sum.inr call)

structure AuthLayer where
  validator : Option AuthConfig
  localAuth : Option LocalAuthenticator
  registry : ClusterRegistry
  hasStore : Bool

def isPublic (path : String) : Bool :=
  path = "/healthz" || path = "/api/v1/version" || path = "/api/v1/openapi.json" ||
    path = "/docs" || startsWith "/docs/" path || path = "/api/v1/auth/login" ||
    path = "/api/v1/auth/providers"

def requiredPermission : Method → PermissionType
  | .get => .read
  | .head => .read
  | .options => .read
  | .other _ => .write

def bearer (request : HttpRequest) : Option String := do
  let header ← request.authorization
  stripPrefix "Bearer " (← header.toStr)

/-- Three parts with dots between them. -/
def isJwtShaped (token : String) : Bool :=
  token.toList.count '.' + 1 = 3

namespace AuthLayer

variable (layer : AuthLayer)

def resolveLocal (token : String) : OidcProgram (Option Identity) :=
  match layer.localAuth with
  | some _ => (authenticateToken token).lowered
  | none => return none

/-- The identity behind a token: a JWT goes to the validator, anything else to the store. -/
def resolveIdentity (token : String) : OidcProgram (Option Identity) :=
  match layer.validator with
  | some validator =>
    if isJwtShaped token then do
      match ← validator.validate token with
      | .ok identity => return some identity
      | .error _ => return none
    else layer.resolveLocal token
  | none => layer.resolveLocal token

def clusterOf (request : HttpRequest) : Option ClusterEndpoint := do
  let header ← request.host
  layer.registry.byHostname (← header.toStr)

def auditDenial (request : HttpRequest) (identity : Caller) (reason : String)
    (status : ℕ) (required : Option AuditRequired) : EdgeProgram Unit := do
  let now ← Calls.nowUnix.lowered.lowered.lowered
  if layer.hasStore then
    (emit { ts := now, subject := identity.map (·.subject), decision := .deny,
            reason := some reason, method := some request.method.asStr,
            path := some request.path, status := some status, required,
            grantedRoles := (identity.map (·.roles.map Role.asStr)).getD []
          }).lowered.lowered.lowered

def requireAuth (request : HttpRequest) (next : Caller → EdgeProgram Response) :
    EdgeProgram Response :=
  if layer.validator.isNone && layer.localAuth.isNone then next none
  else if (layer.clusterOf request).isNone && isPublic request.path then next none
  else
    match bearer request with
    | none => do
        layer.auditDenial request none "missing_token" 401 none
        return ⟨401, .text "missing bearer token"⟩
    | some token => do
        match ← (layer.resolveIdentity token).lowered with
        | none =>
          layer.auditDenial request none "invalid_token" 401 none
          return ⟨401, .text "invalid token"⟩
        | some identity =>
          let required := requiredPermission request.method
          if (layer.clusterOf request).isSome && !identity.permits required .job then
            layer.auditDenial request (some identity) "insufficient_permission" 403
              (some ⟨required.asStr, "job"⟩)
            return ⟨403, .text "insufficient permission"⟩
          else next (some identity)

def isWebsocketUpgrade (request : HttpRequest) : Bool :=
  (request.upgrade.bind HeaderValue.toStr).any (eqIgnoreAsciiCase · "websocket")

/-- Proxy a request for a cluster, and let the routes answer any other. -/
def hostGateway (request : HttpRequest) (identity : Caller) : EdgeProgram Response :=
  match layer.clusterOf request with
  | none => (GatewayCall.route request identity).perform
  | some cluster => do
      if ← GatewayCall.tryAcquire.perform then
        if isWebsocketUpgrade request then
          (GatewayCall.proxyUpgrade cluster request identity).perform
        else (GatewayCall.proxy cluster request identity).perform
      else return ⟨503, .text "gateway busy: too many inflight proxied requests"⟩

def edge (request : HttpRequest) : EdgeProgram Response :=
  layer.requireAuth request (layer.hostGateway request)

/-- Earlier calls of a request resolved its bearer token to an identity. -/
def Authenticated (request : HttpRequest) (past : List (Event EdgeCall.Res))
    (identity : Identity) : Prop :=
  ∃ token resolving later, bearer request = some token ∧ past = resolving ++ later ∧
    ((layer.resolveIdentity token).lowered : EdgeProgram _).Along resolving (some identity)

/-- A proxied request goes to the cluster its host names, for an identity that may do so. -/
structure Proxied (request : HttpRequest) (past : List (Event EdgeCall.Res))
    (cluster : ClusterEndpoint) (sent : HttpRequest) (caller : Caller) : Prop where
  unchanged : sent = request
  addressed : layer.clusterOf request = some cluster
  authorized : ∃ identity, caller = some identity ∧ layer.Authenticated request past identity ∧
    identity.permits (requiredPermission request.method) .job = true

/-- A route handler runs for an identity, or for a public path outside every cluster. -/
structure Routed (request : HttpRequest) (past : List (Event EdgeCall.Res))
    (sent : HttpRequest) (caller : Caller) : Prop where
  unchanged : sent = request
  addressed : layer.clusterOf request = none
  authenticated : isPublic request.path = true ∨
    ∃ identity, caller = some identity ∧ layer.Authenticated request past identity

/-- What the calls of a request may be after its earlier calls. -/
def Mediated (request : HttpRequest) (past : List (Event EdgeCall.Res)) : EdgeCall → Prop
  | .inl _ => True
  | .inr .tryAcquire => True
  | .inr (.proxy cluster sent caller) => layer.Proxied request past cluster sent caller
  | .inr (.proxyUpgrade cluster sent caller) => layer.Proxied request past cluster sent caller
  | .inr (.route sent caller) => layer.Routed request past sent caller

section Mediation

variable {layer} {request : HttpRequest} {past : List (Event EdgeCall.Res)}

theorem hostGateway_obeys {caller : Caller}
    (proxied : ∀ identity, (∃ cluster, layer.clusterOf request = some cluster) →
      caller = some identity → identity.permits (requiredPermission request.method) .job = true)
    (entered : (layer.clusterOf request = none ∧ isPublic request.path = true) ∨
      ∃ identity, caller = some identity ∧ layer.Authenticated request past identity) :
    (layer.hostGateway request caller).Obeys (fun _ _ _ => True) (layer.Mediated request)
      (fun _ _ => True) past := by
  unfold hostGateway
  split
  case h_1 outside =>
    refine Obeys.invoke ⟨rfl, outside, ?_⟩ fun _ _ => trivial
    rcases entered with ⟨_, isOpen⟩ | authenticated
    · exact .inl isOpen
    · exact .inr authenticated
  case h_2 cluster addressed =>
    refine Obeys.invoke trivial fun acquired _ => ?_
    rcases acquired with _ | _
    · trivial
    rcases entered with ⟨outside, _⟩ | ⟨identity, rfl, token, resolving, later, sent, rfl, ran⟩
    · cases addressed.symm.trans outside
    have allowed : layer.Proxied request
        (resolving ++ later ++ [⟨.inr .tryAcquire, true⟩]) cluster request (some identity) :=
      ⟨rfl, addressed, identity, rfl, ⟨token, resolving, _, sent, List.append_assoc _ _ _, ran⟩,
        proxied identity ⟨cluster, addressed⟩ rfl⟩
    change (if isWebsocketUpgrade request then _ else _ : EdgeProgram Response).Obeys _ _ _ _
    split <;> exact Obeys.invoke allowed fun _ _ => trivial

theorem obeys_of_lower {α : Type} {program : EdgeProgram α}
    (within : program.Within fun call => call.isLeft = true) :
    program.Obeys (fun _ _ _ => True) (layer.Mediated request)
      (fun later value => ∃ added, later = past ++ added ∧ program.Along added value) past := by
  apply within.obeys_along
  rintro added (lower | upper) _ isLeft
  · trivial
  · cases isLeft

theorem auditDenial_within (identity : Caller) (reason : String) (status : ℕ)
    (required : Option AuditRequired) :
    (layer.auditDenial request identity reason status required).Within
      fun call => call.isLeft = true := by
  refine Within.bind (within_lowered fun _ => rfl) fun now => ?_
  split
  · exact within_lowered fun _ => rfl
  · trivial

theorem denial_obeys {identity : Caller} {reason : String} {status : ℕ}
    {required : Option AuditRequired} {response : Response} :
    (layer.auditDenial request identity reason status required >>= fun _ =>
      pure response).Obeys (fun _ _ _ => True) (layer.Mediated request) (fun _ _ => True) past :=
  Obeys.bind (obeys_of_lower (auditDenial_within identity reason status required))
    fun _ _ _ => trivial

theorem edge_obeys (configured : layer.validator.isSome ∨ layer.localAuth.isSome) :
    (layer.edge request).Obeys (fun _ _ _ => True) (layer.Mediated request) (fun _ _ => True)
      [] := by
  unfold edge requireAuth
  split
  case isTrue unconfigured =>
    simp at unconfigured
    simp [unconfigured.1, unconfigured.2] at configured
  split
  case isTrue isOpen =>
    simp at isOpen
    apply hostGateway_obeys
    · rintro identity ⟨cluster, addressed⟩
      cases addressed.symm.trans isOpen.1
    · exact .inl isOpen
  split
  case h_1 => exact denial_obeys
  case h_2 token sent =>
    have lower : ((layer.resolveIdentity token).lowered : EdgeProgram _).Within
        fun call => call.isLeft = true := within_lowered fun _ => rfl
    refine Obeys.bind (obeys_of_lower lower) ?_
    rintro resolving resolved ⟨_, rfl, ran⟩
    rcases resolved with _ | identity
    · exact denial_obeys
    dsimp only
    split
    · exact denial_obeys
    next permitted =>
      apply hostGateway_obeys
      · rintro _ ⟨cluster, addressed⟩ same
        cases same
        simpa [addressed] using permitted
      · exact .inr ⟨identity, rfl, token, resolving, [], sent, by simp, ran⟩

end Mediation

end AuthLayer

/-- Requests at the edge, with whatever answers their calls, and whatever happens meanwhile. -/
def edgeSystem {S : Type} (layer : AuthLayer)
    (answers : ℕ → (call : EdgeCall) → S → Option (EdgeCall.Res call × S)) :
    System EdgeCall.Res S HttpRequest where
  exec := answers
  behaviour := fun request => layer.edge request >>= fun _ => pure ()
  admits := fun _ _ => True
  stoppable := fun _ => True
  drift := fun _ _ => True

/--
With authentication configured, a request reaches a route handler only on a
public path outside every cluster or after its bearer token was resolved, and
the proxy of a cluster only for an identity that may read, or write, jobs.
-/
theorem deny_by_default {S : Type} {layer : AuthLayer}
    {answers : ℕ → (call : EdgeCall) → S → Option (EdgeCall.Res call × S)} {state : S}
    {trace earlier later : List (Step EdgeCall.Res S HttpRequest)}
    {config : Config EdgeCall.Res S HttpRequest} {step : Step EdgeCall.Res S HttpRequest}
    (configured : layer.validator.isSome ∨ layer.localAuth.isSome)
    (run : (edgeSystem layer answers).Run (.start state) trace config)
    (split : trace = earlier ++ step :: later) :
    layer.Mediated step.role (own step.thread earlier) step.op := by
  refine run.allowed_step (fun _ _ _ => True) layer.Mediated (fun _ _ => trivial) ?_ split
  intro _ request _
  exact Obeys.bind (AuthLayer.edge_obeys configured) fun _ _ _ => trivial

def readersConfig : AuthConfig where
  issuer := "https://idp"
  audience := "mobula"
  groupsClaim := "groups"
  roles := ⟨[], [], [], ["*"], []⟩
  projectRoles := ⟨[], [], [], [], [], ""⟩

/-- One registered cluster, and callers that the identity provider knows. -/
def demoLayer : AuthLayer where
  validator := some readersConfig
  localAuth := none
  registry := ⟨[⟨"demo", "demo", "https://demo-head:8265", none⟩]⟩
  hasStore := false

def demoRead : HttpRequest where
  method := .get
  path := "/api/jobs/"
  host := some ("demo".toList.map fun c => c.toUInt8)
  authorization := some ("Bearer a.b.c".toList.map fun c => c.toUInt8)
  upgrade := none

/-- Every JWT is good and every call that is made with one works. -/
def kindAnswers (_ : ℕ) (call : EdgeCall) (_ : Unit) : Option (EdgeCall.Res call × Unit) :=
  match call with
  | .inl (.inl _) => none
  | .inl (.inr (.decodeHeader _)) => some (.ok ⟨.rs256, some "key"⟩, ())
  | .inl (.inr (.key _)) => some (some ⟨.null⟩, ())
  | .inl (.inr .refreshJwks) => some (.ok (), ())
  | .inl (.inr (.decode _ _ _)) => some (.ok (.obj [("sub", .str "alice")]), ())
  | .inr .tryAcquire => some (true, ())
  | .inr (.proxy _ _ _) => some (⟨200, .empty⟩, ())
  | .inr (.proxyUpgrade _ _ _) => some (⟨101, .empty⟩, ())
  | .inr (.route _ _) => some (⟨200, .empty⟩, ())

def isProxy : EdgeCall → Bool
  | .inr (.proxy _ _ _) => true
  | _ => false

def proxiedRead : Option (Progress EdgeCall.Res Unit HttpRequest) :=
  (edgeSystem demoLayer kindAnswers).execute (fun _ => true) (inTurn [(demoRead, 5)]) ()

theorem deny_by_default_proxiedRead : ∃ earlier step config,
    (edgeSystem demoLayer kindAnswers).Run (.start ()) (earlier ++ [step]) config ∧
    isProxy step.op = true ∧ demoLayer.Mediated step.role (own step.thread earlier) step.op := by
  rcases executed : proxiedRead with _ | progress
  · exact absurd executed (by decide)
  have run := System.execute_run (fun _ _ _ => trivial) executed
  have facts : proxiedRead.all (fun progress =>
      progress.trace.getLast?.any (isProxy ·.op)) = true := by
    decide
  simp only [executed, Option.all_some, Option.any_eq_true] at facts
  rcases facts with ⟨step, last, proxied⟩
  rcases List.getLast?_eq_some_iff.mp last with ⟨earlier, split⟩
  rw [split] at run
  exact ⟨earlier, step, _, run, proxied, deny_by_default (.inl rfl) run rfl⟩

end Mobula
