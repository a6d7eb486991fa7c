import Mobula.Api.ClusterReads
import Mobula.Foundation.Layers
import Mobula.Registry

/-!
# Jobs and metrics of a cluster

The handlers behind `GET /api/v1/clusters/{id}/jobs` and `GET /api/v1/clusters/{id}/metrics`.
The HTTP client, the clusters that answer it, the JSON parser and the semaphore of inflight
requests are a second layer under the handlers.
-/

namespace Mobula

open Foundation Prog

variable {Provider Upstream : Type} {fromSlice : List UInt8 → Option Json} {base : String}

structure DashboardRequest where
  url : String
  authorization : Option String
  deriving DecidableEq, Repr

/-- A dashboard's answer; its body arrives in chunks, and reading one can fail. -/
structure DashboardResponse where
  status : ℕ
  chunks : List (Except Unit (List UInt8))

inductive SouthboundCall where
  | dashboardApiBase (id : ClusterId)
  | tryAcquire
  | release
  | send (request : DashboardRequest)

def SouthboundCall.Res : SouthboundCall → Type
  | .dashboardApiBase _ => Option String
  | .tryAcquire => Bool
  | .release => Unit
  | .send _ => Except Unit DashboardResponse

/-- What the handlers find southbound; there may be no provisioner to name a dashboard. -/
structure Southbound (Upstream : Type) where
  dashboardApiBase : ClusterId → Upstream → Option String
  answer : DashboardRequest → Upstream → Except Unit DashboardResponse × Upstream
  fromSlice : List UInt8 → Option Json

/-- The handlers' own state: free permits of the semaphore, and what was sent so far. -/
structure Gateway (Upstream : Type) where
  permits : ℕ
  upstream : Upstream
  sent : List DashboardRequest

def execSouthbound (south : Southbound Upstream) :
    (call : SouthboundCall) → World Provider × Gateway Upstream →
      Option (call.Res × (World Provider × Gateway Upstream))
  | .dashboardApiBase id, (world, gateway) =>
    some (south.dashboardApiBase id gateway.upstream, (world, gateway))
  | .tryAcquire, (world, gateway) =>
    if gateway.permits = 0 then some (false, (world, gateway))
    else some (true, (world, { gateway with permits := gateway.permits - 1 }))
  | .release, (world, gateway) =>
    some ((), (world, { gateway with permits := gateway.permits + 1 }))
  | .send request, (world, gateway) =>
    let (answer, upstream) := south.answer request gateway.upstream
    some (answer, (world, { gateway with upstream, sent := gateway.sent ++ [request] }))

abbrev ObsProgram (α : Type) := Prog (Sum.elim Call.Res SouthboundCall.Res) α

abbrev SouthboundCall.perform (call : SouthboundCall) : ObsProgram call.Res :=
  Prog.invoke (Sum.inr call)

namespace SouthboundCalls

abbrev dashboardApiBase (id : ClusterId) : ObsProgram (Option String) :=
  SouthboundCall.perform (.dashboardApiBase id)

abbrev tryAcquire : ObsProgram Bool := SouthboundCall.perform .tryAcquire

abbrev release : ObsProgram Unit := SouthboundCall.perform .release

abbrev send (request : DashboardRequest) : ObsProgram (Except Unit DashboardResponse) :=
  SouthboundCall.perform (.send request)

end SouthboundCalls

inductive ClusterScope where
  | project (name : String)
  | registered

def scopeForRead (registry : ClusterRegistry) (identity : Caller) (id : ClusterId) :
    Program (Except Response ClusterScope) := do
  match ← Calls.get id with
  | .ok (some row) =>
    let (_, narrowed) ← readScope identity
    if narrowed.any fun projects => row.spec.project ∉ projects then
      return .error noSuchCluster
    else return .ok (.project row.spec.project)
  | .ok none =>
    if (registry.byId id).isNone then return .error noSuchCluster
    else
      let (_, narrowed) ← readScope identity
      if narrowed.isSome then return .error noSuchCluster else return .ok .registered
  | .error _ => return .error storeError

def denyRead (identity : Caller) (target : Target) :
    ClusterScope → Program (Option Response)
  | .project name => authorizeScoped identity .read target name
  | .registered => authorize identity .read target

def guardedRead (registry : ClusterRegistry) (identity : Caller) (target : Target)
    (id : ClusterId) (answer : ObsProgram Response) : ObsProgram Response := do
  match ← (scopeForRead registry identity id).lowered with
  | .error response => return response
  | .ok scope =>
    match ← (denyRead identity target scope).lowered with
    | some denial => return denial
    | none => answer

/-- The base URL and the token of a cluster: registered, or named by the provisioner. -/
def resolveUpstream (registry : ClusterRegistry) (id : ClusterId) :
    ObsProgram (Option (String × Option String)) :=
  match registry.byId id with
  | some endpoint => return some (endpoint.apiBaseUrl, endpoint.authToken)
  | none => do
      match ← SouthboundCalls.dashboardApiBase id with
      | some base => return some (base, none)
      | none => return none

/-- Whether a text can be a header value: of the ASCII control characters only the tab. -/
def isHeaderValue (text : String) : Bool :=
  text.toList.all fun c => (32 ≤ c.toNat && c.toNat != 127) || c = '\t'

/-- The authorization header for a token, if there is one; an error when it is no legal value. -/
def bearerOf : Option String → Except Unit (Option String)
  | none => .ok none
  | some token =>
    if isHeaderValue ("Bearer " ++ token) then .ok (some ("Bearer " ++ token)) else .error ()

def proxied (registry : ClusterRegistry) (id : ClusterId) (unavailable : String)
    (work : String → Option String → ObsProgram Response) : ObsProgram Response := do
  match ← resolveUpstream registry id with
  | none => return ⟨404, .text unavailable⟩
  | some (base, token) =>
    if ← SouthboundCalls.tryAcquire then
      match bearerOf token with
      | .error _ =>
        SouthboundCalls.release
        return ⟨500, .text "invalid cluster token"⟩
      | .ok bearer =>
        let response ← work (trimEndSlashes base) bearer
        SouthboundCalls.release
        return response
    else return ⟨503, .text "gateway busy: too many inflight proxied requests"⟩

inductive BodyError where
  | broken
  | tooLarge

def readBody (cap : ℕ) : List UInt8 → List (Except Unit (List UInt8)) →
    Except BodyError (List UInt8)
  | body, [] => .ok body
  | _, .error _ :: _ => .error .broken
  | body, .ok bytes :: rest =>
    if cap < body.length + bytes.length then .error .tooLarge
    else readBody cap (body ++ bytes) rest

def isSuccess (status : ℕ) : Bool :=
  200 ≤ status && status < 300

def MAX_JOBS_BODY_BYTES : ℕ := 8 * 1024 * 1024

def normalizeJob (job : Json) : RayJobSummary :=
  let text (key : String) := (job.get? key).bind Json.asStr?
  { jobId := text "job_id"
    submissionId := text "submission_id"
    status := text "status"
    entrypoint := text "entrypoint"
    startTime := (job.get? "start_time").bind Json.asU64?
    endTime := (job.get? "end_time").bind Json.asU64?
    message := text "message" }

def normalizeJobs : Json → List RayJobSummary
  | .arr items => items.map normalizeJob
  | .obj fields => fields.map fun field => normalizeJob field.2
  | _ => []

def jobsFrom (fromSlice : List UInt8 → Option Json) (base : String) (bearer : Option String) :
    ObsProgram Response := do
  match ← SouthboundCalls.send ⟨base ++ "/api/jobs/", bearer⟩ with
  | .error _ => return ⟨503, .text "cluster unreachable"⟩
  | .ok answer =>
    match readBody MAX_JOBS_BODY_BYTES [] answer.chunks with
    | .error .tooLarge => return ⟨503, .text "jobs response too large"⟩
    | .error .broken => return ⟨503, .text "cluster unreachable"⟩
    | .ok body =>
      if !isSuccess answer.status then return ⟨answer.status, .bytes body⟩
      else
        match fromSlice body with
        | some raw => return ⟨200, .jobs (normalizeJobs raw)⟩
        | none => return ⟨503, .text "invalid jobs response"⟩

def daskUnsupported : Response :=
  ⟨400, .text "job submission is not supported for engine=dask (batch is a Ray-only surface)"⟩

def foundDask : StoreResult (Option StoredCluster) → Bool
  | .ok (some row) => row.spec.engine = .dask
  | _ => false

def clusterJobs (registry : ClusterRegistry) (fromSlice : List UInt8 → Option Json)
    (identity : Caller) (id : ClusterId) : ObsProgram Response :=
  guardedRead registry identity .job id do
    let stored ← (Calls.get id).lowered
    if foundDask stored then return daskUnsupported
    else proxied registry id "jobs unavailable" (jobsFrom fromSlice)

def MAX_STATUS_BODY_BYTES : ℕ := 4 * 1024 * 1024

/-- The value of a number; JSON numbers are finite. -/
def asF64? : Json → Option ℚ
  | .num numeral =>
    match Float64.parse numeral.text with
    | some (.finite value) => some value
    | _ => none
  | _ => none

structure StateNodesSummary where
  cpu : Option ℚ := none
  gpu : Option ℚ := none
  memory : Option ℚ := none
  objectStoreMemory : Option ℚ := none
  activeNodes : ℕ := 0
  deadNodes : ℕ := 0

def stateNodeRows (raw : Json) : List Json :=
  ((((raw.get? "data").bind (·.get? "result")).bind (·.get? "result")).bind Json.asArray?).getD []

def addReported (total : Option ℚ) (resources : Json) (key : String) : Option ℚ :=
  match (resources.get? key).bind asF64? with
  | some value => some (total.getD 0 + value)
  | none => total

def StateNodesSummary.addNode (summary : StateNodesSummary) (node : Json) : StateNodesSummary :=
  if (node.get? "state").bind Json.asStr? = some "ALIVE" then
    let counted := { summary with activeNodes := summary.activeNodes + 1 }
    match node.get? "resources_total" with
    | some (.obj fields) =>
      { counted with
        cpu := addReported summary.cpu (.obj fields) "CPU"
        gpu := addReported summary.gpu (.obj fields) "GPU"
        memory := addReported summary.memory (.obj fields) "memory"
        objectStoreMemory :=
          addReported summary.objectStoreMemory (.obj fields) "object_store_memory" }
    | _ => counted
  else { summary with deadNodes := summary.deadNodes + 1 }

def summarizeStateNodes (raw : Json) : StateNodesSummary :=
  (stateNodeRows raw).foldl StateNodesSummary.addNode {}

def usageUsed (usage : Option Json) (key : String) : Option ℚ :=
  (((usage.bind (·.get? key)).bind Json.asArray?).bind List.head?).bind asF64?

def summarizeMetrics (clusterId : String) (nodes : Json) (status : Option Json) :
    ClusterMetrics :=
  let summary := summarizeStateNodes nodes
  let usage := status.bind fun raw =>
    ((((raw.get? "data").bind (·.get? "clusterStatus")).or (raw.get? "clusterStatus")).bind
      (·.get? "loadMetricsReport")).bind (·.get? "usage")
  let stat (total : Option ℚ) (key : String) : Option ResourceStat :=
    total.map fun total => ⟨usageUsed usage key, total⟩
  { clusterId
    cpu := stat summary.cpu "CPU"
    gpu := stat summary.gpu "GPU"
    memory := stat summary.memory "memory"
    objectStoreMemory := stat summary.objectStoreMemory "object_store_memory"
    activeNodes := some summary.activeNodes
    pendingNodes := none
    failedNodes := if 0 < summary.deadNodes then some summary.deadNodes else none }

/-- Fetch JSON from a dashboard; every kind of failure is the same to the caller. -/
def fetchDashboardJson (fromSlice : List UInt8 → Option Json) (url : String)
    (bearer : Option String) : ObsProgram (Option Json) := do
  match ← SouthboundCalls.send ⟨url, bearer⟩ with
  | .error _ => return none
  | .ok answer =>
    if !isSuccess answer.status then return none
    else
      match readBody MAX_STATUS_BODY_BYTES [] answer.chunks with
      | .error _ => return none
      | .ok body => return fromSlice body

/-- Fetch the nodes of a dashboard, and what it says about their use if it does. -/
def metricsFrom (fromSlice : List UInt8 → Option Json) (id : ClusterId) (base : String)
    (bearer : Option String) : ObsProgram Response := do
  match ← fetchDashboardJson fromSlice (base ++ "/api/v0/nodes") bearer with
  | none => return ⟨503, .text "cluster unreachable"⟩
  | some nodes =>
    let status ← fetchDashboardJson fromSlice (base ++ "/api/cluster_status") bearer
    return ⟨200, .metrics (summarizeMetrics id nodes status)⟩

def clusterMetrics (registry : ClusterRegistry) (fromSlice : List UInt8 → Option Json)
    (identity : Caller) (id : ClusterId) : ObsProgram Response :=
  guardedRead registry identity .cluster id
    (proxied registry id "metrics unavailable" (metricsFrom fromSlice id))

abbrev ObsRuns (platform : Platform Provider) (thread : ℕ) (south : Southbound Upstream) {α : Type}
    (program : ObsProgram α) (state : World Provider × Gateway Upstream) (value : α)
    (final : World Provider × Gateway Upstream) : Prop :=
  program.Yields (Prog.layered (exec platform thread) (execSouthbound south)) state value final

/-- What a read of the cluster is authorized against when nothing changes meanwhile. -/
def Store.scopeOf (store : Store) (registry : ClusterRegistry) (identity : Caller)
    (id : ClusterId) : Except Response ClusterScope :=
  match store.clusters.find? id with
  | some row =>
    if store.hides identity row.spec.project then .error noSuchCluster
    else .ok (.project row.spec.project)
  | none =>
    if (registry.byId id).isNone then .error noSuchCluster
    else if (store.readScopeOf identity).2.isSome then .error noSuchCluster
    else .ok .registered

def Store.mayRead (store : Store) (identity : Caller) (target : Target) :
    ClusterScope → Bool
  | .project name => store.permitsScoped identity .read target name
  | .registered => identity.all (·.permits .read target)

section Alone

variable {platform : Platform Provider} {thread : ℕ} {south : Southbound Upstream}
  {registry : ClusterRegistry} {identity : Caller} {target : Target} {id : ClusterId}
  {world : World Provider} {gateway : Gateway Upstream} {response : Response}
  {final : World Provider × Gateway Upstream}

theorem scopeForRead_runs : Runs platform thread (scopeForRead registry identity id) world
      (world.store.scopeOf registry identity id) world := by
  have visible := readScope_runs platform thread identity world
  rcases narrowing : world.store.readScopeOf identity with ⟨assignments, narrowed⟩
  rw [narrowing] at visible
  apply Yields.invoke exec_get
  unfold Store.scopeOf
  cases world.store.clusters.find? id with
  | some row =>
    apply Yields.bind visible
    simp only [Store.hides, narrowing]
    split <;> exact .ret
  | none =>
    simp only [narrowing]
    split
    case isTrue unknown => exact .ret
    case isFalse known =>
      apply Yields.bind visible
      simp only
      split <;> exact .ret

variable {scope : ClusterScope} {answer : ObsProgram Response} {bearer : Option String}
  {state : World Provider × Gateway Upstream}

theorem denyRead_passes (permitted : world.store.mayRead identity target scope = true) :
    Runs platform thread (denyRead identity target scope) world none world := by
  cases scope with
  | project name => exact authorizeScoped_passes permitted
  | registered => exact authorize_passes permitted

theorem denyRead_refuses (forbidden : world.store.mayRead identity target scope = false) :
    ∃ denial world', Runs platform thread (denyRead identity target scope) world (some denial)
      world' := by
  cases scope with
  | project name =>
    rcases authorizeScoped_refuses platform thread forbidden with ⟨world', refused, _⟩
    exact ⟨_, world', refused⟩
  | registered =>
    rcases authorize_refuses platform thread world forbidden with ⟨world', refused, _⟩
    exact ⟨_, world', refused⟩

theorem guardedRead_runs (inScope : world.store.scopeOf registry identity id = .ok scope)
    (permitted : world.store.mayRead identity target scope = true)
    (answered : ObsRuns platform thread south answer (world, gateway) response final) :
    ObsRuns platform thread south (guardedRead registry identity target id answer)
      (world, gateway) response final := by
  have resolved := @scopeForRead_runs _ platform thread registry identity id world
  rw [inScope] at resolved
  apply Yields.bind (resolved.lowered gateway)
  apply Yields.bind ((denyRead_passes permitted).lowered gateway)
  exact answered

theorem guardedRead_ran
    (ran : ObsRuns platform thread south (guardedRead registry identity target id answer)
      (world, gateway) response final) :
    final.2 = gateway ∨
      ∃ scope, world.store.scopeOf registry identity id = .ok scope ∧
        world.store.mayRead identity target scope = true ∧
        ObsRuns platform thread south answer (world, gateway) response final := by
  rcases ran.of_bind with ⟨verdict, state, resolved, continued⟩
  rcases resolved.of_lowered with ⟨world', scopeRan, rfl⟩
  rcases scopeRan.unique scopeForRead_runs with ⟨rfl, rfl⟩
  cases inScope : world'.store.scopeOf registry identity id with
  | error denial =>
    rw [inScope] at continued
    exact .inl (by rw [continued.of_ret.2])
  | ok scope =>
    rw [inScope] at continued
    rcases continued.of_bind with ⟨denied, state, checked, answered⟩
    rcases checked.of_lowered with ⟨after, denyRan, rfl⟩
    cases permitted : world'.store.mayRead identity target scope with
    | false =>
      rcases denyRead_refuses permitted with ⟨denial, _, refused⟩
      rcases denyRan.unique refused with ⟨rfl, rfl⟩
      exact .inl (by rw [answered.of_ret.2])
    | true =>
      rcases denyRan.unique (denyRead_passes permitted) with ⟨rfl, rfl⟩
      exact .inr ⟨scope, rfl, permitted, answered⟩

/-- A southbound call, and if it sends a request then with this authorization. -/
def carries (bearer : Option String) : Call ⊕ SouthboundCall → Prop
  | .inl _ => False
  | .inr (.send request) => request.authorization = bearer
  | .inr _ => True

theorem jobsFrom_within : (jobsFrom fromSlice base bearer).Within (carries bearer) := by
  refine Within.invoke (show carries bearer _ from rfl) ?_
  rintro (failure | answer)
  · trivial
  simp only
  split
  · trivial
  · trivial
  · split
    · trivial
    · split <;> trivial

theorem fetchDashboardJson_within {url : String} :
    (fetchDashboardJson fromSlice url bearer).Within (carries bearer) := by
  refine Within.invoke (show carries bearer _ from rfl) ?_
  rintro (failure | answer)
  · trivial
  simp only
  split
  · trivial
  · split <;> trivial

theorem metricsFrom_within : (metricsFrom fromSlice id base bearer).Within (carries bearer) := by
  apply Within.bind fetchDashboardJson_within
  rintro (_ | nodes)
  · trivial
  apply Within.bind fetchDashboardJson_within
  intro status
  trivial

theorem execSouthbound_answers {op : Call ⊕ SouthboundCall} (southbound : carries bearer op) :
    ∃ answer after, layered (exec platform thread) (execSouthbound south) op state =
      some (answer, after) := by
  cases op with
  | inl call => cases southbound
  | inr call =>
    cases call with
    | tryAcquire =>
      by_cases busy : state.2.permits = 0
      · exact ⟨false, state, if_pos busy⟩
      · exact ⟨true, _, if_neg busy⟩
    | dashboardApiBase id => exact ⟨_, _, rfl⟩
    | release => exact ⟨_, _, rfl⟩
    | send request => exact ⟨_, _, rfl⟩

theorem sent_exec {op : Call ⊕ SouthboundCall} {before after : World Provider × Gateway Upstream}
    {answer : Sum.elim Call.Res SouthboundCall.Res op} (southbound : carries bearer op)
    (answered : layered (exec platform thread) (execSouthbound south) op before =
      some (answer, after)) :
    ∃ added, after.2.sent = before.2.sent ++ added ∧
      ∀ request ∈ added, request.authorization = bearer := by
  cases op with
  | inl call => cases southbound
  | inr call =>
    cases call with
    | tryAcquire =>
      by_cases busy : before.2.permits = 0
      · simp only [layered, execSouthbound, if_pos busy] at answered
        cases answered
        exact ⟨[], by simp, by simp⟩
      · simp only [layered, execSouthbound, if_neg busy] at answered
        cases answered
        exact ⟨[], by simp, by simp⟩
    | dashboardApiBase id =>
      cases answered
      exact ⟨[], by simp, by simp⟩
    | release =>
      cases answered
      exact ⟨[], by simp, by simp⟩
    | send request =>
      cases answered
      exact ⟨[request], rfl, fun sent sentMem => List.mem_singleton.mp sentMem ▸ southbound⟩

theorem sent_of_within {α : Type} {program : ObsProgram α} {value : α}
    (within : program.Within (carries bearer))
    (ran : ObsRuns platform thread south program state value final) :
    ∃ added, final.2.sent = state.2.sent ++ added ∧
      ∀ request ∈ added, request.authorization = bearer := by
  refine within.yields_invariant (fun reached => ∃ added, reached.2.sent = state.2.sent ++ added ∧
      ∀ request ∈ added, request.authorization = bearer) ?_ ran ⟨[], by simp, by simp⟩
  rintro op before answer after southbound answered ⟨earlier, sentEarlier, bornEarlier⟩
  rcases sent_exec southbound answered with ⟨added, sent, born⟩
  refine ⟨earlier ++ added, by simp [sent, sentEarlier], ?_⟩
  intro request requestMem
  rcases List.mem_append.mp requestMem with earlierMem | addedMem
  · exact bornEarlier request earlierMem
  · exact born request addedMem

/-- An entry under the id has a token that can be sent. -/
def ClusterRegistry.HasToken (registry : ClusterRegistry) (id : ClusterId) : Prop :=
  ∃ endpoint token, registry.byId id = some endpoint ∧ endpoint.authToken = some token ∧
    isHeaderValue ("Bearer " ++ token) = true

theorem resolveUpstream_ran {upstream : Option (String × Option String)}
    (ran : ObsRuns platform thread south (resolveUpstream registry id) state upstream final) :
    final = state ∧ ∀ base token, upstream = some (base, some token) →
      ∃ endpoint, registry.byId id = some endpoint ∧ endpoint.authToken = some token := by
  unfold resolveUpstream at ran
  cases known : registry.byId id with
  | some endpoint =>
    rw [known] at ran
    rcases ran.of_ret with ⟨rfl, rfl⟩
    refine ⟨rfl, ?_⟩
    intro base token resolved
    simp at resolved
    exact ⟨endpoint, rfl, resolved.2⟩
  | none =>
    rw [known] at ran
    rcases ran.of_invoke with ⟨named, middle, answered, continued⟩
    cases answered
    cases named : south.dashboardApiBase id state.2.upstream with
    | none =>
      rw [named] at continued
      rcases continued.of_ret with ⟨rfl, rfl⟩
      exact ⟨rfl, by simp⟩
    | some base =>
      rw [named] at continued
      rcases continued.of_ret with ⟨rfl, rfl⟩
      exact ⟨rfl, by simp⟩

end Alone

end Mobula
