import Mobula.Api.Observability

/-!
# Who can make the gateway use a registered token

A registered cluster belongs to no project, so its token should be used only for callers whose
roles hold everywhere. The handlers authorize a read against the stored cluster with the id, if
there is one.
-/

namespace Mobula

open Foundation Prog Store List

variable {Provider Upstream : Type} {store : Store} {project : String} {role : Role}

inductive ObsRequest where
  | jobs (id : ClusterId)
  | metrics (id : ClusterId)
  deriving DecidableEq, Repr

namespace ObsRequest

def id : ObsRequest → ClusterId
  | .jobs id => id
  | .metrics id => id

def target : ObsRequest → Target
  | .jobs _ => .job
  | .metrics _ => .cluster

def handler (registry : ClusterRegistry) (fromSlice : List UInt8 → Option Json)
    (identity : Caller) : ObsRequest → ObsProgram Response
  | .jobs id => clusterJobs registry fromSlice identity id
  | .metrics id => clusterMetrics registry fromSlice identity id

/-- Whether the read is forwarded for a stored cluster: jobs exist on Ray only. -/
def forwards : ObsRequest → StoredCluster → Bool
  | .jobs _, row => row.spec.engine ≠ .dask
  | .metrics _, _ => true

def unavailable : ObsRequest → String
  | .jobs _ => "jobs unavailable"
  | .metrics _ => "metrics unavailable"

def work (fromSlice : List UInt8 → Option Json) :
    ObsRequest → String → Option String → ObsProgram Response
  | .jobs _ => jobsFrom fromSlice
  | .metrics id => metricsFrom fromSlice id

def firstPath : ObsRequest → String
  | .jobs _ => "/api/jobs/"
  | .metrics _ => "/api/v0/nodes"

theorem work_within (request : ObsRequest) (fromSlice : List UInt8 → Option Json) (base : String)
    (bearer : Option String) : (request.work fromSlice base bearer).Within (carries bearer) := by
  cases request with
  | jobs id => exact jobsFrom_within
  | metrics id => exact metricsFrom_within

theorem work_sends (request : ObsRequest) (fromSlice : List UInt8 → Option Json) (base : String)
    (bearer : Option String) : ∃ rest, request.work fromSlice base bearer =
      SouthboundCalls.send ⟨base ++ request.firstPath, bearer⟩ >>= rest := by
  cases request with
  | jobs id => exact ⟨_, rfl⟩
  | metrics id => exact ⟨_, Prog.bind_assoc _ _ _⟩

end ObsRequest

section Runs

variable {platform : Platform Provider} {thread : ℕ} {south : Southbound Upstream}
  {registry : ClusterRegistry} {request : ObsRequest} {identity : Caller} {id : ClusterId}
  {unavailable : String} {work : String → Option String → ObsProgram Response}
  {world : World Provider} {gateway : Gateway Upstream} {response : Response}
  {final : World Provider × Gateway Upstream} {state : World Provider × Gateway Upstream}

theorem tryAcquire_ran {acquired : Bool}
    (answered : layered (exec platform thread) (execSouthbound south) (.inr .tryAcquire)
      state = some (acquired, final)) :
    final.2.sent = state.2.sent ∧ (acquired = true → state.2.permits ≠ 0) := by
  by_cases busy : state.2.permits = 0
  · simp only [layered, execSouthbound, if_pos busy] at answered
    cases answered
    exact ⟨rfl, by simp⟩
  · simp only [layered, execSouthbound, if_neg busy] at answered
    cases answered
    exact ⟨rfl, fun _ => busy⟩

theorem release_ran {value : Response}
    (ran : ObsRuns platform thread south (SouthboundCalls.release >>= fun _ => pure value) state
      response final) : final.2.sent = state.2.sent := by
  rcases ran.of_invoke with ⟨done, middle, answered, continued⟩
  cases answered
  rw [continued.of_ret.2]

theorem proxied_sends (within : ∀ base bearer, (work base bearer).Within (carries bearer))
    (ran : ObsRuns platform thread south (proxied registry id unavailable work) state response
      final) :
    ∃ added, final.2.sent = state.2.sent ++ added ∧
      ∀ sent ∈ added, sent.authorization ≠ none →
        registry.HasToken id ∧ state.2.permits ≠ 0 := by
  rcases ran.of_bind with ⟨upstream, afterwards, resolved, continued⟩
  rcases resolveUpstream_ran resolved with ⟨rfl, registered⟩
  cases upstream with
  | none =>
    rw [continued.of_ret.2]
    exact ⟨[], by simp, by simp⟩
  | some found =>
    rcases found with ⟨base, token⟩
    rcases continued.of_invoke with ⟨acquired, acquiring, answered, proceeded⟩
    rcases tryAcquire_ran answered with ⟨sameSent, free⟩
    cases acquired with
    | false =>
      rw [proceeded.of_ret.2, sameSent]
      exact ⟨[], by simp, by simp⟩
    | true =>
      simp at proceeded
      cases header : bearerOf token with
      | error illegal =>
        rw [header] at proceeded
        refine ⟨[], ?_, by simp⟩
        simp [release_ran proceeded, sameSent]
      | ok bearer =>
        rw [header] at proceeded
        rcases proceeded.of_bind with ⟨value, worked, workRan, released⟩
        rcases sent_of_within (within _ bearer) workRan with
          ⟨added, sent, born⟩
        refine ⟨added, ?_, ?_⟩
        · rw [release_ran released, sent, sameSent]
        · intro request requestMem authorized
          rw [born request requestMem] at authorized
          cases token with
          | none =>
            simp [bearerOf] at header
            exact absurd header.symm authorized
          | some token =>
            rcases registered base token rfl with ⟨endpoint, known, held⟩
            refine ⟨⟨endpoint, token, known, held, ?_⟩, free rfl⟩
            by_contra illegal
            rw [bearerOf, if_neg illegal] at header
            cases header

theorem proxied_forwards {endpoint : ClusterEndpoint} {token : String}
    (known : registry.byId request.id = some endpoint) (held : endpoint.authToken = some token)
    (legal : isHeaderValue ("Bearer " ++ token) = true) (free : gateway.permits ≠ 0)
    (world : World Provider) : ∃ response final added, ObsRuns platform thread south
        (proxied registry request.id request.unavailable (request.work south.fromSlice))
        (world, gateway) response final ∧
      final.2.sent = gateway.sent ++
        ⟨trimEndSlashes endpoint.apiBaseUrl ++ request.firstPath, some ("Bearer " ++ token)⟩ ::
          added := by
  let acquired : Gateway Upstream := { gateway with permits := gateway.permits - 1 }
  let first : DashboardRequest :=
    ⟨trimEndSlashes endpoint.apiBaseUrl ++ request.firstPath, some ("Bearer " ++ token)⟩
  have resolved : ObsRuns platform thread south (resolveUpstream registry request.id)
      (world, gateway) (some (endpoint.apiBaseUrl, some token)) (world, gateway) := by
    unfold resolveUpstream
    rw [known, ← held]
    exact .ret
  have taken : layered (exec platform thread) (execSouthbound south) (.inr .tryAcquire)
      (world, gateway) = some (true, (world, acquired)) := if_neg free
  have header : bearerOf (some token) = .ok (some ("Bearer " ++ token)) := if_pos legal
  rcases request.work_sends south.fromSlice (trimEndSlashes endpoint.apiBaseUrl)
    (some ("Bearer " ++ token)) with ⟨rest, shape⟩
  have within := request.work_within south.fromSlice (trimEndSlashes endpoint.apiBaseUrl)
    (some ("Bearer " ++ token))
  rw [shape] at within
  rcases (within.2 (south.answer first acquired.upstream).1).finishes
    (fun op state => execSouthbound_answers)
    (world, { acquired with
      upstream := (south.answer first acquired.upstream).2
      sent := acquired.sent ++ [first] }) with ⟨response, worked, restRan⟩
  rcases sent_of_within (within.2 _) restRan with ⟨added, sent, _⟩
  refine ⟨response, (worked.1, { worked.2 with permits := worked.2.permits + 1 }), added, ?_, ?_⟩
  · apply Yields.bind resolved
    apply Yields.invoke taken
    simp [header]
    have workRan : ObsRuns platform thread south
        (request.work south.fromSlice (trimEndSlashes endpoint.apiBaseUrl)
          (some ("Bearer " ++ token))) (world, acquired) response worked := by
      rw [shape]
      exact Yields.invoke rfl restRan
    apply Yields.bind workRan
    exact Yields.invoke rfl .ret
  · simp [sent]
    rfl

theorem handler_ran
    (ran : ObsRuns platform thread south (request.handler registry south.fromSlice identity)
      (world, gateway) response final) :
    final.2 = gateway ∨
      ∃ scope, world.store.scopeOf registry identity request.id = .ok scope ∧
        world.store.mayRead identity request.target scope = true ∧
        (∀ row, world.store.clusters.find? request.id = some row → request.forwards row = true) ∧
        ObsRuns platform thread south
          (proxied registry request.id request.unavailable (request.work south.fromSlice))
          (world, gateway) response final := by
  cases request with
  | metrics id =>
    rcases guardedRead_ran ran with untouched | ⟨scope, inScope, reads, answered⟩
    · exact .inl untouched
    · exact .inr ⟨scope, inScope, reads, fun _ _ => rfl, answered⟩
  | jobs id =>
    rcases guardedRead_ran ran with untouched | ⟨scope, inScope, reads, answered⟩
    · exact .inl untouched
    · rcases answered.of_bind with ⟨stored, state, looked, continued⟩
      rcases looked.of_lowered with ⟨world', got, rfl⟩
      rcases got.unique (yields_invoke exec_get) with ⟨rfl, rfl⟩
      cases found : world'.store.clusters.find? id with
      | none =>
        rw [found] at continued
        exact .inr ⟨scope, inScope, reads, by simp [ObsRequest.id, found], continued⟩
      | some row =>
        rw [found] at continued
        by_cases dask : row.spec.engine = .dask
        · simp [foundDask, dask, decide_true] at continued
          exact .inl (by rw [continued.of_ret.2])
        · refine .inr ⟨scope, inScope, reads, ?_, ?_⟩
          · simp [ObsRequest.id, found, ObsRequest.forwards, dask]
          · simp [foundDask, dask, decide_false] at continued
            exact continued

theorem handler_runs {row : StoredCluster}
    (stored : world.store.clusters.find? request.id = some row)
    (visible : world.store.hides identity row.spec.project = false)
    (reads : world.store.permitsScoped identity .read request.target row.spec.project = true)
    (forwarded : request.forwards row = true) (answered : ObsRuns platform thread south
      (proxied registry request.id request.unavailable (request.work south.fromSlice))
      (world, gateway) response final) :
    ObsRuns platform thread south (request.handler registry south.fromSlice identity)
      (world, gateway) response final := by
  have inScope : world.store.scopeOf registry identity request.id =
      .ok (.project row.spec.project) := by
    simp [scopeOf, stored, visible]
  cases request with
  | metrics id => exact guardedRead_runs inScope reads answered
  | jobs id =>
    apply guardedRead_runs inScope reads
    have looked : Runs platform thread (Calls.get id) world
        (.ok (world.store.clusters.find? id)) world :=
      yields_invoke exec_get
    apply Yields.bind (looked.lowered gateway)
    have ray : row.spec.engine ≠ .dask := by simpa [ObsRequest.forwards] using forwarded
    have found : world.store.clusters.find? id = some row := stored
    simp [found, foundDask, ray, decide_false]
    exact answered

end Runs

/-- The request goes to a registered cluster with its token. -/
def ClusterRegistry.Bears (registry : ClusterRegistry) (sent : DashboardRequest) : Prop :=
  ∃ endpoint ∈ registry.clusters, ∃ token path, endpoint.authToken = some token ∧
    sent = ⟨trimEndSlashes endpoint.apiBaseUrl ++ path, some ("Bearer " ++ token)⟩

section Tokens

variable (platform : Platform Provider) (thread : ℕ) (south : Southbound Upstream)
  (registry : ClusterRegistry)

/-- Answering the read for the caller sends the request. -/
def Sends (request : ObsRequest) (identity : Identity) (world : World Provider)
    (gateway : Gateway Upstream) (sent : DashboardRequest) : Prop :=
  ∃ response final added, ObsRuns platform thread south
      (request.handler registry south.fromSlice (some identity)) (world, gateway) response final ∧
    final.2.sent = gateway.sent ++ added ∧ sent ∈ added

/-- A caller with a role in one project, by a group mapping, and none elsewhere. -/
def memberOf (role : Role) (project : String) : Identity where
  subject := "member"
  username := none
  roles := []
  projectRoles := [(role, "project:" ++ project)]

theorem mem_appendNew {α : Type} [DecidableEq α] {held added : List α} {item : α}
    (there : item ∈ held) : item ∈ appendNew held added := by
  induction added generalizing held with
  | nil => exact there
  | cons first others ih =>
    apply ih
    by_cases already : first ∈ held
    · simpa only [if_pos already] using there
    · simpa only [if_neg already] using mem_append_left [first] there

theorem memberOf_bound :
    (role, "project:" ++ project) ∈ store.assignmentsOf (memberOf role project) :=
  mem_appendNew (mem_singleton.mpr rfl)

theorem memberOf_visible : store.hides (some (memberOf role project)) project = false := by
  have mine : project ∈ (store.assignmentsOf (memberOf role project)).filterMap fun held =>
      projectOfScope held.2 :=
    mem_narrowed_iff.mpr ⟨_, memberOf_bound, rfl⟩
  have narrowed : (store.readScopeOf (some (memberOf role project))).2 =
      some ((store.assignmentsOf (memberOf role project)).filterMap fun held =>
        projectOfScope held.2) := by
    have ordinary : Role.admin ∉ (memberOf role project).roles := nofun
    simp only [readScopeOf, if_neg ordinary, narrowedTo]
    exact if_neg (by simpa only [List.isEmpty_iff] using ne_nil_of_mem mine)
  simp [hides, narrowed]
  simpa using mine

theorem memberOf_reads {target : Target} (grants : role.grants .read target = true) :
    store.permitsScoped (some (memberOf role project)) .read target project = true := by
  have covers : scopeCovers ("project:" ++ project) project = true := by simp [scopeCovers]
  simp only [permitsScoped, Option.all_some, Identity.permitsScoped, Bool.or_eq_true,
    any_eq_true, Bool.and_eq_true]
  exact .inr ⟨_, memberOf_bound, covers, grants⟩

/-- A member of the stored cluster's project makes the gateway use the token under its id. -/
theorem member_sends {request : ObsRequest} {world : World Provider} {gateway : Gateway Upstream}
    {row : StoredCluster} (grants : role.grants .read request.target = true)
    (stored : world.store.clusters.find? request.id = some row)
    (forwarded : request.forwards row = true) (token : registry.HasToken request.id)
    (free : gateway.permits ≠ 0) :
    ∃ sent, Sends platform thread south registry request (memberOf role row.spec.project) world
      gateway sent ∧ registry.Bears sent := by
  rcases token with ⟨endpoint, token, known, held, legal⟩
  rcases @proxied_forwards _ _ platform thread south registry request gateway endpoint token
    known held legal free world with ⟨response, final, added, ran, sent⟩
  refine ⟨_, ⟨response, final, _, ?_, sent, mem_cons_self⟩, ?_⟩
  · exact handler_runs stored memberOf_visible (memberOf_reads grants) forwarded ran
  · exact ⟨endpoint, ClusterRegistry.mem_of_byId known, token, _, held, rfl⟩

/--
Registered tokens are used only for callers whose own roles grant the read iff no
stored cluster, of an engine for which the read is forwarded, has the id of a
registered cluster with a token, or no permit is free.
-/
theorem registry_token_needs_global_read_iff (request : ObsRequest) (world : World Provider)
    (gateway : Gateway Upstream) :
    (∀ identity sent, Sends platform thread south registry request identity world gateway sent →
        registry.Bears sent → identity.permits .read request.target = true) ↔
      ∀ row, world.store.clusters.find? request.id = some row → request.forwards row = true →
        registry.HasToken request.id → gateway.permits = 0 := by
  constructor
  · intro guarded row stored forwarded token
    by_contra free
    have grants : Role.viewer.grants .read request.target = true := by
      cases request <;> rfl
    rcases member_sends platform thread south registry grants stored forwarded token free with
      ⟨sent, sends, bears⟩
    exact Bool.false_ne_true (guarded _ _ sends bears)
  · rintro separate identity sent ⟨response, final, added, ran, appended, sentMem⟩
      ⟨_, _, token, path, _, rfl⟩
    rcases handler_ran ran with untouched | ⟨scope, inScope, reads, forwarded,
      answered⟩
    · have nothing : added = [] := by simpa [untouched] using appended
      rw [nothing] at sentMem
      cases sentMem
    · rcases proxied_sends (request.work_within south.fromSlice) answered with
        ⟨really, sentReally, authorized⟩
      have same : really = added := by
        rw [sentReally] at appended
        exact append_cancel_left appended
      rcases authorized _ (same ▸ sentMem) (by simp) with ⟨tokenHeld, free⟩
      cases found : world.store.clusters.find? request.id with
      | some row => exact absurd (separate row found (forwarded row found) tokenHeld) free
      | none =>
        -- Without a stored cluster the read is authorized against the roles alone.
        simp only [scopeOf, found] at inScope
        split at inScope
        case isTrue unknown => cases inScope
        case isFalse known =>
          split at inScope
          case isTrue narrowed => cases inScope
          case isFalse everywhere =>
            cases inScope
            exact reads

end Tokens

def prodRegistry : ClusterRegistry :=
  ⟨[⟨"prod", "prod.ray.example.com", "https://prod-head-svc:8265", some "s3cret"⟩]⟩

def silentSouth : Southbound Unit where
  dashboardApiBase := fun _ _ => none
  answer := fun _ upstream => (.error (), upstream)
  fromSlice := fun _ => none

def idleGateway : Gateway Unit where
  permits := 64
  upstream := ()
  sent := []

def operatorSpec : ClusterSpec :=
  CreateCluster.ownedSpec ⟨"prod", headOnly "p"⟩ (some (memberOf .operator "p"))

/-- An operator of one project names a cluster like a registered one and uses its token. -/
theorem project_operator_uses_registry_token :
    ∃ response world, Runs demoPlatform 0 (createCluster noPolicy
        (some (memberOf .operator "p")) ⟨"prod", headOnly "p"⟩) (demoWorld Store.empty) response
        world ∧
      ∀ request ∈ [ObsRequest.jobs "prod", ObsRequest.metrics "prod"],
        (memberOf .operator "p").permits .read request.target = false ∧
          ∃ sent, Sends demoPlatform 0 silentSouth prodRegistry request (memberOf .operator "p")
            world idleGateway sent ∧ prodRegistry.Bears sent := by
  have admitted : (demoWorld empty).store.createAdmits noPolicy
      (some (memberOf .operator "p")) "prod" operatorSpec (demoWorld empty).now = true := by
    decide +kernel
  rcases createCluster_stores demoPlatform 0 admitted rfl with
    ⟨response, stamp, world, created, quiet, _⟩
  refine ⟨response, world, created, ?_⟩
  intro request requestMem
  have named : request.id = "prod" := by
    simp at requestMem
    rcases requestMem with rfl | rfl <;> rfl
  have grants : Role.operator.grants .read request.target = true := by
    cases request <;> rfl
  have stored : world.store.clusters.find? request.id =
      some (ClusterTable.upsertedRow none "prod" operatorSpec stamp) := by
    rw [quiet.clusters, named, World.setClusters_clusters, ClusterTable.find?_upsertDesired,
      if_pos rfl]
    rfl
  have forwarded : request.forwards (ClusterTable.upsertedRow none "prod" operatorSpec stamp) =
      true := by
    cases request <;> rfl
  have token : prodRegistry.HasToken request.id := by
    rw [named]
    exact ⟨_, "s3cret", rfl, rfl, by decide +kernel⟩
  have free : idleGateway.permits ≠ 0 := by decide
  have project : (ClusterTable.upsertedRow none "prod" operatorSpec stamp).spec.project = "p" :=
    rfl
  have sends := member_sends demoPlatform 0 silentSouth prodRegistry grants stored forwarded token
    free
  rw [project] at sends
  exact ⟨rfl, sends⟩

end Mobula
