import Mobula.Api.Edge
import Mobula.Api.Observability
import Mobula.Controller.JobStores

/-!
# The job history

The gateway records a job when a cluster has answered its submission, and a background task
reads the jobs of the clusters again and again until they have ended. A record is found by the
submission id alone.
-/

namespace Mobula

open Foundation List

abbrev JobGroups := List (ClusterId × List JobRecord)

inductive HistoryCall where
  | nowUnix
  | listJobs
  | recordJob (job : JobRecord)
  | iterate (groups : JobGroups)
  | send (request : DashboardRequest)

/-- A hash map is iterated over in any order. -/
@[reducible]
def HistoryCall.Res : HistoryCall → Type
  | .nowUnix => UInt64
  | .listJobs => StoreResult (List JobRecord)
  | .recordJob _ => StoreResult Unit
  | .iterate groups => { order : JobGroups // order.Perm groups }
  | .send _ => Except Unit DashboardResponse

abbrev HistoryProgram (α : Type) := Prog HistoryCall.Res α

abbrev HistoryCall.perform (call : HistoryCall) : HistoryProgram call.Res :=
  Prog.invoke call

namespace HistoryCalls

abbrev nowUnix : HistoryProgram UInt64 := HistoryCall.perform .nowUnix

abbrev listJobs : HistoryProgram (StoreResult (List JobRecord)) := HistoryCall.perform .listJobs

abbrev recordJob (job : JobRecord) : HistoryProgram (StoreResult Unit) :=
  HistoryCall.perform (.recordJob job)

abbrev iterate (groups : JobGroups) : HistoryProgram { order : JobGroups // order.Perm groups } :=
  HistoryCall.perform (.iterate groups)

abbrev send (request : DashboardRequest) : HistoryProgram (Except Unit DashboardResponse) :=
  HistoryCall.perform (.send request)

end HistoryCalls

def MAX_SUBMIT_BODY_BYTES : ℕ := 64 * 1024

def isTerminal (status : String) : Bool :=
  status = "SUCCEEDED" || status = "FAILED" || status = "STOPPED"

def isRayJobSubmit (method : Method) (path : String) : Bool :=
  method = .other "POST" && (path = "/api/jobs" || path = "/api/jobs/")

variable (fromSlice : List UInt8 → Option Json)

def parseSubmissionId (body : List UInt8) : Option String :=
  (fromSlice body).bind fun reply =>
    ((reply.get? "submission_id").bind Json.asStr?).or ((reply.get? "job_id").bind Json.asStr?)

def pendingJob (id : String) (cluster : ClusterId) (subject : Option String) (now : UInt64) :
    JobRecord where
  id := id
  cluster := cluster
  submitter := subject.getD "-"
  status := "PENDING"
  durationSecs := none
  submittedAt := now.toNat

def recordSubmission (cluster : ClusterId) (subject : Option String) (body : List UInt8) :
    HistoryProgram Unit :=
  match parseSubmissionId fromSlice body with
  | none => return ()
  | some id => do
      let now ← HistoryCalls.nowUnix
      let _ ← HistoryCalls.recordJob (pendingJob id cluster subject now)
      return ()

structure ProxiedRequest where
  method : Method
  path : String
  cluster : ClusterId
  subject : Option String
  answer : DashboardResponse

inductive ProxyReply where
  | streamed (answer : DashboardResponse)
  | buffered (status : ℕ) (body : List UInt8)
  | bodyTooLarge

/-- How the gateway passes an answer on: the one to a job submission is recorded first. -/
def forward (request : ProxiedRequest) : HistoryProgram ProxyReply :=
  if isRayJobSubmit request.method request.path && isSuccess request.answer.status then
    match readBody MAX_SUBMIT_BODY_BYTES [] request.answer.chunks with
    | .error _ => return .bodyTooLarge
    | .ok body => do
        recordSubmission fromSlice request.cluster request.subject body
        return .buffered request.answer.status body
  else return .streamed request.answer

def addToGroup (job : JobRecord) : JobGroups → JobGroups
  | [] => [(job.cluster, [job])]
  | (cluster, jobs) :: groups =>
    if cluster = job.cluster then (cluster, jobs ++ [job]) :: groups
    else (cluster, jobs) :: addToGroup job groups

def byCluster (jobs : List JobRecord) : JobGroups :=
  (jobs.filter fun job => !isTerminal job.status).foldl (fun groups job => addToGroup job groups) []

/-- Whether `error_for_status` turns the answer into an error. -/
def isErrorStatus (status : ℕ) : Bool :=
  400 ≤ status && status < 600

def fetchJobs (apiBaseUrl : String) (token : Option String) :
    HistoryProgram (Except Unit (List RayJobSummary)) :=
  match bearerOf token with
  | .error _ => return .error ()
  | .ok bearer => do
      match ← HistoryCalls.send ⟨trimEndSlashes apiBaseUrl ++ "/api/jobs/", bearer⟩ with
      | .error _ => return .error ()
      | .ok answer =>
        if isErrorStatus answer.status then return .error ()
        else
          match answer.chunks.mapM id with
          | .error _ => return .error ()
          | .ok chunks =>
            match fromSlice chunks.flatten with
            | none => return .error ()
            | some raw => return .ok (normalizeJobs raw)

/-- The summary of a job; of several with its id, the index keeps the last. -/
def summaryOf (summaries : List RayJobSummary) (id : String) : Option RayJobSummary :=
  summaries.reverse.find? fun summary => summary.submissionId = some id

def durationOf (job : JobRecord) (summary : RayJobSummary) : Option ℕ :=
  match summary.startTime, summary.endTime with
  | some start, some stop => if start ≤ stop then some ((stop - start) / 1000) else job.durationSecs
  | _, _ => job.durationSecs

def mergeStatus (job : JobRecord) (summary : RayJobSummary) : Option JobRecord :=
  summary.status.bind fun status =>
    let durationSecs := durationOf job summary
    if status = job.status ∧ durationSecs = job.durationSecs then none
    else some { job with status, durationSecs }

def refreshRecords (summaries : List RayJobSummary) :
    List JobRecord → ℕ → HistoryProgram (StoreResult ℕ)
  | [], updated => return .ok updated
  | job :: jobs, updated =>
    match (summaryOf summaries job.id).bind (mergeStatus job) with
    | none => refreshRecords summaries jobs updated
    | some next => do
        match ← HistoryCalls.recordJob next with
        | .error failure => return .error failure
        | .ok _ => refreshRecords summaries jobs (updated + 1)

variable (registry : ClusterRegistry)

def refreshClusters : JobGroups → ℕ → HistoryProgram (StoreResult ℕ)
  | [], updated => return .ok updated
  | (cluster, jobs) :: groups, updated =>
    match registry.byId cluster with
    | none => refreshClusters groups updated
    | some endpoint => do
        match ← fetchJobs fromSlice endpoint.apiBaseUrl endpoint.authToken with
        | .error _ => refreshClusters groups updated
        | .ok summaries =>
          match ← refreshRecords summaries jobs updated with
          | .error failure => return .error failure
          | .ok updated => refreshClusters groups updated

def refreshOnce : HistoryProgram (StoreResult ℕ) := do
  match ← HistoryCalls.listJobs with
  | .error failure => return .error failure
  | .ok jobs =>
    let order ← HistoryCalls.iterate (byCluster jobs)
    refreshClusters fromSlice registry order.1 0

def refresher : ℕ → HistoryProgram Unit
  | 0 => return ()
  | passes + 1 => do
      let _ ← refreshOnce fromSlice registry
      refresher passes

/-- The store, the clock, and what the clusters and the hash maps are going to answer. -/
structure HistoryWorld (store : JobStore) where
  jobs : store.State
  clock : UInt64
  order : (groups : JobGroups) → { order : JobGroups // order.Perm groups }
  answer : DashboardRequest → Except Unit DashboardResponse

def execHistory {store : JobStore} (call : HistoryCall) (world : HistoryWorld store) :
    call.Res × HistoryWorld store :=
  match call with
  | .nowUnix => (world.clock, world)
  | .listJobs => (.ok (store.listJobs world.jobs), world)
  | .recordJob job => (.ok (), { world with jobs := store.recordJob job world.jobs })
  | .iterate groups => (world.order groups, world)
  | .send request => (world.answer request, world)

inductive HistoryRole where
  | gateway (request : ProxiedRequest)
  | refresher (passes : ℕ)

/-- Requests come in at any time, and there is one refresher. -/
def historySystem (store : JobStore) :
    System HistoryCall.Res (HistoryWorld store) HistoryRole where
  exec _ call world := some (execHistory call world)
  behaviour
    | .gateway request => do let _ ← forward fromSlice request; return ()
    | .refresher passes => refresher fromSlice registry passes
  admits config
    | .gateway _ => True
    | .refresher _ => ∀ i thread, config.threads i = some thread →
        ∀ passes, thread.role ≠ .refresher passes
  stoppable _ := False
  drift before after := after.jobs = before.jobs

section Discipline

variable {fromSlice} {registry} {past : List (Event HistoryCall.Res)}

/-- The jobs that a pass still has to look at, after a call of it. -/
def ownedAfter (owned : List JobRecord) (event : Event HistoryCall.Res) : List JobRecord :=
  match event with
  | ⟨.listJobs, .ok jobs⟩ => jobs.filter fun job => !isTerminal job.status
  | ⟨.recordJob recorded, _⟩ => owned.filter fun job => job.id ≠ recorded.id
  | _ => owned

/-- What the last listing gave, without the jobs that were recorded since. -/
def owned (past : List (Event HistoryCall.Res)) : List JobRecord :=
  past.foldl ownedAfter []

theorem owned_append {event : Event HistoryCall.Res} :
    owned (past ++ [event]) = ownedAfter (owned past) event := by
  simp [owned]

def ListsOnce (_ : List (Event HistoryCall.Res)) :
    (call : HistoryCall) → call.Res → Prop
  | .listJobs, .ok jobs => (jobs.map JobRecord.id).Nodup
  | _, _ => True

/-- Only jobs of the last listing are recorded, each at most once. -/
def MayRecord (past : List (Event HistoryCall.Res)) : HistoryCall → Prop
  | .recordJob next => ∃ job ∈ owned past, SameSubmission next job
  | _ => True

theorem mergeStatus_same {job next : JobRecord} {summary : RayJobSummary}
    (merged : mergeStatus job summary = some next) : SameSubmission next job := by
  simp only [mergeStatus, Option.bind_eq_some_iff, Option.ite_none_left_eq_some] at merged
  rcases merged with ⟨status, _, _, merged⟩
  cases merged
  exact ⟨rfl, rfl, rfl, rfl⟩

theorem fetchJobs_obeys (apiBaseUrl : String) (token : Option String) (kept : List JobRecord)
    (held : kept ⊆ owned past) : (fetchJobs fromSlice apiBaseUrl token).Obeys ListsOnce MayRecord
      (fun later _ => kept ⊆ owned later) past := by
  unfold fetchJobs
  split
  · exact held
  · refine Prog.Obeys.invoke trivial fun answer _ => ?_
    have still : kept ⊆ owned (past ++ [⟨.send _, answer⟩]) := by
      rw [owned_append]
      exact held
    split
    · exact still
    split
    · exact still
    split
    · exact still
    split <;> exact still

theorem refreshRecords_obeys (summaries : List RayJobSummary) (jobs kept : List JobRecord)
    (updated : ℕ) (distinct : ((jobs ++ kept).map JobRecord.id).Nodup)
    (held : jobs ++ kept ⊆ owned past) :
    (refreshRecords summaries jobs updated).Obeys ListsOnce MayRecord
      (fun later _ => kept ⊆ owned later) past := by
  induction jobs generalizing past updated with
  | nil => exact held
  | cons job jobs ih =>
    rw [cons_append, map_cons, nodup_cons] at distinct
    rw [cons_append, cons_subset] at held
    unfold refreshRecords
    split
    · exact ih updated distinct.2 held.2
    case h_2 next merged =>
      rcases Option.bind_eq_some_iff.mp merged with ⟨summary, _, merged⟩
      have same := mergeStatus_same merged
      refine Prog.Obeys.invoke ⟨job, held.1, same⟩ fun answer _ => ?_
      have still : jobs ++ kept ⊆ owned (past ++ [⟨.recordJob next, answer⟩]) := by
        intro other member
        simp [owned_append, ownedAfter]
        refine ⟨held.2 member, ?_⟩
        simp [same.id]
        intro sameId
        exact distinct.1 (sameId ▸ mem_map_of_mem member)
      rcases answer with failure | _
      · exact fun other member => still (by simp [member])
      · exact ih (updated + 1) distinct.2 still

theorem refreshClusters_obeys (groups : JobGroups) (updated : ℕ)
    (distinct : ((groups.flatMap (·.2)).map JobRecord.id).Nodup)
    (held : groups.flatMap (·.2) ⊆ owned past) :
    (refreshClusters fromSlice registry groups updated).Obeys ListsOnce MayRecord
      (fun _ _ => True) past := by
  induction groups generalizing past updated with
  | nil => trivial
  | cons group groups ih =>
    rcases group with ⟨cluster, jobs⟩
    rw [flatMap_cons] at distinct held
    have others : ((groups.flatMap (·.2)).map JobRecord.id).Nodup := by
      rw [map_append] at distinct
      exact distinct.of_append_right
    unfold refreshClusters
    split
    · exact ih updated others fun job member => held (by simp [member])
    · refine (fetchJobs_obeys _ _ _ held).bind fun fetched summaries still => ?_
      rcases summaries with _ | summaries
      · exact ih updated others fun job member => still (by simp [member])
      refine (refreshRecords_obeys summaries jobs _ updated distinct still).bind ?_
      rintro recorded (_ | updated) kept
      · trivial
      · exact ih updated others kept

theorem flatMap_addToGroup (job : JobRecord) (groups : JobGroups) :
    ((addToGroup job groups).flatMap (·.2)).Perm (job :: groups.flatMap (·.2)) := by
  induction groups with
  | nil => exact .refl _
  | cons group groups ih =>
    unfold addToGroup
    split
    · simp only [flatMap_cons, append_assoc, singleton_append]
      exact perm_middle
    · simp
      exact (ih.append_left _).trans perm_middle

theorem flatMap_byCluster {jobs : List JobRecord} :
    ((byCluster jobs).flatMap (·.2)).Perm (jobs.filter fun job => !isTerminal job.status) := by
  have grouped (jobs : List JobRecord) (groups : JobGroups) :
      ((jobs.foldl (fun groups job => addToGroup job groups) groups).flatMap (·.2)).Perm
        (jobs ++ groups.flatMap (·.2)) := by
    induction jobs generalizing groups with
    | nil => exact .refl _
    | cons job jobs ih =>
      refine (ih _).trans (((flatMap_addToGroup job groups).append_left jobs).trans ?_)
      exact perm_middle
  simpa [byCluster] using grouped (jobs.filter fun job => !isTerminal job.status) []

theorem refreshOnce_obeys :
    (refreshOnce fromSlice registry).Obeys ListsOnce MayRecord (fun _ _ => True) past := by
  refine Prog.Obeys.invoke trivial fun answer listsOnce => ?_
  rcases answer with failure | jobs
  · trivial
  refine Prog.Obeys.invoke trivial fun order _ => ?_
  have listed : (order.1.flatMap (·.2)).Perm (jobs.filter fun job => !isTerminal job.status) :=
    (order.2.flatMap_right _).trans flatMap_byCluster
  apply refreshClusters_obeys
  · exact (listed.map _).nodup_iff.mpr (listsOnce.sublist (filter_sublist.map _))
  · rw [owned_append, owned_append]
    exact listed.subset

theorem refresher_obeys {passes : ℕ} :
    (refresher fromSlice registry passes).Obeys ListsOnce MayRecord (fun _ _ => True) past := by
  induction passes generalizing past with
  | zero => trivial
  | succ passes ih => exact refreshOnce_obeys.bind fun _ _ _ => ih

end Discipline

end Mobula
