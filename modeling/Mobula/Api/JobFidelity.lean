import Mobula.Api.JobHistory

/-!
# What the job history keeps

A step of the gateway or of the refresher does one of three things to the records: nothing,
adding the record of a submission, or carrying the record of a job that has not ended further.
-/

namespace Mobula

open Foundation System.Run List

variable {store : JobStore}

/-- What happens to the records, by the refresher or not, with the submission that is recorded. -/
inductive JobsStep (store : JobStore) (before after : store.State) :
    Bool → Option JobRecord → Prop
  | quiet {refreshing : Bool} (same : after = before) : JobsStep store before after refreshing none
  | submits {job : JobRecord} (written : after = store.recordJob job before)
      (fresh : ∀ record ∈ store.listJobs before, record.id ≠ job.id)
      (durationSecs : job.durationSecs = none) (submittedAt : job.submittedAt < 2 ^ 64) :
      JobsStep store before after false (some job)
  | refreshes {job old : JobRecord} (written : after = store.recordJob job before)
      (listed : old ∈ store.listJobs before) (active : isTerminal old.status = false)
      (same : SameSubmission job old) : JobsStep store before after true none

variable {refreshing : Bool} {submitted : Option JobRecord}

namespace JobsStep

variable {before after : store.State} {record : JobRecord}

section

variable (step : JobsStep store before after refreshing submitted) (keyed : store.Keyed)
  (listed : record ∈ store.listJobs before)

include step keyed listed

theorem keeps_terminal (ended : isTerminal record.status = true) :
    record ∈ store.listJobs after := by
  cases step with
  | quiet same => exact same ▸ listed
  | submits written fresh _ _ =>
    rw [written, keyed.others (fresh record listed)]
    exact listed
  | refreshes written oldListed active same =>
    rw [written, keyed.others]
    · exact listed
    · intro sameId
      cases keyed.eq_of_id_eq listed oldListed (sameId.trans same.id)
      rw [ended] at active
      cases active

theorem keeps_submission : ∃ still ∈ store.listJobs after, SameSubmission still record := by
  cases step with
  | quiet same => exact ⟨record, same ▸ listed, .refl record⟩
  | submits written fresh _ _ =>
    rw [written]
    exact ⟨record, (keyed.others (fresh record listed)).mpr listed, .refl record⟩
  | @refreshes job old written oldListed active same =>
    rw [written]
    by_cases sameId : record.id = job.id
    · cases keyed.eq_of_id_eq listed oldListed (sameId.trans same.id)
      exact keyed.updates listed same
    · exact ⟨record, (keyed.others sameId).mpr listed, .refl record⟩

end

theorem keeps_listed (step : JobsStep store before after false submitted)
    (keyed : store.Keyed) (listed : record ∈ store.listJobs before) :
    record ∈ store.listJobs after := by
  cases step with
  | quiet same => exact same ▸ listed
  | submits written fresh _ _ =>
    rw [written, keyed.others (fresh record listed)]
    exact listed

theorem lists_submitted {job : JobRecord} (step : JobsStep store before after refreshing (some job))
    (keyed : store.Keyed) : job ∈ store.listJobs after := by
  cases step with
  | submits written fresh durationSecs submittedAt =>
    rw [written]
    exact keyed.inserts fresh durationSecs submittedAt

theorem known_or_submitted (step : JobsStep store before after refreshing submitted)
    (keyed : store.Keyed) (listed : record ∈ store.listJobs after) :
    (∃ old ∈ store.listJobs before, old.id = record.id) ∨
      ∃ job, submitted = some job ∧ job.id = record.id := by
  cases step with
  | quiet same => exact .inl ⟨record, same ▸ listed, rfl⟩
  | @submits job written _ _ _ =>
    by_cases sameId : record.id = job.id
    · exact .inr ⟨job, rfl, sameId.symm⟩
    · rw [written, keyed.others sameId] at listed
      exact .inl ⟨record, listed, rfl⟩
  | @refreshes job old written oldListed _ same =>
    by_cases sameId : record.id = job.id
    · exact .inl ⟨old, oldListed, same.id.symm.trans sameId.symm⟩
    · rw [written, keyed.others sameId] at listed
      exact .inl ⟨record, listed, rfl⟩

end JobsStep

abbrev HistoryStep (store : JobStore) := Step HistoryCall.Res (HistoryWorld store) HistoryRole

abbrev HistoryConfig (store : JobStore) := Config HistoryCall.Res (HistoryWorld store) HistoryRole

def submittedJob : HistoryRole → HistoryCall → Option JobRecord
  | .gateway _, .recordJob job => some job
  | _, _ => none

def HistoryRole.isRefresher : HistoryRole → Bool
  | .gateway _ => false
  | .refresher _ => true

/-- The jobs that the gateway has recorded. -/
def submissions (trace : List (HistoryStep store)) : List JobRecord :=
  trace.filterMap fun step => submittedJob step.role step.op

variable (fromSlice : List UInt8 → Option Json) (registry : ClusterRegistry)

def ProxiedRequest.submissionId (request : ProxiedRequest) : Option String :=
  if isRayJobSubmit request.method request.path && isSuccess request.answer.status then
    match readBody MAX_SUBMIT_BODY_BYTES [] request.answer.chunks with
    | .error _ => none
    | .ok body => parseSubmissionId fromSlice body
  else none

/-- Every answered submission has a record of its own, with the submitter and the time of the first
submission of its cluster and id. -/
def AllRecorded (trace : List (HistoryStep store)) (config : HistoryConfig store) : Prop :=
  ∀ i request id, config.threads i = some ⟨.gateway request, .ret ()⟩ →
    request.submissionId fromSlice = some id →
    ∃ first record,
      (submissions trace).find? (fun job => job.cluster = request.cluster && job.id = id) =
        some first ∧
      record ∈ store.listJobs config.state.jobs ∧ record.id = id ∧
      record.cluster = request.cluster ∧ record.submitter = first.submitter ∧
      record.submittedAt = first.submittedAt

/-- How far the gateway has come with a request. -/
inductive Forwarding (request : ProxiedRequest) (recorded : List JobRecord) :
    HistoryProgram Unit → Prop
  | silent (unanswered : request.submissionId fromSlice = none) :
      Forwarding request recorded (.ret ())
  | arriving {id : String} (answered : request.submissionId fromSlice = some id) :
      Forwarding request recorded (.call .nowUnix fun now =>
        .call (.recordJob (pendingJob id request.cluster request.subject now)) fun _ => .ret ())
  | recording {id : String} (now : UInt64) (answered : request.submissionId fromSlice = some id) :
      Forwarding request recorded
        (.call (.recordJob (pendingJob id request.cluster request.subject now)) fun _ => .ret ())
  | done {id : String} {job : JobRecord} (answered : request.submissionId fromSlice = some id)
      (member : job ∈ recorded) (sameId : job.id = id)
      (sameCluster : job.cluster = request.cluster) :
      Forwarding request recorded (.ret ())

variable {fromSlice}

theorem forwarding_behaviour {request : ProxiedRequest} {recorded : List JobRecord} :
    Forwarding fromSlice request recorded
      ((historySystem fromSlice registry store).behaviour (.gateway request)) := by
  have unfolded : (historySystem fromSlice registry store).behaviour (.gateway request) =
      (forward fromSlice request >>= fun _ => .ret ()) := rfl
  rw [unfolded, forward]
  split
  case isFalse other => exact .silent (by rw [ProxiedRequest.submissionId, if_neg other])
  case isTrue submits =>
    split
    case h_1 read =>
      exact .silent (by rw [ProxiedRequest.submissionId, if_pos submits, read])
    case h_2 body read =>
      have same : request.submissionId fromSlice = parseSubmissionId fromSlice body := by
        rw [ProxiedRequest.submissionId, if_pos submits, read]
      rw [recordSubmission]
      split
      case h_1 absent => exact .silent (same.trans absent)
      case h_2 id parsed => exact .arriving (same.trans parsed)

theorem Forwarding.mono {request : ProxiedRequest} {recorded more : List JobRecord}
    {program : HistoryProgram Unit} (stage : Forwarding fromSlice request recorded program)
    (subset : recorded ⊆ more) : Forwarding fromSlice request more program := by
  cases stage with
  | silent unanswered => exact .silent unanswered
  | arriving answered => exact .arriving answered
  | recording now answered => exact .recording now answered
  | done answered member sameId sameCluster =>
    exact .done answered (subset member) sameId sameCluster

theorem active_of_owned {past : List (Event HistoryCall.Res)} {job : JobRecord}
    (member : job ∈ owned past) : isTerminal job.status = false := by
  induction past using reverseRecOn with
  | nil => cases member
  | append_singleton past event ih =>
    rw [owned_append] at member
    unfold ownedAfter at member
    split at member
    · simpa using (mem_filter.mp member).2
    · exact ih (mem_filter.mp member).1
    · exact ih member

variable (fromSlice)

/-- What holds in every state of a run. -/
structure HistoryStanding (trace : List (HistoryStep store)) (config : HistoryConfig store) :
    Prop where
  sole : ∀ i j first second program program',
    config.threads i = some ⟨.refresher first, program⟩ →
    config.threads j = some ⟨.refresher second, program'⟩ → i = j
  stored : ∀ job ∈ submissions trace,
    ∃ record ∈ store.listJobs config.state.jobs, SameSubmission record job
  known : ∀ record ∈ store.listJobs config.state.jobs, ∃ job ∈ submissions trace, job.id = record.id
  forwarding : ∀ i request program, config.threads i = some ⟨.gateway request, program⟩ →
    Forwarding fromSlice request (submissions trace) program
  refreshing : ∀ i passes program, config.threads i = some ⟨.refresher passes, program⟩ →
    ∃ past, program.Obeys ListsOnce MayRecord (fun _ _ => True) past ∧
      owned past ⊆ store.listJobs config.state.jobs

variable {fromSlice} {trace : List (HistoryStep store)} {config : HistoryConfig store}
  {i : ℕ} {role : HistoryRole} {op : HistoryCall} {next : op.Res → HistoryProgram Unit}

theorem submissions_append {step : HistoryStep store} : submissions (trace ++ [step]) =
      submissions trace ++ (submittedJob step.role step.op).toList := by
  cases submitted : submittedJob step.role step.op <;> simp [submissions, submitted]

theorem HistoryStanding.jobsStep (standing : HistoryStanding fromSlice trace config)
    (ready : config.threads i = some ⟨role, .call op next⟩)
    (fresh : ∀ job, submittedJob role op = some job →
      ∀ earlier ∈ submissions trace, earlier.id ≠ job.id) :
    JobsStep store config.state.jobs (execHistory op config.state).2.jobs role.isRefresher
      (submittedJob role op) := by
  cases role with
  | gateway request =>
    have stage := standing.forwarding i request _ ready
    generalize same : Prog.call op next = program at stage
    cases stage with
    | arriving _ => cases same; exact .quiet rfl
    | recording now _ =>
      cases same
      refine .submits rfl ?_ rfl now.toNat_lt
      intro record listed
      rcases standing.known record listed with ⟨job, member, sameId⟩
      rw [← sameId]
      exact fresh _ rfl job member
    | silent _ => cases same
    | done _ _ _ _ => cases same
  | refresher passes =>
    rcases standing.refreshing i passes _ ready with ⟨past, obeys, listed⟩
    cases op with
    | recordJob job =>
      rcases obeys.1 with ⟨old, member, same⟩
      exact .refreshes rfl (listed member) (active_of_owned member) same
    | _ => exact .quiet rfl

variable {past : List (Event HistoryCall.Res)} {world : HistoryWorld store}

theorem owned_step (keyed : store.Keyed) (listed : owned past ⊆ store.listJobs world.jobs) :
    owned (past ++ [⟨op, (execHistory op world).1⟩]) ⊆
      store.listJobs (execHistory op world).2.jobs := by
  rw [owned_append]
  cases op with
  | listJobs => exact filter_sublist.subset
  | recordJob recorded =>
    intro job member
    simp [ownedAfter] at member
    exact (keyed.others member.2).mpr (listed member.1)
  | _ => exact listed

theorem execHistory_listsOnce (keyed : store.Keyed) :
    ListsOnce past op (execHistory op world).1 := by
  cases op with
  | listJobs => exact keyed.distinct world.jobs
  | _ => trivial

theorem started_before {role' : HistoryRole} {j : ℕ} {program : HistoryProgram Unit}
    {state : HistoryWorld store} {answer : op.Res}
    (ready : config.threads i = some ⟨role, .call op next⟩)
    (started : ({ config with state := state }.setThread i ⟨role, next answer⟩).threads j =
      some ⟨role', program⟩) : ∃ program, config.threads j = some ⟨role', program⟩ := by
  rw [Config.setThread_threads] at started
  split at started
  case isTrue same =>
    cases started
    exact ⟨_, same ▸ ready⟩
  case isFalse => exact ⟨program, started⟩

theorem Forwarding.step {request : ProxiedRequest} {recorded : List JobRecord}
    (stage : Forwarding fromSlice request recorded (.call op next)) (answer : op.Res) :
    Forwarding fromSlice request (recorded ++ (submittedJob (.gateway request) op).toList)
      (next answer) := by
  generalize isNext : Prog.call op next = program at stage
  cases stage with
  | arriving answered =>
    cases isNext
    exact .recording _ answered
  | recording now answered =>
    cases isNext
    exact .done answered (mem_append_right _ (mem_singleton_self _)) rfl rfl
  | silent _ => cases isNext
  | done _ _ _ _ => cases isNext

section Stepping

variable {after : store.State} (standing : HistoryStanding fromSlice trace config)
  (keyed : store.Keyed) (effect : JobsStep store config.state.jobs after refreshing submitted)

include standing keyed effect

theorem HistoryStanding.stored_step {job : JobRecord}
    (member : job ∈ submissions trace ++ submitted.toList) :
    ∃ record ∈ store.listJobs after, SameSubmission record job := by
  simp [Option.mem_toList] at member
  rcases member with earlier | rfl
  · rcases standing.stored job earlier with ⟨record, listed, same⟩
    rcases effect.keeps_submission keyed listed with ⟨still, stillListed, stillSame⟩
    exact ⟨still, stillListed, stillSame.trans same⟩
  · exact ⟨job, effect.lists_submitted keyed, .refl job⟩

theorem HistoryStanding.known_step {record : JobRecord} (listed : record ∈ store.listJobs after) :
    ∃ job ∈ submissions trace ++ submitted.toList, job.id = record.id := by
  rcases effect.known_or_submitted keyed listed with ⟨old, oldListed, sameId⟩ | ⟨job, rfl, sameId⟩
  · rcases standing.known old oldListed with ⟨job, member, isOld⟩
    exact ⟨job, mem_append_left _ member, isOld.trans sameId⟩
  · exact ⟨job, mem_append_right _ (mem_singleton_self _), sameId⟩

end Stepping

theorem HistoryStanding.step (standing : HistoryStanding fromSlice trace config)
    (keyed : store.Keyed) (ready : config.threads i = some ⟨role, .call op next⟩)
    (fresh : ∀ job, submittedJob role op = some job →
      ∀ earlier ∈ submissions trace, earlier.id ≠ job.id) :
    HistoryStanding fromSlice
      (trace ++ [⟨i, role, config.state, op, (execHistory op config.state).1,
        (execHistory op config.state).2⟩])
      ({ config with state := (execHistory op config.state).2 }.setThread i
        ⟨role, next (execHistory op config.state).1⟩) := by
  have effect := standing.jobsStep ready fresh
  constructor
  · intro first second _ _ _ _ isFirst isSecond
    rcases started_before ready isFirst with ⟨_, wasFirst⟩
    rcases started_before ready isSecond with ⟨_, wasSecond⟩
    exact standing.sole first second _ _ _ _ wasFirst wasSecond
  · intro job member
    rw [submissions_append] at member
    exact standing.stored_step keyed effect member
  · intro record listed
    rw [submissions_append]
    exact standing.known_step keyed effect listed
  · intro j request program started
    rw [Config.setThread_threads] at started
    rw [submissions_append]
    split at started
    case isTrue =>
      cases started
      exact (standing.forwarding i request _ ready).step _
    case isFalse =>
      exact (standing.forwarding j request program started).mono (subset_append_left _ _)
  · intro j passes program started
    rw [Config.setThread_threads] at started
    split at started
    case isTrue =>
      cases started
      rcases standing.refreshing i passes _ ready with ⟨past, obeys, listed⟩
      exact ⟨_, obeys.2 _ (execHistory_listsOnce keyed), owned_step keyed listed⟩
    case isFalse differs =>
      rcases standing.refreshing j passes program started with ⟨past, obeys, listed⟩
      -- the refresher is another thread, so that the records it works on are left alone
      cases role with
      | refresher _ => exact absurd (standing.sole j i _ _ _ _ started ready) differs
      | gateway request =>
        exact ⟨past, obeys, fun job member => effect.keeps_listed keyed (listed member)⟩

section Runs

variable {world : HistoryWorld store} {registry}

/-- With different ids, a submission is recorded under an id that none had before. -/
theorem fresh_of_distinct {step : HistoryStep store}
    (distinct : ((submissions (trace ++ [step])).map JobRecord.id).Nodup) (job : JobRecord)
    (submitted : submittedJob step.role step.op = some job) :
    ∀ earlier ∈ submissions trace, earlier.id ≠ job.id := by
  rw [submissions_append, submitted, map_append, nodup_append] at distinct
  intro earlier member
  exact distinct.2.2 _ (mem_map_of_mem member) _ (by simp)

theorem distinct_of_append {later : List (HistoryStep store)}
    (distinct : ((submissions (trace ++ later)).map JobRecord.id).Nodup) :
    ((submissions trace).map JobRecord.id).Nodup := by
  simp [submissions] at distinct
  exact distinct.of_append_left

theorem of_executed {state after : HistoryWorld store} {answer : op.Res}
    (answered : (historySystem fromSlice registry store).exec i op state = some (answer, after)) :
    (execHistory op state).1 = answer ∧ (execHistory op state).2 = after := by
  have executed : execHistory op state = (answer, after) := Option.some.inj answered
  simp [executed]

theorem standing_of_run (keyed : store.Keyed) (unrecorded : world.jobs = store.empty)
    (run : (historySystem fromSlice registry store).Run (.start world) trace config)
    (distinct : ((submissions trace).map JobRecord.id).Nodup) :
    HistoryStanding fromSlice trace config := by
  induction run with
  | refl =>
    have none : store.listJobs (Config.start world : HistoryConfig store).state.jobs = [] := by
      change store.listJobs world.jobs = []
      rw [unrecorded, keyed.unrecorded]
    refine ⟨?_, ?_, ?_, ?_, ?_⟩
    · intro _ _ _ _ _ _ started
      cases started
    · intro _ member
      cases member
    · intro record listed
      rw [none] at listed
      cases listed
    · intro _ _ _ started
      cases started
    · intro _ _ _ started
      cases started
  | @spawn trace config i role run fresh admitted ih =>
    have standing := ih distinct
    refine ⟨?_, standing.stored, standing.known, ?_, ?_⟩
    · intro j k first second program program' isFirst isSecond
      rw [Config.setThread_threads] at isFirst isSecond
      split at isFirst <;> split at isSecond
      case isTrue.isTrue isI isI' => exact isI.trans isI'.symm
      case isTrue.isFalse isI _ =>
        cases isFirst
        exact absurd rfl (admitted k _ isSecond second)
      case isFalse.isTrue _ isI =>
        cases isSecond
        exact absurd rfl (admitted j _ isFirst first)
      case isFalse.isFalse => exact standing.sole j k _ _ _ _ isFirst isSecond
    · intro j request program started
      rw [Config.setThread_threads] at started
      split at started
      · cases started
        exact forwarding_behaviour registry
      · exact standing.forwarding j request program started
    · intro j passes program started
      rw [Config.setThread_threads] at started
      split at started
      · cases started
        exact ⟨[], refresher_obeys, nil_subset _⟩
      · exact standing.refreshing j passes program started
  | @drift trace config state run moved ih =>
    have standing := ih distinct
    have same : state.jobs = config.state.jobs := moved
    exact ⟨standing.sole, by simpa [same] using standing.stored,
      by simpa [same] using standing.known, standing.forwarding,
      by simpa [same] using standing.refreshing⟩
  | stop i thread run started stoppable ih => exact stoppable.elim
  | step i role op next answer state run ready answered ih =>
    rcases of_executed answered with ⟨rfl, rfl⟩
    exact (ih (distinct_of_append distinct)).step keyed ready (fresh_of_distinct distinct)

theorem HistoryStanding.allRecorded (standing : HistoryStanding fromSlice trace config) :
    AllRecorded fromSlice trace config := by
  intro i request id finished answered
  have stage := standing.forwarding i request _ finished
  generalize isDone : (Prog.ret () : HistoryProgram Unit) = program at stage
  cases stage with
  | silent unanswered =>
    rw [unanswered] at answered
    cases answered
  | arriving _ => cases isDone
  | recording _ _ => cases isDone
  | @done _ job answered' member sameId sameCluster =>
    rw [answered'] at answered
    cases answered
    have found : ((submissions trace).find? fun job =>
        job.cluster = request.cluster && job.id = id).isSome := by
      rw [find?_isSome]
      exact ⟨job, member, by simp [sameId, sameCluster]⟩
    rcases Option.isSome_iff_exists.mp found with ⟨first, isFirst⟩
    have picked := find?_some isFirst
    simp at picked
    rcases standing.stored first (mem_of_find?_eq_some isFirst) with ⟨record, listed, same⟩
    exact ⟨first, record, isFirst, listed, same.id.trans picked.2, same.cluster.trans picked.1,
      same.submitter, same.submittedAt⟩

theorem terminal_kept (keyed : store.Keyed) (unrecorded : world.jobs = store.empty)
    {earlier later : List (HistoryStep store)} {middle : HistoryConfig store}
    (first : (historySystem fromSlice registry store).Run (.start world) earlier middle)
    (second : (historySystem fromSlice registry store).Run middle later config)
    (distinct : ((submissions (earlier ++ later)).map JobRecord.id).Nodup) {record : JobRecord}
    (listed : record ∈ store.listJobs middle.state.jobs) (ended : isTerminal record.status = true) :
    record ∈ store.listJobs config.state.jobs := by
  induction second with
  | refl => exact listed
  | spawn i role _ _ _ ih => exact ih distinct
  | @drift _ config state _ moved ih =>
    have same : state.jobs = config.state.jobs := moved
    change record ∈ store.listJobs state.jobs
    rw [same]
    exact ih distinct
  | stop i thread _ _ stoppable _ => exact stoppable.elim
  | step i role op next answer state run ready answered ih =>
    rcases of_executed answered with ⟨rfl, rfl⟩
    rw [← append_assoc] at distinct
    have before := distinct_of_append distinct
    have standing := standing_of_run keyed unrecorded (first.trans run) before
    exact (standing.jobsStep ready (fresh_of_distinct distinct)).keeps_terminal keyed (ih before)
      ended

end Runs

/-- In a run in which all submissions are answered with different ids, every answered submission
has a record of its own, and the record of a job that has ended stays as it is. -/
theorem job_history_faithful (backend : JobBackend) (fromSlice : List UInt8 → Option Json)
    (registry : ClusterRegistry) {world : HistoryWorld backend.store}
    {earlier later : List (HistoryStep backend.store)} {middle config : HistoryConfig backend.store}
    (unrecorded : world.jobs = backend.store.empty)
    (first : (historySystem fromSlice registry backend.store).Run (.start world) earlier middle)
    (second : (historySystem fromSlice registry backend.store).Run middle later config)
    (distinct : ((submissions (earlier ++ later)).map JobRecord.id).Nodup) :
    AllRecorded fromSlice (earlier ++ later) config ∧
      ∀ record ∈ backend.store.listJobs middle.state.jobs, isTerminal record.status = true →
        record ∈ backend.store.listJobs config.state.jobs := by
  have keyed := backend.store_keyed
  have standing := standing_of_run keyed unrecorded (first.trans second) distinct
  exact ⟨standing.allRecorded, fun record listed ended =>
    terminal_kept keyed unrecorded first second distinct listed ended⟩

def unrecordedWorld (store : JobStore) : HistoryWorld store where
  jobs := store.empty
  clock := 5
  order groups := ⟨groups, .refl groups⟩
  answer _ := .ok ⟨200, [.ok [1]]⟩

/-- A job submission that a cluster answers with the given bytes. -/
def submitTo (cluster : ClusterId) (subject : String) (reply : List UInt8) : ProxiedRequest where
  method := .other "POST"
  path := "/api/jobs/"
  cluster := cluster
  subject := some subject
  answer := ⟨200, [.ok reply]⟩

/-- The replies to two submissions, and a list of jobs. -/
def demoReply : List UInt8 → Option Json
  | [] => some (.obj [("submission_id", .str "train")])
  | [0] => some (.obj [("submission_id", .str "tune")])
  | _ => some (.arr [.obj [("submission_id", .str "train"), ("status", .str "SUCCEEDED")]])

def demoRegistry : ClusterRegistry :=
  ⟨[⟨"a", "a.example.org", "http://10.0.0.1:8265", none⟩]⟩

def demoSubmissions (backend : JobBackend) (requests : List ProxiedRequest) :
    Option (Progress HistoryCall.Res (HistoryWorld backend.store) HistoryRole) :=
  (historySystem demoReply demoRegistry backend.store).execute (!·.isRefresher)
    (inTurn (requests.map fun request => (.gateway request, 2))) (unrecordedWorld backend.store)

theorem demoSubmissions_run (backend : JobBackend) (requests : List ProxiedRequest)
    {progress : Progress HistoryCall.Res (HistoryWorld backend.store) HistoryRole}
    (executed : demoSubmissions backend requests = some progress) :
    (historySystem demoReply demoRegistry backend.store).Run
      (.start (unrecordedWorld backend.store)) progress.trace progress.config := by
  refine System.execute_run ?_ executed
  intro config role permitted
  cases role with
  | gateway _ => trivial
  | refresher _ => cases permitted

/-- A job ends, a pass of the refresher sees it, and another job is submitted. -/
theorem job_history_faithful_of_refreshed :
    let store := JobBackend.sqlite.store
    let ended := { pendingJob "train" "a" (some "alice") 5 with status := "SUCCEEDED" }
    ∃ trace config, (historySystem demoReply demoRegistry store).Run
        (.start (unrecordedWorld store)) trace config ∧
      AllRecorded demoReply trace config ∧ ended ∈ store.listJobs config.state.jobs := by
  intro store ended
  let first : HistoryRole := .gateway (submitTo "a" "alice" [])
  let second : HistoryRole := .gateway (submitTo "b" "bob" [0])
  have watching : (historySystem demoReply demoRegistry store).Run
      (.start (unrecordedWorld store)) [] _ :=
    .spawn 0 (.refresher 1) .refl rfl (by rintro _ _ ⟨⟩)
  have timed := step 1 first .nowUnix _ _ _ (.spawn 1 first watching rfl trivial) rfl rfl
  have recorded := step 1 first (.recordJob _) _ _ _ timed rfl rfl
  have listed := step 0 _ .listJobs _ _ _ recorded rfl rfl
  have iterated := step 0 _ (.iterate _) _ _ _ listed rfl rfl
  have answered := step 0 _ (.send _) _ _ _ iterated rfl rfl
  have refreshed := step 0 _ (.recordJob ended) _ _ _ answered rfl rfl
  have retimed := step 2 second .nowUnix _ _ _
    (.spawn 2 second refreshed.resumed rfl trivial) rfl rfl
  have later := step 2 second (.recordJob _) _ _ _ retimed rfl rfl
  have faithful := job_history_faithful .sqlite demoReply demoRegistry rfl refreshed later
    (by decide)
  exact ⟨_, _, refreshed.trans later, faithful.1, faithful.2 ended (by decide) (by decide)⟩

/-- Two clusters answer with the same id, and one of the submissions has no record. -/
def Collides (backend : JobBackend) : Prop :=
  ∃ trace config, (historySystem demoReply demoRegistry backend.store).Run
    (.start (unrecordedWorld backend.store)) trace config ∧ ¬AllRecorded demoReply trace config

theorem submissions_collide (backend : JobBackend) : Collides backend := by
  let requests := [submitTo "a" "alice" [], submitTo "b" "bob" []]
  cases backend with
  | inMemory =>
    refine ⟨_, _, demoSubmissions_run .inMemory requests rfl, fun recorded => ?_⟩
    rcases recorded 0 (submitTo "a" "alice" []) "train" rfl rfl with
      ⟨_, record, _, listed, _, cluster, _⟩
    cases mem_singleton.mp (listed : record ∈ [pendingJob "train" "b" (some "bob") 5])
    exact absurd cluster (by decide)
  | sqlite | postgres =>
    refine ⟨_, _, demoSubmissions_run _ requests rfl, fun recorded => ?_⟩
    rcases recorded 1 (submitTo "b" "bob" []) "train" rfl rfl with
      ⟨_, record, _, listed, _, cluster, _⟩
    cases mem_singleton.mp (listed : record ∈ [pendingJob "train" "a" (some "alice") 5])
    exact absurd cluster (by decide)

theorem job_history_collides : Collides .inMemory ∧ Collides .sqlite ∧ Collides .postgres :=
  ⟨submissions_collide _, submissions_collide _, submissions_collide _⟩

end Mobula
