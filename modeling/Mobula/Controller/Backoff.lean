import Mobula.Controller.Reach
import Mobula.Foundation.Triples
import Mobula.Provision.Demo

/-!
# Spacing of attempts without progress

Every attempt without progress raises the row's failure counter and pushes out its next attempt.
The accounting follows an apply that succeeded: an apply that fails ends the pass before it, so
the next pass tries again at once.
-/

namespace Mobula

open Foundation Prog List Ensures

variable {Provider : Type} {platform : Platform Provider} {thread : ℕ} {id : ClusterId}

def World.attempts (id : ClusterId) (world : World Provider) : Option (DesiredState × ℕ × ℕ) :=
  (world.store.clusters.find? id).map fun row =>
    (row.desired, row.failureCount, row.nextAttemptAt)

def isGone : Option ClusterState → Bool
  | none => true
  | some .terminated => true
  | some .terminating => true
  | some _ => false

/-- What may happen while a wanted cluster is awaited that never shows up. -/
structure Awaiting (platform : Platform Provider) (id : ClusterId)
    (before seen : World Provider) : Prop where
  attempts : seen.attempts id = before.attempts id
  unquarantined : seen.store.quarantined = false
  gone : ∃ observed, observation (platform.observe id seen.provider) = .ok observed ∧
    isGone (observed.map (·.state)) = true

/-- An apply of the cluster that fails. -/
def failsApply (id : ClusterId) : Event Call.Res → Bool
  | ⟨.backend (.apply wanted _ _ _ _), .error _⟩ => wanted = id
  | _ => false

def Call.keepsAttempts (id : ClusterId) : Call → Bool
  | .row (.upsertDesired wanted _) => wanted ≠ id
  | .row (.setDesired wanted _) => wanted ≠ id
  | .row (.removeCluster wanted) => wanted ≠ id
  | .row (.recordAttempt wanted _ _) => wanted ≠ id
  | _ => true

def Call.leavesAttempts (id : ClusterId) (call : Call) : Bool :=
  call.keepsAttempts id && !call.applies id

theorem attempts_exec {call : Call} {answer : call.Res} {world world' : World Provider}
    (answered : exec platform thread call world = some (answer, world'))
    (keeps : call.keepsAttempts id = true) : world'.attempts id = world.attempts id := by
  unfold World.attempts
  rw [find?_exec answered id]
  cases call with
  | row call =>
    simp only
    split
    · next targets =>
        cases call with
        | get wanted => cases targets
        | list => cases targets
        | recordObservation wanted state generation =>
          simp [RowCall.effect, ClusterTable.withObservation, Function.comp_def]
        | setCondition wanted condition => simp [RowCall.effect, Function.comp_def]
        | _ =>
          cases targets
          simp [Call.keepsAttempts] at keeps
    · rfl
  | _ => rfl

/-- The number of applies made so far, and the attempts the row stands at. -/
def Standing (id : ClusterId) (applies : ℕ) (attempts : DesiredState × ℕ × ℕ) :
    Prog.Assertion Call.Res (World Provider) :=
  fun past world => past.countP (fun event => event.op.applies id) = applies ∧
    world.attempts id = some attempts

def postponed (now failureCount : ℕ) : DesiredState × ℕ × ℕ :=
  (.running, saturatingAdd 32 failureCount 1,
    saturatingAdd 64 now (backoffSecs (saturatingAdd 32 failureCount 1)))

/-- An apply failed, or none was made, or one was made when it was due and accounted for. -/
def Attempted (id : ClusterId) (now failureCount nextAttemptAt : ℕ) :
    Prog.Assertion Call.Res (World Provider) :=
  fun past world => (∃ event ∈ past, failsApply id event = true) ∨
    Standing id 0 (.running, failureCount, nextAttemptAt) past world ∨
    nextAttemptAt ≤ now ∧ Standing id 1 (postponed now failureCount) past world

/-- Triples about programs that run while the cluster is awaited. -/
abbrev Awaits {α : Type} (platform : Platform Provider) (thread : ℕ) (id : ClusterId)
    (pre : Prog.Assertion Call.Res (World Provider)) (program : Program α)
    (post : α → Prog.Assertion Call.Res (World Provider)) : Prop :=
  Prog.Ensures (exec platform thread) (Awaiting platform id) pre program post

variable {attempts : DesiredState × ℕ × ℕ} {now nextAttemptAt : ℕ}

section Calls

variable {applies : ℕ} {call : Call}

theorem standing_kept (leaves : call.leavesAttempts id = true) {past : EventLog}
    {world seen world' : World Provider} {answer : call.Res}
    (standing : Standing id applies attempts past world) (moved : Awaiting platform id world seen)
    (answered : exec platform thread call seen = some (answer, world')) :
    Standing id applies attempts (past ++ [⟨call, answer⟩]) world' := by
  simp [Call.leavesAttempts] at leaves
  refine ⟨?_, ?_⟩
  · simpa [countP_append, leaves.2] using standing.1
  · rw [attempts_exec answered leaves.1, moved.attempts]
    exact standing.2

theorem awaits_call {α : Type} {rest : call.Res → Program α}
    {post : α → Assertion Call.Res (World Provider)}
    (leaves : call.leavesAttempts id = true) (expected : call.Res → Prop)
    (answers : ∀ before seen answer after, Awaiting platform id before seen →
      exec platform thread call seen = some (answer, after) → expected answer)
    (next : ∀ answer, expected answer →
      Awaits platform thread id (Standing id applies attempts) (rest answer) post) :
    Awaits platform thread id (Standing id applies attempts) (invoke call >>= rest) post := by
  refine invoke
    (fun answer past world => expected answer ∧ Standing id applies attempts past world) ?_ ?_
  · intro past world seen answer world' standing moved answered
    exact ⟨answers world seen answer world' moved answered,
      standing_kept leaves standing moved answered⟩
  · intro answer
    refine given (fun _ _ reached => reached.1) fun isExpected => ?_
    exact (next answer isExpected).mono (fun _ _ reached => reached.2) fun _ _ _ done => done

theorem awaits_within {α : Type} {program : Program α} {permitted : Call → Prop}
    (within : program.Within permitted)
    (leaves : ∀ call, permitted call → call.leavesAttempts id = true) :
    Awaits platform thread id (Standing id applies attempts) program
      fun _ => Standing id applies attempts :=
  within.ensures fun made standing moved answered =>
    standing_kept (leaves _ made) standing moved answered

theorem leavesAttempts_of_passive (passive : call.passive = true) :
    call.leavesAttempts id = true := by
  cases call with
  | row call =>
    cases call with
    | get id => rfl
    | list => rfl
    | _ => cases passive
  | backend call => cases passive
  | _ => rfl

end Calls

section Row

variable {row : StoredCluster}

/-- What an actuation leaves behind, by its outcome. -/
def Actuated (id : ClusterId) (attempts : DesiredState × ℕ × ℕ) :
    ReconcileResult Decision → Prog.Assertion Call.Res (World Provider)
  | .ok (.settle action condition) => fun past world =>
    (action = .applied ∧ condition = none) ∧ Standing id 1 attempts past world
  | .ok (.stop _) => Standing id 0 attempts
  | .error _ => fun past world =>
    (∃ event ∈ past, failsApply id event = true) ∨ Standing id 0 attempts past world

theorem applyThroughOutbox_awaits {queue : Option QueueAssignment} :
    Awaits platform thread row.id (Standing row.id 0 attempts) (applyThroughOutbox row queue)
      (Actuated row.id attempts) := by
  refine awaits_call rfl (fun _ => True) (fun _ _ _ _ _ _ => trivial) ?_
  rintro (failure | _ | _) _
  · exact ensures_ret fun _ _ standing => .inr standing
  · refine awaits_call rfl (fun _ => True) (fun _ _ _ _ _ _ => trivial) ?_
    rintro (failure | done) _
    · exact ensures_ret fun _ _ standing => .inr standing
    refine invoke (fun answer => match answer with
      | .error _ => fun past _ => ∃ event ∈ past, failsApply row.id event = true
      | .ok _ => Standing row.id 1 attempts) ?_ ?_
    · intro past world seen answer world' standing moved answered
      cases answer with
      | error failure =>
        exact ⟨_, mem_append_right _ (mem_singleton.mpr rfl), by simp [failsApply]⟩
      | ok response =>
        refine ⟨?_, ?_⟩
        · simp [standing.1]
          simp [Call.applies]
        · rw [attempts_exec answered rfl, moved.attempts]
          exact standing.2
    · rintro (failure | response)
      · exact ensures_ret fun _ _ failed => .inl failed
      refine awaits_call rfl (fun answer => answer = .ok ()) ?_ ?_
      · intro _ seen answer after _ answered
        cases answered
        rfl
      · rintro _ rfl
        exact ensures_ret fun _ _ standing => ⟨⟨rfl, rfl⟩, standing⟩
  · exact ensures_ret fun _ _ standing => .inr standing

theorem needsApply_of_gone {observed : Option ClusterState} (gone : isGone observed = true)
    {observedGeneration desiredGeneration : ℕ} {queued : Bool} :
    needsApply observed observedGeneration desiredGeneration queued = true := by
  unfold isGone at gone
  split at gone <;> simp_all [needsApply]

variable {observed : Option ObservedCluster} {final : Option ClusterState}

theorem decideAction_awaits (wanted : row.desired = .running)
    (gone : isGone (observed.map (·.state)) = true) (queue : Option QueueAssignment) :
    Awaits platform thread row.id (Standing row.id 0 attempts) (decideAction row now observed queue)
      (Actuated row.id attempts) := by
  have undegraded : observed.map (·.state) ≠ some .degraded := by
    intro degraded
    rw [degraded] at gone
    cases gone
  simp only [decideAction, wanted, decideRunning]
  rw [if_neg undegraded, if_pos (needsApply_of_gone gone)]
  refine awaits_call rfl (fun _ => True) (fun _ _ _ _ _ _ => trivial) ?_
  rintro (_ | _) _
  · exact ensures_ret fun _ _ standing => standing
  · exact applyThroughOutbox_awaits

theorem progressed_of_gone (gone : isGone final = true) {desired : DesiredState} :
    progressed .applied desired final = some false := by
  unfold isGone at gone
  split at gone <;> simp_all [progressed]

theorem accountBackoff_awaits (gone : isGone final = true) : Awaits platform thread row.id
      (Standing row.id 1 (.running, row.failureCount, nextAttemptAt))
      (accountBackoff row now .applied final)
      fun result past world =>
        result = .ok () ∧ Standing row.id 1 (postponed now row.failureCount) past world := by
  simp only [accountBackoff, progressed_of_gone gone]
  refine ensures_invoke ?_
  intro past world seen answer world' standing moved answered
  have known : seen.attempts row.id = some (.running, row.failureCount, nextAttemptAt) :=
    moved.attempts.trans standing.2
  refine ⟨?_, ?_, ?_⟩
  · cases answered
    rfl
  · simpa [countP_append, Call.applies] using standing.1
  · unfold World.attempts at known ⊢
    rw [find?_exec answered row.id]
    rcases Option.map_eq_some_iff.mp known with ⟨stored, found, same⟩
    simp at same
    simp [RowCall.target, RowCall.effect, found, same.1, postponed]

theorem settle_awaits (condition : Option DriftCondition) : Awaits platform thread row.id
      (Standing row.id 1 (.running, row.failureCount, nextAttemptAt))
      (settle row now .applied condition)
      fun _ => Standing row.id 1 (postponed now row.failureCount) := by
  refine awaits_call rfl (fun answer => ∃ final, observation answer = .ok final ∧
    isGone (final.map (·.state)) = true) ?_ ?_
  · intro _ seen answer after moved answered
    cases answered
    exact moved.gone
  · rintro answer ⟨final, seen, gone⟩
    simp only [seen]
    refine awaits_call rfl (fun answer => answer = .ok ()) ?_ ?_
    · intro _ seen answer after _ answered
      cases answered
      rfl
    · rintro _ rfl
      have conditions : Awaits platform thread row.id
          (Standing row.id 1 (.running, row.failureCount, nextAttemptAt))
          (storeCondition row condition)
          fun result past world => result = .ok () ∧
            Standing row.id 1 (.running, row.failureCount, nextAttemptAt) past world := by
        unfold storeCondition
        split
        · refine ensures_invoke fun standing moved answered => ?_
          refine ⟨?_, standing_kept rfl standing moved answered⟩
          cases answered
          rfl
        · exact ensures_ret fun _ _ standing => ⟨rfl, standing⟩
      refine conditions.bind ?_
      intro stored
      refine given (fun _ _ reached => reached.1) ?_
      rintro rfl
      refine bind ((accountBackoff_awaits gone).mono (fun _ _ reached => reached.2)
        fun _ _ _ done => done) ?_
      intro accounted
      refine given (fun _ _ reached => reached.1) ?_
      rintro rfl
      exact ensures_ret fun _ _ reached => reached.2

theorem actuateRow_awaits (wanted : row.desired = .running)
    (gone : isGone (observed.map (·.state)) = true) (due : row.nextAttemptAt ≤ now) :
    Awaits platform thread row.id
      (Standing row.id 0 (.running, row.failureCount, row.nextAttemptAt))
      (actuateRow row now observed)
      fun _ => Attempted row.id now row.failureCount row.nextAttemptAt := by
  refine bind (awaits_within queueAssignmentForProject_passive
    fun _ => leavesAttempts_of_passive) ?_
  rintro (failure | queue)
  · exact ensures_ret fun _ _ standing => .inr (.inl standing)
  refine (decideAction_awaits wanted gone queue).bind ?_
  rintro (failure | action | ⟨action, condition⟩)
  · exact ensures_ret fun _ _ reached => reached.imp_right .inl
  · exact ensures_ret fun _ _ standing => .inr (.inl standing)
  · refine given (fun _ _ reached => reached.1) ?_
    rintro ⟨rfl, rfl⟩
    exact (settle_awaits none).mono (fun _ _ reached => reached.2)
      fun _ _ _ standing => .inr (.inr ⟨due, standing⟩)

theorem reconcileOne_awaits (wanted : row.desired = .running) : Awaits platform thread row.id
      (Standing row.id 0 (.running, row.failureCount, row.nextAttemptAt)) (reconcileOne row now)
      fun _ => Attempted row.id now row.failureCount row.nextAttemptAt := by
  unfold reconcileOne
  split
  · exact ensures_ret fun _ _ standing => .inr (.inl standing)
  · next due =>
      have isDue : row.nextAttemptAt ≤ now := by
        simpa [wanted] using due
      refine awaits_call rfl (fun answer => ∃ observed, observation answer = .ok observed ∧
        isGone (observed.map (·.state)) = true) ?_ ?_
      · intro _ seen answer after moved answered
        cases answered
        exact moved.gone
      · rintro answer ⟨observed, seen, gone⟩
        simp only [seen]
        refine awaits_call rfl (fun answer => answer = .ok false) ?_ ?_
        · intro _ seen answer after moved answered
          simp [exec_isQuarantined, moved.unquarantined] at answered
          exact answered.1.symm
        · rintro _ rfl
          exact actuateRow_awaits wanted gone isDue

end Row

section Rows

variable {failureCount : ℕ}

theorem leavesAttempts_of_other {row : StoredCluster} {call : Call} (other : row.id ≠ id)
    (made : ReconcileCall row call) : call.leavesAttempts id = true := by
  cases made with
  | passive passive => exact leavesAttempts_of_passive passive
  | recordAttempt => simp [Call.leavesAttempts, Call.keepsAttempts, Call.applies, other]
  | apply queue wanted => simp [Call.leavesAttempts, Call.keepsAttempts, Call.applies, other]
  | _ => rfl

theorem attempted_kept {call : Call} (leaves : call.leavesAttempts id = true)
    {past : EventLog} {world seen world' : World Provider} {answer : call.Res}
    (attempted : Attempted id now failureCount nextAttemptAt past world)
    (moved : Awaiting platform id world seen)
    (answered : exec platform thread call seen = some (answer, world')) :
    Attempted id now failureCount nextAttemptAt (past ++ [⟨call, answer⟩]) world' := by
  rcases attempted with ⟨event, eventMem, failed⟩ | standing | ⟨due, standing⟩
  · exact .inl ⟨event, mem_append_left _ eventMem, failed⟩
  · exact .inr (.inl (standing_kept leaves standing moved answered))
  · exact .inr (.inr ⟨due, standing_kept leaves standing moved answered⟩)

theorem reconcileRows_awaits_others {rows : List StoredCluster}
    (others : ∀ row ∈ rows, row.id ≠ id) :
    Awaits platform thread id (Attempted id now failureCount nextAttemptAt) (reconcileRows now rows)
      fun _ => Attempted id now failureCount nextAttemptAt := by
  refine (reconcileRows_calls now rows).ensures ?_
  rintro call past world seen answer world' ⟨row, rowMem, made⟩ attempted moved answered
  exact attempted_kept (leavesAttempts_of_other (others row rowMem) made) attempted moved answered

theorem reconcileRows_awaits {rows : List StoredCluster} (nodup : (rows.map (·.id)).Nodup)
    (current : ∀ row ∈ rows, row.id = id → row.desired = .running ∧
      row.failureCount = failureCount ∧ row.nextAttemptAt = nextAttemptAt) :
    Awaits platform thread id (Standing id 0 (.running, failureCount, nextAttemptAt))
      (reconcileRows now rows) fun _ => Attempted id now failureCount nextAttemptAt := by
  induction rows with
  | nil => exact ensures_ret fun _ _ standing => .inr (.inl standing)
  | cons row rows ih =>
    rw [map_cons, nodup_cons] at nodup
    by_cases mine : row.id = id
    · rcases current row mem_cons_self mine with ⟨wanted, rfl, rfl⟩
      subst mine
      refine (reconcileOne_awaits wanted).bind fun _ => ?_
      have others (other : StoredCluster) (otherMem : other ∈ rows) : other.id ≠ row.id := by
        intro same
        exact nodup.1 (same ▸ mem_map_of_mem otherMem)
      refine (reconcileRows_awaits_others others).bind fun _ => ?_
      exact .done
    · refine bind (awaits_within (reconcileOne_calls row now)
        fun _ => leavesAttempts_of_other mine) fun _ => ?_
      refine bind (ih nodup.2 fun other otherMem =>
        current other (mem_cons_of_mem _ otherMem)) fun _ => ?_
      exact .done

/-- A pass over all rows attempts the cluster when it is due, at most once. -/
theorem reconcileAllAt_awaits :
    Awaits platform thread id (Standing id 0 (.running, failureCount, nextAttemptAt))
      (reconcileAllAt now) fun _ => Attempted id now failureCount nextAttemptAt := by
  refine invoke (fun answer past world =>
    (∃ rows, answer = .ok rows ∧ (rows.map (·.id)).Nodup ∧ ∀ row ∈ rows, row.id = id →
      row.desired = .running ∧ row.failureCount = failureCount ∧
        row.nextAttemptAt = nextAttemptAt) ∧
    Standing id 0 (.running, failureCount, nextAttemptAt) past world) ?_ ?_
  · intro past world seen answer world' standing moved answered
    refine ⟨?_, standing_kept rfl standing moved answered⟩
    simp [exec_list] at answered
    refine ⟨seen.store.clusters.rows, answered.1.symm, seen.store.clusters.nodup, ?_⟩
    intro row rowMem mine
    have known : seen.attempts id = some (.running, failureCount, nextAttemptAt) :=
      moved.attempts.trans standing.2
    have found : seen.store.clusters.find? id = some row :=
      Table.find?_eq_some_iff.mpr ⟨rowMem, mine⟩
    simpa [World.attempts, found] using known
  · intro answer
    refine given (fun _ _ reached => reached.1) ?_
    rintro ⟨rows, rfl, nodup, current⟩
    exact (reconcileRows_awaits nodup current).mono (fun _ _ reached => reached.2)
      fun _ _ _ attempted => attempted

end Rows

/-- When the cluster was applied. -/
def applyTimes {α : Type} (id : ClusterId) (passes : List (Round Call.Res (World Provider) ℕ α)) :
    List ℕ :=
  passes.flatMap fun pass =>
    List.replicate (pass.events.countP fun event => event.op.applies id) pass.role

theorem applyTimes_snoc {α : Type} {passes : List (Round Call.Res (World Provider) ℕ α)}
    {pass : Round Call.Res (World Provider) ℕ α} :
    applyTimes id (passes ++ [pass]) = applyTimes id passes ++
      replicate (pass.events.countP fun event => event.op.applies id) pass.role := by
  simp [applyTimes]

theorem backoffSecs_saturated (attempts : ℕ) :
    backoffSecs (min (attempts + 1) (2 ^ 32 - 1)) = min (5 * 2 ^ attempts) 300 := by
  unfold backoffSecs BACKOFF_BASE_SECS BACKOFF_CEIL_SECS
  by_cases few : attempts ≤ 20
  · have exponent : min (min (attempts + 1) (2 ^ 32 - 1) - 1) 20 = attempts := by omega
    rw [exponent]
  · have exponent : min (min (attempts + 1) (2 ^ 32 - 1) - 1) 20 = 20 := by omega
    have grows : 2 ^ 20 ≤ 2 ^ attempts := Nat.pow_le_pow_right (by omega) (by omega)
    rw [exponent]
    omega

/-- Consecutive times are apart by the delay of their position. -/
def Spaced (times : List ℕ) : Prop :=
  ∀ n first second, times[n]? = some first → times[n + 1]? = some second →
    first + min (5 * 2 ^ n) 300 ≤ second

variable {times : List ℕ} {response : ProvisionResult ApplyResponse}

theorem Spaced.snoc (spaced : Spaced times) (due : ∀ last, times.getLast? = some last →
      last + min (5 * 2 ^ (times.length - 1)) 300 ≤ now) : Spaced (times ++ [now]) := by
  intro n first second isFirst isSecond
  by_cases inside : n + 1 < times.length
  · rw [getElem?_append_left (by omega)] at isFirst isSecond
    exact spaced n first second isFirst isSecond
  · have inRange := (List.getElem?_eq_some_iff.mp isSecond).1
    simp at inRange
    have position : n = times.length - 1 := by omega
    have isNow : second = now := by
      rw [getElem?_append_right (by omega)] at isSecond
      have index : n + 1 - times.length = 0 := by omega
      simpa [index] using isSecond.symm
    rw [getElem?_append_left (by omega)] at isFirst
    have isLast : times.getLast? = some first := by
      rw [getLast?_eq_getElem?, ← position]
      exact isFirst
    rw [isNow, position]
    exact due first isLast

/--
While a wanted cluster never shows up, the applies that passes make for it are
spaced by growing delays, as long as none of them fails and the clock stays clear
of its largest values.
-/
theorem backoff_spacing {origin final : World Provider}
    {passes : List (Round Call.Res (World Provider) ℕ PassReport)} {nextAttemptAt : ℕ}
    (run : Rounds (exec platform thread) (Awaiting platform id) reconcileAllAt origin passes final)
    (starts : origin.attempts id = some (.running, 0, nextAttemptAt))
    (succeeds : ∀ event ∈ history passes, failsApply id event = false)
    (clock : ∀ pass ∈ passes, pass.role + 300 < 2 ^ 64) :
    Spaced (applyTimes id passes) := by
  suffices accounted : Spaced (applyTimes id passes) ∧ ∃ next,
      final.attempts id = some (.running, min (applyTimes id passes).length (2 ^ 32 - 1), next) ∧
      ∀ last, (applyTimes id passes).getLast? = some last →
        last + min (5 * 2 ^ ((applyTimes id passes).length - 1)) 300 ≤ next from accounted.1
  induction run with
  | nil => exact ⟨by simp [Spaced, applyTimes], nextAttemptAt, starts, by simp [applyTimes]⟩
  | @snoc done state events value final now earlier ran ih =>
    have succeeded (event : Event Call.Res) (eventMem : event ∈ history done) :
        failsApply id event = false := succeeds event (by simp [eventMem])
    rcases ih succeeded fun pass passMem => clock pass (by simp [passMem]) with
      ⟨spaced, next, known, pushed⟩
    have attempted := reconcileAllAt_awaits [] state events value final ⟨by simp, known⟩ ran
    rw [nil_append] at attempted
    rw [applyTimes_snoc]
    rcases attempted with ⟨event, eventMem, failed⟩ | ⟨none, standing⟩ | ⟨due, once, standing⟩
    · rw [succeeds event (by simp [eventMem])] at failed
      cases failed
    · simp only [none, replicate_zero, append_nil]
      exact ⟨spaced, next, standing, pushed⟩
    · simp only [once, replicate_one, length_append, length_singleton,
        getLast?_concat, Option.some.injEq, Nat.add_sub_cancel]
      have early : now + 300 < 2 ^ 64 := clock ⟨now, state, events, value, final⟩ (by simp)
      have counter : saturatingAdd 32 (min (applyTimes id done).length (2 ^ 32 - 1)) 1 =
          min ((applyTimes id done).length + 1) (2 ^ 32 - 1) := by
        unfold saturatingAdd
        omega
      have delay := backoffSecs_saturated (applyTimes id done).length
      refine ⟨spaced.snoc fun last isLast => (pushed last isLast).trans due, _,
        by rw [standing, postponed, counter], ?_⟩
      rintro last rfl
      rw [delay, saturatingAdd]
      omega

/-- A backend that answers every apply alike and never has a cluster to show for it. -/
def idlePlatform (response : ProvisionResult ApplyResponse) : Platform DemoClusters :=
  { demoPlatform with apply := fun _ _ _ _ _ clusters => (response, clusters) }

def Vacant (world : World DemoClusters) : Prop :=
  world.provider = .empty ∧ world.store.quarantined = false

theorem Vacant.exec {call : Call} {answer : call.Res} {world world' : World DemoClusters}
    (vacant : Vacant world) (made : LoopCall call)
    (answered : exec (idlePlatform response) 0 call world = some (answer, world')) :
    Vacant world' := by
  cases made with
  | passive passive =>
    exact ⟨(provider_exec answered (mutates_of_passive passive)).trans vacant.1,
      (quarantined_exec answered (keepsCatalog_of_passive passive)).trans vacant.2⟩
  | reconcile row made =>
    refine ⟨?_, (quarantined_exec answered made.keepsCatalog).trans vacant.2⟩
    cases made with
    | passive passive =>
      exact (provider_exec answered (mutates_of_passive passive)).trans vacant.1
    | ensureNamespacePosture wanted =>
      cases answered
      exact vacant.1
    | apply queue wanted =>
      cases answered
      exact vacant.1
    | terminate wanted =>
      simp [Mobula.exec, vacant.1] at answered
      rw [← answered.2]
      rfl
    | suspend wanted =>
      simp [Mobula.exec, vacant.1] at answered
      rw [← answered.2]
      rfl
    | _ => exact (provider_exec answered rfl).trans vacant.1

theorem idle_rounds {origin final : World DemoClusters}
    {passes : List (Round Call.Res (World DemoClusters) ℕ PassReport)} (vacant : Vacant origin)
    (executed : executeRounds (exec (idlePlatform response) 0) reconcileAllAt times origin =
      some (passes, final)) :
    Rounds (exec (idlePlatform response) 0) (Awaiting (idlePlatform response) "c1") reconcileAllAt
      origin passes final := by
  refine rounds_of_execute Vacant ?_ vacant executed
  intro now world outcome vacant ran
  refine Amid.mono (reconcileAllAt_calls now) Vacant ?_ ?_ vacant
    (amid_of_eval (fun _ => Eq.refl _) ran)
  · rintro before _ vacant rfl
    refine ⟨⟨rfl, vacant.2, none, ?_, rfl⟩, vacant⟩
    rw [vacant.1]
    rfl
  · intro call before answer after made answered vacant
    exact vacant.exec made answered

/-- Applies that succeed without effect come five, then ten seconds apart. -/
theorem backoff_spacing_for_idle_backend :
    ∃ passes final,
      Rounds (exec (idlePlatform (.ok ⟨1, none⟩)) 0) (Awaiting (idlePlatform (.ok ⟨1, none⟩)) "c1")
        reconcileAllAt (demoWorld (storeOf postedHead)) passes final ∧
      applyTimes "c1" passes = [0, 5, 15] ∧ Spaced (applyTimes "c1" passes) := by
  have outcome : ∃ passes final, executeRounds (exec (idlePlatform (.ok ⟨1, none⟩)) 0)
        reconcileAllAt [0, 4, 5, 14, 15] (demoWorld (storeOf postedHead)) =
          some (passes, final) ∧ applyTimes "c1" passes = [0, 5, 15] ∧
      (∀ event ∈ history passes, failsApply "c1" event = false) ∧
      ∀ pass ∈ passes, pass.role + 300 < 2 ^ 64 :=
    Fallible.exists_pair_of_checked (by decide +kernel)
  rcases outcome with ⟨passes, final, executed, times, succeeds, early⟩
  have run := idle_rounds ⟨rfl, rfl⟩ executed
  exact ⟨passes, final, run, times, backoff_spacing run rfl succeeds early⟩

/-- A backend that refuses every apply is asked again in the same second. -/
theorem failing_apply_unspaced :
    ∃ passes final,
      Rounds (exec (idlePlatform (.error (.backend "unavailable"))) 0)
        (Awaiting (idlePlatform (.error (.backend "unavailable"))) "c1") reconcileAllAt
        (demoWorld (storeOf postedHead)) passes final ∧
      (demoWorld (storeOf postedHead)).attempts "c1" = some (.running, 0, 0) ∧
      applyTimes "c1" passes = [0, 0] ∧ ¬Spaced (applyTimes "c1" passes) := by
  have outcome : (executeRounds (exec (idlePlatform (.error (.backend "unavailable"))) 0)
      reconcileAllAt [0, 0] (demoWorld (storeOf postedHead))).map
        (fun ran => applyTimes "c1" ran.1) = some [0, 0] := by
    decide +kernel
  rcases Option.map_eq_some_iff.mp outcome with ⟨⟨passes, final⟩, executed, times⟩
  refine ⟨passes, final, idle_rounds ⟨rfl, rfl⟩ executed, rfl, times, ?_⟩
  rw [times]
  intro spaced
  exact absurd (spaced 0 0 0 rfl rfl) (by decide)

end Mobula
