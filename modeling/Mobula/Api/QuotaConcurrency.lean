import Mobula.Api.Quota
import Mobula.ControlPlane
import Mobula.Foundation.Mutex

/-!
# Quotas under concurrent creation

A creation lists the rows, checks the quota against the listing and stores its row, all under
the admission lock of its project. Others cannot add to the load of the project meanwhile: that
takes an upsert into the project, hence the lock.
-/

namespace Mobula

open Foundation List Prog

variable {Provider : Type}

def admitLock (Provider : Type) (project : String) : Lock Call (World Provider) where
  acquires
    | .process (.lockAdmit wanted) => wanted = project
    | _ => false
  releases
    | .process (.unlockAdmit wanted) => wanted = project
    | _ => false
  holder world := world.admitLocks project

variable {project : String} {call : Call} {seed : PolicyConfig} {limit : ResourceMap}

theorem admitLock_acquires :
    (admitLock Provider project).acquires call = true ↔ call = .process (.lockAdmit project) := by
  cases call with
  | process call => cases call <;> simp [admitLock]
  | _ => simp [admitLock]

theorem admitLock_releases :
    (admitLock Provider project).releases call = true ↔
      call = .process (.unlockAdmit project) := by
  cases call with
  | process call => cases call <;> simp [admitLock]
  | _ => simp [admitLock]

theorem admitLock_granted {platform : Platform Provider}
    {admits : PlaneConfig Provider → Actor → Prop} :
    (admitLock Provider project).Granted (controlPlane platform seed admits) where
  acquire := by
    intro i call before answer after acquiring answered
    rw [admitLock_acquires] at acquiring
    subst acquiring
    cases held : before.admitLocks project with
    | some holder => simp [controlPlane, exec, execProcess, held] at answered
    | none =>
      simp [controlPlane, exec, execProcess, held] at answered
      refine ⟨held, ?_⟩
      rw [← answered]
      simp [admitLock, World.setLock_admitLocks]
  keep := by
    intro i call before answer after keeping holding answered
    refine admitLocks_exec answered ?_ ?_
    · rintro rfl
      simp [admitLock] at keeping
    · rintro rfl
      simp [admitLock] at holding
  drift := by
    intro before after drifted
    exact congrFun drifted.admitLocks project

theorem admitLock_neutral (passive : call.passive = true) :
    (admitLock Provider project).acquires call = false ∧
      (admitLock Provider project).releases call = false := by
  cases call with
  | process call => cases call <;> simp_all [admitLock, Call.passive]
  | _ => simp [admitLock]

/--
The thread listed the rows while it held the project's lock, was admitted
against them, and has only read since.
-/
def AdmittedBy (Provider : Type) (project : String) (limit : ResourceMap) (id : ClusterId)
    (spec : ClusterSpec) (past : EventLog) : Prop :=
  ∃ entry rows since, past = entry ++ ⟨.row .list, .ok rows⟩ :: since ∧
    (admitLock Provider project).inside entry = true ∧
    (∀ event ∈ since, event.op.passive = true) ∧ quotaAdmits rows limit id spec = true

/-- Writes into the project come after an admission, and its lock is released by its holder. -/
def quotaAllowed (Provider : Type) (project : String) (limit : ResourceMap)
    (past : EventLog) : Call → Prop
  | .row (.upsertDesired id spec) =>
    spec.project = project → AdmittedBy Provider project limit id spec past
  | .process (.unlockAdmit wanted) =>
    wanted = project → (admitLock Provider project).inside past = true
  | _ => True

/-- Policy reads under a fixed policy; once a thread tried to seed, a policy is stored. -/
def policyAnswers (seed : PolicyConfig) (project : String) (limit : ResourceMap)
    (past : EventLog) (call : Call) (answer : call.Res) : Prop :=
  match call, answer with
  | .control .getPolicy, .ok (some policy) => quotaFor (some policy) project = some limit
  | .control .getPolicy, .ok none =>
    quotaFor (seedFromConfig seed) project = some limit ∧
      ∀ event ∈ past, ∀ policy, event.op ≠ .control (.seedPolicy policy)
  | _, _ => True

section Discipline

variable {past : EventLog}

theorem quotaAllowed_of_passive (passive : call.passive = true) :
    quotaAllowed Provider project limit past call := by
  cases call with
  | row call => cases call <;> simp_all [quotaAllowed, Call.passive]
  | process call => cases call <;> simp_all [quotaAllowed, Call.passive]
  | _ => trivial

theorem Passive.obeys {α : Type} {program : Program α} (passive : Passive program) :
    program.Obeys (policyAnswers seed project limit) (quotaAllowed Provider project limit)
      (fun later _ => ∃ added, later = past ++ added ∧ ∀ event ∈ added, event.op.passive = true)
      past :=
  Within.obeys passive fun _ _ _ passive => quotaAllowed_of_passive passive

variable {added : EventLog} {id : ClusterId} {spec : ClusterSpec}
  {identity : Caller}

theorem inside_append (inside : (admitLock Provider project).inside past = true)
    (passive : ∀ event ∈ added, event.op.passive = true) :
    (admitLock Provider project).inside (past ++ added) = true := by
  rw [Lock.inside_append_of_neutral fun event eventMem =>
    admitLock_neutral (passive event eventMem)]
  exact inside

theorem AdmittedBy.append (admitted : AdmittedBy Provider project limit id spec past)
    (passive : ∀ event ∈ added, event.op.passive = true) :
    AdmittedBy Provider project limit id spec (past ++ added) := by
  rcases admitted with ⟨entry, rows, since, rfl, inside, quiet, fits⟩
  refine ⟨entry, rows, since ++ added, by simp, inside, ?_, fits⟩
  intro event eventMem
  rcases mem_append.mp eventMem with early | late
  · exact quiet event early
  · exact passive event late

theorem AdmittedBy.inside (admitted : AdmittedBy Provider project limit id spec past) :
    (admitLock Provider project).inside past = true := by
  rcases admitted with ⟨entry, rows, since, rfl, inside, quiet, _⟩
  apply inside_append inside
  intro event eventMem
  rcases mem_cons.mp eventMem with rfl | later
  · rfl
  · exact quiet event later

theorem effectivePolicy_obeys : (effectivePolicy seed).Obeys (policyAnswers seed project limit)
      (quotaAllowed Provider project limit)
      (fun _ value => ∀ policy, value = .ok policy → quotaFor policy project = some limit)
      past := by
  refine Obeys.invoke trivial ?_
  rintro (failure | _ | policy) known
  · intro policy impossible
    cases impossible
  · rcases known with ⟨boots, _⟩
    cases boot : seedFromConfig seed with
    | none =>
      rw [boot] at boots
      cases boots
    | some policy =>
      rw [boot] at boots
      refine Obeys.invoke trivial ?_
      rintro (failure | _ | _) _
      · intro policy impossible
        cases impossible
      · refine Obeys.invoke trivial ?_
        rintro (failure | _ | stored) known
        · intro policy impossible
          cases impossible
        · rcases known with ⟨_, unseeded⟩
          exact absurd rfl (unseeded _ (mem_append_right _ mem_cons_self) policy)
        · rintro policy ⟨⟩
          exact known
      · rintro policy ⟨⟩
        exact boots
  · rintro stored ⟨⟩
    exact known

theorem quotaGate_obeys (inside : (admitLock Provider project).inside past = true) :
    (quotaGate identity id spec limit).Obeys (policyAnswers seed project limit)
      (quotaAllowed Provider project limit)
      (fun later gate => (admitLock Provider project).inside later = true ∧
        (gate = .pass → AdmittedBy Provider project limit id spec later)) past := by
  unfold quotaGate
  rcases computed : clusterDemand spec with failure | demand
  · exact ⟨inside, fun impossible => by cases impossible⟩
  refine Obeys.invoke trivial ?_
  intro answer _
  have listed : (admitLock Provider project).inside (past ++ [⟨.row .list, answer⟩]) = true :=
    inside_append inside (by simp [Call.passive])
  rcases answer with failure | rows
  · exact ⟨listed, fun impossible => by cases impossible⟩
  simp only
  rcases summed : sumMaxDemand (otherLive spec.project id rows) with failure | inUse
  · exact ⟨listed, fun impossible => by cases impossible⟩
  simp only
  cases verdict : admitQuota spec.project limit inUse demand.2 with
  | ok passed =>
    refine ⟨listed, fun _ => ⟨past, rows, [], rfl, inside, by simp, ?_⟩⟩
    simp only [quotaAdmits, computed, summed]
    exact admitQuota_eq_ok.mp verdict
  | error exceeded =>
    refine answerWith_passive.obeys.bind ?_
    rintro later response ⟨added, rfl, passive⟩
    exact ⟨inside_append listed passive, fun impossible => by cases impossible⟩

theorem storeCluster_obeys (admitted : AdmittedBy Provider project limit id spec past) :
    (storeCluster identity id spec).Obeys (policyAnswers seed project limit)
      (quotaAllowed Provider project limit)
      (fun later _ => (admitLock Provider project).inside later = true) past := by
  refine Obeys.invoke (fun _ => admitted) ?_
  intro answer _
  have inside : (admitLock Provider project).inside
      (past ++ [⟨.row (.upsertDesired id spec), answer⟩]) = true := by
    rw [Lock.inside_append_of_neutral]
    · exact admitted.inside
    · simp [admitLock]
  rcases answer with failure | generation
  · exact inside
  refine answerWith_passive.obeys.bind ?_
  rintro later response ⟨added, rfl, passive⟩
  refine noteQueue_passive.obeys.bind ?_
  rintro final _ ⟨noted, rfl, notedPassive⟩
  exact inside_append (inside_append inside passive) notedPassive

theorem quotaThenStore_obeys {budget : Option Budget}
    (inside : (admitLock Provider project).inside past = true) :
    (quotaThenStore identity id spec limit budget).Obeys (policyAnswers seed project limit)
      (quotaAllowed Provider project limit)
      (fun later _ => (admitLock Provider project).inside later = true) past := by
  refine (quotaGate_obeys inside).bind ?_
  rintro later gate ⟨stillInside, passed⟩
  cases gate with
  | answer response => exact stillInside
  | pass =>
    have admitted := passed rfl
    refine budgetGate_passive.obeys.bind ?_
    rintro checked gate ⟨added, rfl, passive⟩
    cases gate with
    | answer response => exact inside_append stillInside passive
    | pass => exact storeCluster_obeys (admitted.append passive)

/-- A creation writes into the project only when admitted against the current limit. -/
theorem createCluster_obeys {body : CreateCluster} :
    (createCluster seed identity body).Obeys (policyAnswers seed project limit)
      (quotaAllowed Provider project limit) (fun _ _ => True) [] := by
  by_cases targets : (body.ownedSpec identity).project = project
  · refine authorizeScoped_passive.obeys.bind ?_
    rintro authorized denial _
    cases denial with
    | some response => trivial
    | none =>
      refine effectivePolicy_obeys.bind ?_
      rintro policied (failure | policy) limited
      · trivial
      refine gpuGate_passive.obeys.bind ?_
      rintro isolated gate _
      cases gate with
      | answer response => trivial
      | pass =>
        have quota : quotaFor policy (body.ownedSpec identity).project = some limit := by
          rw [targets]
          exact limited policy rfl
        simp only [admitAndStore, quota]
        refine Obeys.invoke trivial ?_
        intro locked _
        refine (quotaThenStore_obeys ?_).bind ?_
        · simp [Lock.inside_snoc, Lock.insideNext, admitLock, targets]
        · intro stored response inside
          exact Obeys.invoke (fun _ => inside) fun _ _ => trivial
  · refine (createCluster_calls.obeys ?_).mono fun _ _ _ => trivial
    rintro past call _ (passive | _ | _ | _ | _)
    · exact quotaAllowed_of_passive passive
    · trivial
    · trivial
    · exact fun same => absurd same targets
    · exact fun same => absurd same targets

end Discipline

def quotaTraffic : Actor → Bool
  | .create _ _ => true
  | .delete _ _ purge => !purge
  | _ => false

/-- One API process that serves creations and plain deletions. -/
abbrev quotaSystem (platform : Platform Provider) (seed : PolicyConfig) :
    System Call.Res (World Provider) Actor :=
  controlPlane platform seed fun _ actor => quotaTraffic actor = true

inductive QuotaCall (seed : PolicyConfig) (call : Call) : Prop
  | create {id : ClusterId} {spec : ClusterSpec} (made : CreateCall seed id spec call)
  | delete {id : ClusterId} (made : DeleteCall id false call)

section Runs

variable {platform : Platform Provider} {origin : World Provider}
  {trace earlier later : PlaneTrace Provider} {config : PlaneConfig Provider}
  {step : PlaneStep Provider} {policy : StoredPolicy} {after : World Provider} {answer : call.Res}

theorem QuotaCall.boots (made : QuotaCall seed call)
    (seeding : call = .control (.seedPolicy policy)) : seedFromConfig seed = some policy := by
  subst seeding
  rcases made with ⟨made⟩ | ⟨made⟩
  · cases made with
    | passive passive => cases passive
    | seedPolicy boot => exact boot
  · cases made with
    | passive passive => cases passive

theorem QuotaCall.upserts (made : QuotaCall seed call) (raises : call.raises project = true) :
    ∃ id spec, call = .row (.upsertDesired id spec) ∧ spec.project = project := by
  rcases made with ⟨made⟩ | ⟨made⟩
  · cases made with
    | passive passive => exact absurd raises (by simp [not_raises_of_passive passive])
    | upsert => exact ⟨_, _, rfl, by simpa [Call.raises] using raises⟩
    | _ => cases raises
  · cases made with
    | passive passive => exact absurd raises (by simp [not_raises_of_passive passive])
    | _ => cases raises

theorem quotaCall_of_step (run : (quotaSystem platform seed).Run (.start origin) trace config)
    (split : trace = earlier ++ step :: later) : QuotaCall seed step.op := by
  refine run.permitted_step (fun _ => QuotaCall seed) ?_ split
  intro _ actor admitted
  refine (actor.program_calls seed).mono fun call made => ?_
  cases actor with
  | create identity body => exact .create made
  | delete identity id purge =>
    have plain : (!purge) = true := admitted
    simp at plain
    subst plain
    exact .delete made
  | _ => cases admitted

theorem QuotaCall.policyUnder {thread : ℕ} {before : World Provider} (made : QuotaCall seed call)
    (answered : exec platform thread call before = some (answer, after)) :
    after.store.policyUnder seed = before.store.policyUnder seed := by
  have policyEq := policy_exec answered
  unfold Call.policyAfter at policyEq
  split at policyEq
  · next policy =>
      have boot := made.boots rfl
      rcases stored : before.store.policy with _ | kept
      · simp [Store.policyUnder, policyEq, stored, boot]
      · simp [Store.policyUnder, policyEq, stored]
  · rw [Store.policyUnder, Store.policyUnder, policyEq]

theorem policyUnder_of_run (run : (quotaSystem platform seed).Run (.start origin) trace config) :
    config.state.store.policyUnder seed = origin.store.policyUnder seed := by
  refine run.preserves
    (fun world => world.store.policyUnder seed = origin.store.policyUnder seed) ?_ ?_ rfl
  · intro before after drifted same
    rw [← same, Store.policyUnder, Store.policyUnder, drifted.policy]
  · intro front step back split answered same
    exact ((quotaCall_of_step run split).policyUnder answered).trans same

theorem policy_stored_of_seeding
    (run : (quotaSystem platform seed).Run (.start origin) trace config)
    (seeded : ∃ step ∈ trace, step.op = .control (.seedPolicy policy)) :
    config.state.store.policy ≠ none := by
  rcases seeded with ⟨step, stepMem, seeding⟩
  rcases append_of_mem stepMem with ⟨front, back, split⟩
  rcases run.at_step split with ⟨prior, next, _, _, _, answered, rest⟩
  refine rest.preserves (fun world => world.store.policy ≠ none) ?_ ?_ ?_
  · intro before after drifted stored
    rw [drifted.policy]
    exact stored
  · intro _ other _ _ replied stored
    rw [policy_exec replied]
    unfold Call.policyAfter
    split
    · simp
    · exact stored
  · have policyEq := policy_exec answered
    rw [Config.setThread_state, policyEq, seeding]
    simp [Call.policyAfter]

theorem policyAnswers_of_run
    (limited : quotaFor (origin.store.policyUnder seed) project = some limit)
    (run : (quotaSystem platform seed).Run (.start origin) trace config) {i : ℕ}
    (answered : exec platform i call config.state = some (answer, after)) :
    policyAnswers seed project limit (own i trace) call answer := by
  rw [← policyUnder_of_run run] at limited
  unfold policyAnswers
  split
  · next policy =>
      simp [exec_getPolicy] at answered
      simpa [Store.policyUnder, answered.1] using limited
  · simp [exec_getPolicy] at answered
    refine ⟨by simpa [Store.policyUnder, answered.1] using limited, ?_⟩
    intro event eventMem policy seeding
    rcases mem_own.mp eventMem with ⟨step, stepMem, _, rfl⟩
    exact policy_stored_of_seeding run ⟨step, stepMem, seeding⟩ answered.1
  · trivial

variable (limited : quotaFor (origin.store.policyUnder seed) project = some limit)

include limited

section

variable (run : (quotaSystem platform seed).Run (.start origin) trace config)

include run

theorem quotaAllowed_of_step (split : trace = earlier ++ step :: later) :
    quotaAllowed Provider project limit (own step.thread earlier) step.op := by
  refine run.allowed_step (policyAnswers seed project limit)
    (fun _ => quotaAllowed Provider project limit) ?_ ?_ split
  · intro _ _ _ _ _ _ reached answered
    exact policyAnswers_of_run limited reached answered
  · intro _ actor admitted
    cases actor with
    | create identity body => exact Actor.discard_obeys createCluster_obeys
    | delete identity id purge =>
      refine Actor.discard_obeys ((deleteCluster_calls.obeys ?_).mono fun _ _ _ => trivial)
      rintro past call _ (passive | _ | _)
      · exact quotaAllowed_of_passive passive
      · trivial
      · trivial
    | _ => cases admitted

theorem releasedFromInside : (admitLock Provider project).ReleasedFromInside trace := by
  intro front step back split releasing
  have allowed := quotaAllowed_of_step limited run split
  rw [admitLock_releases] at releasing
  rw [releasing] at allowed
  exact allowed rfl

variable (split : trace = earlier ++ step :: later)

include split

/-- While a thread is inside, a step that raises the project's load is its own. -/
theorem raiser_is_inside (raises : step.op.raises project = true) {i : ℕ}
    (inside : (admitLock Provider project).inside (own i earlier) = true) : step.thread = i := by
  rcases run.at_step split with ⟨prior, _, reached, _, _, _, _⟩
  rcases (quotaCall_of_step run split).upserts raises with ⟨id, spec, upserting, targets⟩
  have allowed := quotaAllowed_of_step limited run split
  rw [upserting] at allowed
  have stepInside := (allowed targets).inside
  have respectful := releasedFromInside limited reached
  exact Lock.inside_unique admitLock_granted reached respectful stepInside inside

/-- When an admitted row is written, the rest of the load is covered by what was listed. -/
theorem covers_at_upsert {id : ClusterId} {spec : ClusterSpec}
    (upserting : step.op = .row (.upsertDesired id spec)) (targets : spec.project = project) :
    ∃ rows, quotaAdmits rows limit id spec = true ∧
      Covers project id rows step.before.store.clusters := by
  have allowed := quotaAllowed_of_step limited run split
  rw [upserting] at allowed
  rcases allowed targets with ⟨entry, rows, since, history, inside, passive, admitted⟩
  rcases own_eq_append_cons history with
    ⟨before, listing, middle, rfl, sameThread, listed, ownBefore, ownMiddle⟩
  refine ⟨rows, admitted, ?_⟩
  simp at split
  subst split
  refine run.between (fun world => Covers project id rows world.store.clusters) ?_ ?_ ?_
  · intro before after drifted covered other posted differs loaded
    rw [load_reordered drifted.clusters] at loaded
    exact covered other posted differs loaded
  · intro front inner back window answered covered other posted differs loaded
    rcases raises : inner.op.raises project with _ | _
    · exact covered other posted differs (load_exec answered raises loaded)
    have inWindow : before ++ listing :: (middle ++ step :: later) =
        (before ++ listing :: front) ++ inner :: (back ++ step :: later) := by simp [window]
    have sinceEq : since = own step.thread front ++ own step.thread (inner :: back) := by
      rw [← ownMiddle, window, own_append]
    have stillInside : (admitLock Provider project).inside
        (own step.thread (before ++ listing :: front)) = true := by
      rw [own_append, own_cons, if_pos sameThread, ownBefore, listed]
      apply inside_append inside
      intro event eventMem
      rcases mem_cons.mp eventMem with rfl | later
      · rfl
      · exact passive event (sinceEq ▸ mem_append_left _ later)
    have mine := raiser_is_inside limited run inWindow raises stillInside
    have innerPassive : inner.op.passive = true := by
      refine passive ⟨inner.op, inner.answer⟩ ?_
      rw [sinceEq, own_cons, if_pos mine]
      exact mem_append_right _ mem_cons_self
    rw [not_raises_of_passive innerPassive] at raises
    cases raises
  · have listingMem : listing ∈ before ++ listing :: (middle ++ step :: later) := by simp
    have answered := run.exec_of_mem listingMem
    rcases listing with ⟨thread, role, state, call, answer, after⟩
    cases listed
    have same : some (Except.ok state.store.clusters.rows, state) =
      some (Except.ok rows, after) := answered
    cases same
    exact covers_self project id state.store.clusters

theorem projectFits_step
    (answered : exec platform step.thread step.op step.before = some (step.answer, step.after))
    (fits : ProjectFits project limit step.before.store.clusters) :
    ProjectFits project limit step.after.store.clusters := by
  rcases raises : step.op.raises project with _ | _
  · exact fits.of_load fun id spec loaded => load_exec answered raises loaded
  rcases (quotaCall_of_step run split).upserts raises with ⟨id, spec, upserting, targets⟩
  rcases covers_at_upsert limited run split upserting targets with ⟨rows, admitted, covered⟩
  have rowsEq := clusters_exec answered
  rw [upserting] at rowsEq
  rw [rowsEq]
  exact covered.fits_of_change admitted targets fun _ _ => load_upsertDesired

end

/--
Under a fixed policy, no interleaving of creations and plain deletions takes a
project over its quota.
-/
theorem quota_holds_under_concurrency
    (run : (quotaSystem platform seed).Run (.start origin) trace config)
    (fits : ProjectFits project limit origin.store.clusters) :
    ProjectFits project limit config.state.store.clusters := by
  refine run.preserves (fun world => ProjectFits project limit world.store.clusters) ?_ ?_ fits
  · intro before after drifted fits
    refine fits.of_load fun id spec loaded => ?_
    rwa [load_reordered drifted.clusters] at loaded
  · intro front step back split answered
    exact projectFits_step limited run split answered

end Runs

/-- Both requests are past their gates before either takes the lock. -/
def twoCreations : List (Move Actor) :=
  [.spawn 0 (.create none ⟨"c1", headOnly "p"⟩), .spawn 1 (.create none ⟨"c2", headOnly "p"⟩)] ++
    List.replicate 3 (.call 0) ++ List.replicate 2 (.call 1) ++ List.replicate 7 (.call 0) ++
    List.replicate 5 (.call 1)

theorem quota_holds_for_two_creations :
    ∃ progress,
      (quotaSystem demoPlatform roomForOneHead).execute quotaTraffic twoCreations
        (demoWorld .empty) = some progress ∧
      progress.config.state.store.clusters.rows.map (·.id) = ["c1"] ∧
      ProjectFits "p" oneHead progress.config.state.store.clusters := by
  have outcome : ((quotaSystem demoPlatform roomForOneHead).execute quotaTraffic twoCreations
      (demoWorld .empty)).map
        (fun progress => progress.config.state.store.clusters.rows.map (·.id)) = some ["c1"] := by
    decide +kernel
  rcases Option.map_eq_some_iff.mp outcome with ⟨progress, executed, rows⟩
  have run := System.execute_run (fun _ _ permitted => permitted) executed
  exact ⟨progress, executed, rows, quota_holds_under_concurrency rfl run (by decide +kernel)⟩

end Mobula
