import Mobula.Api.Clusters
import Mobula.Controller.Alone

/-!
# Requests running alone

Every handler is described by a pure function of the store: which of the gates refuses, and what
is written when none does. Apart from the row they write, requests leave an audit row at most,
and the boot policy the first time it is needed.
-/

namespace Mobula

open Foundation Prog ClusterTable Yields

variable {Provider : Type} {platform : Platform Provider} {thread : ℕ}
  {world world' world'' : World Provider}

/-- Nothing but the clock and the audit trail differs. -/
structure Quiet (world world' : World Provider) : Prop where
  clusters : world'.store.clusters = world.store.clusters
  intents : world'.store.intents = world.store.intents
  quarantined : world'.store.quarantined = world.store.quarantined
  pools : world'.store.pools = world.store.pools
  allocations : world'.store.allocations = world.store.allocations
  usage : world'.store.usage = world.store.usage
  policy : world'.store.policy = world.store.policy
  assignments : world'.store.assignments = world.store.assignments
  provider : world'.provider = world.provider
  admitLocks : world'.admitLocks = world.admitLocks

namespace Quiet

theorem refl (world : World Provider) : Quiet world world :=
  ⟨rfl, rfl, rfl, rfl, rfl, rfl, rfl, rfl, rfl, rfl⟩

theorem ofReading (world : World Provider) (taken : Bool) :
    Quiet world (world.afterReading taken) :=
  ⟨rfl, rfl, rfl, rfl, rfl, rfl, rfl, rfl, rfl, rfl⟩

theorem trans (first : Quiet world world') (second : Quiet world' world'') :
    Quiet world world'' where
  clusters := second.clusters.trans first.clusters
  intents := second.intents.trans first.intents
  quarantined := second.quarantined.trans first.quarantined
  pools := second.pools.trans first.pools
  allocations := second.allocations.trans first.allocations
  usage := second.usage.trans first.usage
  policy := second.policy.trans first.policy
  assignments := second.assignments.trans first.assignments
  provider := second.provider.trans first.provider
  admitLocks := second.admitLocks.trans first.admitLocks

end Quiet

variable {identity : Caller} {seed : PolicyConfig} {spec : ClusterSpec} {id : ClusterId}
  {action : PermissionType} {target : Target} {project : String} {pools : List StoredPool}
  {limit : ResourceMap} {budget : Option Budget}

theorem nowUnix_runs :
    Runs platform thread Calls.nowUnix world world.now (world.afterReading true) :=
  yields_invoke rfl

theorem assignmentsFor_runs {principal : String} :
    Runs platform thread (assignmentsFor principal) world
      (parseAssignments (world.store.listRoleAssignments (some principal))) world :=
  invoke exec_listRoleAssignments .ret

theorem assignmentsForIdentity_runs {identity : Identity} :
    Runs platform thread (assignmentsForIdentity identity) world
      (world.store.storedAssignmentsOf identity) world := by
  apply bind assignmentsFor_runs
  unfold Store.storedAssignmentsOf
  rcases identity.username with _ | username
  · exact .ret
  by_cases distinct : username ≠ identity.subject
  · simp only [if_pos distinct]
    exact assignmentsFor_runs.bind .ret
  · simp only [if_neg distinct]
    exact .ret

theorem effectiveAssignments_runs {identity : Identity} :
    Runs platform thread (effectiveAssignments identity) world
      (world.store.assignmentsOf identity) world :=
  assignmentsForIdentity_runs.bind .ret

theorem authorizeScoped_passes
    (permitted : world.store.permitsScoped identity action target project = true) :
    Runs platform thread (authorizeScoped identity action target project) world none world := by
  rcases identity with _ | identity
  · exact .ret
  unfold authorizeScoped
  by_cases everywhere : identity.permits action target = true
  · simp [everywhere]
    exact .ret
  · have granted : identity.permitsScoped action target (world.store.assignmentsOf identity)
        project = true := by simpa [Store.permitsScoped] using permitted
    simp only [everywhere]
    apply bind effectiveAssignments_runs
    simp [granted]
    exact .ret

theorem authorize_passes (permitted : identity.all (·.permits action target) = true) :
    Runs platform thread (authorize identity action target) world none world := by
  rcases identity with _ | identity
  · exact .ret
  have granted : identity.permits action target = true := permitted
  simp [authorize, granted]
  exact .ret

/-- The policy in force: the stored one, else the configured one. -/
def Store.policyUnder (store : Store) (seed : PolicyConfig) : Option StoredPolicy :=
  match store.policy with
  | some policy => some policy
  | none => seedFromConfig seed

def World.seeded (world : World Provider) (seed : PolicyConfig) : World Provider :=
  { world with store := { world.store with policy := world.store.policyUnder seed } }

theorem effectivePolicy_runs :
    Runs platform thread (effectivePolicy seed) world (.ok (world.store.policyUnder seed))
      (world.seeded seed) := by
  apply invoke exec_getPolicy
  unfold World.seeded Store.policyUnder
  cases stored : world.store.policy with
  | some policy =>
    simp only [← stored]
    exact .ret
  | none =>
    cases seedFromConfig seed with
    | none =>
      simp only [← stored]
      exact .ret
    | some policy =>
      exact invoke (exec_seedPolicy stored) .ret

/-- The verdict on tenant isolation: the first pool with an allocation for the project decides. -/
def Store.gpuVerdict (store : Store) (seed : PolicyConfig) (spec : ClusterSpec) :
    List StoredPool → Except GpuSharingViolation Unit
  | [] => .ok ()
  | pool :: pools =>
    if (store.allocationsOf pool.name).any (·.project = spec.project) then
      checkClusterGpuIsolation pool.spec seed.gpuDefaultSharing
        (store.allocationsOf pool.name).length spec
    else store.gpuVerdict seed spec pools

theorem gpuGateIn_passes (verdict : world.store.gpuVerdict seed spec pools = .ok ()) :
    Runs platform thread (gpuGateIn seed identity id spec pools) world .pass world := by
  induction pools with
  | nil => exact .ret
  | cons pool pools ih =>
    apply invoke exec_listAllocations
    unfold Store.gpuVerdict at verdict
    split at verdict
    · next allocated =>
        simp [allocated, verdict]
        exact .ret
    · next elsewhere =>
        simp only [elsewhere]
        exact ih verdict

theorem gpuGate_passes
    (verdict : world.store.gpuVerdict seed spec world.store.pools.rows = .ok ()) :
    Runs platform thread (gpuGate seed identity id spec) world .pass world :=
  invoke exec_listPools (gpuGateIn_passes verdict)

def quotaAdmits (rows : List StoredCluster) (limit : ResourceMap) (id : ClusterId)
    (spec : ClusterSpec) : Bool :=
  match clusterDemand spec, sumMaxDemand (otherLive spec.project id rows) with
  | .ok demand, .ok inUse => (inUse.add demand.2).fitsWithin limit
  | _, _ => false

theorem quotaGate_passes (admitted : quotaAdmits world.store.clusters.rows limit id spec = true) :
    Runs platform thread (quotaGate identity id spec limit) world .pass world := by
  unfold quotaAdmits at admitted
  split at admitted
  · next demand inUse computed summed =>
      unfold quotaGate
      simp only [computed]
      apply invoke exec_list
      simp only [summed, admitQuota_eq_ok.mpr admitted]
      exact .ret
  · cases admitted

def Store.budgetAdmits (store : Store) (project : String) (now : ℕ) : Option Budget → Bool
  | none => true
  | some budget =>
    let samples := store.usageSamples (some project) none 0 now
    let consumed := windowedResourceHours (groupSamples samples) (now - budget.windowSecs) now
    (admitBudget project budget consumed).isOk

theorem windowedConsumption_runs {start stop : ℕ} :
    Runs platform thread (windowedConsumption project start stop) world
      (.ok (windowedResourceHours (groupSamples
        (world.store.usageSamples (some project) none 0 stop)) start stop)) world :=
  invoke exec_usageSamples .ret

/-- The world after an event was recorded at its present second. -/
def World.audited (world : World Provider) (platform : Platform Provider) (event : AuditEvent) :
    World Provider :=
  { world.afterReading true with
    store := (execControl platform.sha256 (.recordAudit event) world.store world.now).2 }

theorem Quiet.audited {event : AuditEvent} (quiet : Quiet world world') :
    Quiet world (world'.audited platform event) :=
  ⟨quiet.clusters, quiet.intents, quiet.quarantined, quiet.pools, quiet.allocations, quiet.usage,
    quiet.policy, quiet.assignments, quiet.provider, quiet.admitLocks⟩

theorem Quiet.exists_audited {α : Type} {program : Program α} {answer : α} {event : AuditEvent}
    {start : World Provider} (quiet : Quiet start world')
    (ran : Runs platform thread program world answer (world'.audited platform event)) :
    ∃ final, Runs platform thread program world answer final ∧ Quiet start final :=
  ⟨_, ran, quiet.audited⟩

theorem emit_runs {event : AuditEvent} :
    Runs platform thread (emit event) (world.afterReading true) () (world.audited platform event) :=
  call rfl .ret

theorem answerWith_runs {decision : AuditDecision} {reason : Option String} {action : String}
    {response : Response} :
    Runs platform thread (answerWith identity decision reason action id response) world response
      (world.audited platform
        { ts := world.now, subject := subjectOf identity, decision, reason,
          action := some action, cluster := some id, status := some response.status }) := by
  apply bind nowUnix_runs
  apply bind emit_runs
  exact .ret

theorem refuse_runs {identity : Identity} :
    Runs platform thread (refuse identity action target) world
      (some ⟨403, .text "insufficient permission"⟩)
      (world.audited platform
        { ts := world.now, subject := some identity.subject, decision := .deny,
          reason := some "insufficient_permission", status := some 403,
          required := some ⟨action.asStr, target.asStr⟩,
          grantedRoles := identity.roles.map Role.asStr }) := by
  apply bind nowUnix_runs
  exact emit_runs.bind .ret

variable (platform thread)

theorem authorizeScoped_refuses
    (forbidden : world.store.permitsScoped identity action target project = false) :
    ∃ world', Runs platform thread (authorizeScoped identity action target project) world
      (some ⟨403, .text "insufficient permission"⟩) world' ∧ Quiet world world' := by
  rcases identity with _ | identity
  · simp [Store.permitsScoped] at forbidden
  have granted : identity.permitsScoped action target (world.store.assignmentsOf identity)
      project = false := by simpa [Store.permitsScoped] using forbidden
  have everywhere : identity.permits action target = false := by
    simp [Identity.permitsScoped] at granted
    exact granted.1
  apply (Quiet.refl world).exists_audited
  unfold authorizeScoped
  simp only [everywhere]
  apply bind effectiveAssignments_runs
  simp only [granted]
  exact refuse_runs

theorem gpuGateIn_refuses (identity : Caller) (id : ClusterId)
    {violation : GpuSharingViolation}
    (verdict : world.store.gpuVerdict seed spec pools = .error violation) :
    ∃ world', Runs platform thread (gpuGateIn seed identity id spec pools) world
      (.answer ⟨400, .gpuSharing violation⟩) world' ∧ Quiet world world' := by
  induction pools with
  | nil => cases verdict
  | cons pool pools ih =>
    unfold Store.gpuVerdict at verdict
    split at verdict
    · next allocated =>
        apply (Quiet.refl world).exists_audited
        apply invoke exec_listAllocations
        simp [allocated, verdict]
        exact answerWith_runs.bind .ret
    · next elsewhere =>
        rcases ih verdict with ⟨final, answered, quiet⟩
        refine ⟨final, ?_, quiet⟩
        apply invoke exec_listAllocations
        simp only [elsewhere]
        exact answered

theorem quotaGate_refuses (exceeded : quotaAdmits world.store.clusters.rows limit id spec = false) :
    ∃ response, response.status ≠ 201 ∧ ∃ world', Runs platform thread
      (quotaGate identity id spec limit) world (.answer response) world' ∧ Quiet world world' := by
  unfold quotaGate
  rcases computed : clusterDemand spec with failure | demand
  · exact ⟨_, by simp, world, .ret, Quiet.refl world⟩
  cases summed : sumMaxDemand (otherLive spec.project id world.store.clusters.rows) with
  | error failure =>
    refine ⟨accountingFailed, by simp [accountingFailed], world, ?_, Quiet.refl world⟩
    apply invoke exec_list
    simp only [summed]
    exact .ret
  | ok inUse =>
    have tooMuch : admitQuota spec.project limit inUse demand.2 =
        .error ⟨spec.project, demand.2, inUse, limit⟩ := by
      simp only [quotaAdmits, computed, summed] at exceeded
      simp [admitQuota, exceeded]
    refine ⟨⟨409, .quota ⟨spec.project, demand.2, inUse, limit⟩⟩, by simp, ?_⟩
    apply (Quiet.refl world).exists_audited
    apply invoke exec_list
    simp only [summed, tooMuch]
    exact answerWith_runs.bind .ret

theorem budgetGate_passes (identity : Caller) (id : ClusterId)
    (admitted : world.store.budgetAdmits project world.now budget = true) :
    ∃ world', Runs platform thread (budgetGate identity id project budget) world .pass world' ∧
      Quiet world world' := by
  rcases budget with _ | budget
  · exact ⟨world, .ret, Quiet.refl world⟩
  refine ⟨world.afterReading true, ?_, Quiet.ofReading world true⟩
  apply bind nowUnix_runs
  apply bind windowedConsumption_runs
  cases verdict : admitBudget project budget (windowedResourceHours (groupSamples
    (world.store.usageSamples (some project) none 0 world.now))
    (world.now - budget.windowSecs) world.now) with
  | ok passed =>
    simp only [World.afterReading_store, verdict]
    exact .ret
  | error exceeded => simp [Store.budgetAdmits, verdict, Except.isOk, Except.toBool] at admitted

theorem budgetGate_refuses (exceeded : world.store.budgetAdmits project world.now budget = false) :
    ∃ response, response.status ≠ 201 ∧ ∃ world', Runs platform thread
      (budgetGate identity id project budget) world (.answer response) world' ∧
        Quiet world world' := by
  rcases budget with _ | budget
  · cases exceeded
  cases verdict : admitBudget project budget (windowedResourceHours (groupSamples
    (world.store.usageSamples (some project) none 0 world.now))
    (world.now - budget.windowSecs) world.now) with
  | ok passed => simp [Store.budgetAdmits, verdict, Except.isOk, Except.toBool] at exceeded
  | error violation =>
    refine ⟨⟨409, .budget violation⟩, by simp, ?_⟩
    apply (Quiet.ofReading world true).exists_audited
    apply bind nowUnix_runs
    apply bind windowedConsumption_runs
    simp only [World.afterReading_store, verdict]
    exact answerWith_runs.bind .ret

theorem noteQueue_runs (identity : Caller) (id : ClusterId) (project : String)
    (world : World Provider) :
    ∃ world', Runs platform thread (noteQueue identity id project) world () world' ∧
      Quiet world world' := by
  cases assigned : world.store.queueOf project with
  | none =>
    refine ⟨world, ?_, Quiet.refl world⟩
    apply bind queueAssignmentForProject_runs
    simp only [assigned]
    exact .ret
  | some queue =>
    apply (Quiet.refl world).exists_audited
    apply bind queueAssignmentForProject_runs
    simp only [assigned]
    exact nowUnix_runs.bind emit_runs

/-- Success means that the specification was stored; otherwise nothing was. -/
def EndsCreation (admitted : Bool) (id : ClusterId) (spec : ClusterSpec)
    (world world' : World Provider) (response : Response) : Prop :=
  if admitted then
    response.status = 201 ∧ ∃ stamp, Quiet (world.setClusters
      (ClusterTable.upsertDesired world.store.clusters id spec stamp)) world'
  else response.status ≠ 201 ∧ Quiet world world'

/-- Running alone, the rest of a creation stores the specification if it is admitted. -/
abbrev Creates (admitted : Bool) (program : Program Response) (id : ClusterId)
    (spec : ClusterSpec) (world : World Provider) : Prop :=
  ∃ response world', Runs platform thread program world response world' ∧
    EndsCreation admitted id spec world world' response

section Creation

variable {admitted : Bool} {response : Response}

theorem EndsCreation.after {passing : World Provider} (quiet : Quiet world passing)
    (ends : EndsCreation admitted id spec passing world' response) :
    EndsCreation admitted id spec world world' response := by
  rcases admitted with _ | _
  · exact ⟨ends.1, quiet.trans ends.2⟩
  rcases ends with ⟨status, stamp, stored⟩
  have sameRows : Quiet (world.setClusters (upsertDesired world.store.clusters id spec stamp))
      (passing.setClusters (upsertDesired passing.store.clusters id spec stamp)) :=
    ⟨congrArg (upsertDesired · id spec stamp) quiet.clusters, quiet.intents,
      quiet.quarantined, quiet.pools, quiet.allocations, quiet.usage, quiet.policy,
      quiet.assignments, quiet.provider, quiet.admitLocks⟩
  exact ⟨status, stamp, sameRows.trans stored⟩

theorem creates_of_gate {gate : Program Gate} {next : Program Response} {passes : Bool}
    (opens : passes = true → ∃ passing, Runs platform thread gate world .pass passing ∧
      Quiet world passing ∧ Creates platform thread admitted next id spec passing)
    (closes : passes = false → ∃ response, response.status ≠ 201 ∧ ∃ world',
      Runs platform thread gate world (.answer response) world' ∧ Quiet world world') :
    Creates platform thread (passes && admitted) (gate >>= fun outcome => match outcome with
      | .answer response => return response
      | .pass => next) id spec world := by
  cases passes with
  | false =>
    rcases closes rfl with ⟨response, status, final, answered, quiet⟩
    exact ⟨response, final, answered.bind .ret, status, quiet⟩
  | true =>
    rcases opens rfl with ⟨passing, passed, quiet, response, final, ran, ends⟩
    simp
    exact ⟨response, final, passed.bind ran, ends.after quiet⟩

theorem storeCluster_creates :
    Creates platform thread true (storeCluster identity id spec) id spec world := by
  have stored : exec platform thread (.row (.upsertDesired id spec)) world =
      some (.ok (nextGeneration (world.store.clusters.find? id) spec),
        (world.afterReading true).setClusters
          (upsertDesired world.store.clusters id spec world.now)) := rfl
  rcases noteQueue_runs platform thread identity id spec.project _ with ⟨final, noted, quiet⟩
  refine ⟨_, final, invoke stored (answerWith_runs.bind (noted.bind .ret)),
    rfl, world.now, ?_⟩
  exact (Quiet.ofReading (world.setClusters _) true).audited.trans quiet

theorem budgetThenStore_creates :
    Creates platform thread (world.store.budgetAdmits spec.project world.now budget)
      (budgetThenStore identity id spec budget) id spec world := by
  rw [← Bool.and_true (world.store.budgetAdmits spec.project world.now budget)]
  refine creates_of_gate platform thread ?_ (budgetGate_refuses platform thread)
  intro admitted
  rcases budgetGate_passes platform thread identity id admitted with ⟨passing, passed, quiet⟩
  exact ⟨passing, passed, quiet, storeCluster_creates platform thread⟩

theorem quotaThenStore_creates (identity : Caller) (id : ClusterId) (spec : ClusterSpec)
    (limit : ResourceMap) (budget : Option Budget) (world : World Provider) :
    Creates platform thread (quotaAdmits world.store.clusters.rows limit id spec &&
        world.store.budgetAdmits spec.project world.now budget)
      (quotaThenStore identity id spec limit budget) id spec world :=
  creates_of_gate platform thread (fun fits => ⟨world, quotaGate_passes fits, Quiet.refl world,
      budgetThenStore_creates platform thread⟩)
    (quotaGate_refuses platform thread)

def Store.policyAdmits (store : Store) (policy : Option StoredPolicy) (id : ClusterId)
    (spec : ClusterSpec) (now : ℕ) : Bool :=
  (quotaFor policy spec.project).all (quotaAdmits store.clusters.rows · id spec) &&
    store.budgetAdmits spec.project now (budgetFor policy spec.project)

theorem lockAdmit_answered (free : world.admitLocks project = none) :
    exec platform thread (.process (.lockAdmit project)) world =
      some ((), world.setLock project (some thread)) := by
  simp [exec, execProcess, free]

theorem Quiet.afterUnlock {project : String} {holder : ℕ} (free : world.admitLocks project = none)
    (quiet : Quiet (world.setLock project (some holder)) world') :
    Quiet world (world'.setLock project none) where
  clusters := quiet.clusters
  intents := quiet.intents
  quarantined := quiet.quarantined
  pools := quiet.pools
  allocations := quiet.allocations
  usage := quiet.usage
  policy := quiet.policy
  assignments := quiet.assignments
  provider := quiet.provider
  admitLocks := by
    have held : world'.admitLocks = Function.update world.admitLocks project (some holder) :=
      quiet.admitLocks
    simp only [World.setLock, held, Function.update_idem]
    rw [← free, Function.update_eq_self]

theorem EndsCreation.afterUnlock {holder : ℕ} (free : world.admitLocks project = none)
    (ends : EndsCreation admitted id spec (world.setLock project (some holder)) world' response) :
    EndsCreation admitted id spec world (world'.setLock project none) response := by
  rcases admitted with _ | _
  · exact ⟨ends.1, ends.2.afterUnlock free⟩
  rcases ends with ⟨status, stamp, quiet⟩
  exact ⟨status, stamp, @Quiet.afterUnlock _ (world.setClusters _) _ _ _ free quiet⟩

theorem admitAndStore_creates
    {policy : Option StoredPolicy} (free : world.admitLocks spec.project = none) :
    Creates platform thread (world.store.policyAdmits policy id spec world.now)
      (admitAndStore identity id spec policy) id spec world := by
  unfold admitAndStore Store.policyAdmits
  rcases limited : quotaFor policy spec.project with _ | limit
  · exact budgetThenStore_creates platform thread
  rcases quotaThenStore_creates platform thread identity id spec limit
    (budgetFor policy spec.project) (world.setLock spec.project (some thread)) with
    ⟨response, final, ran, ends⟩
  refine ⟨response, final.setLock spec.project none, ?_, ends.afterUnlock free⟩
  apply invoke (lockAdmit_answered platform thread free)
  apply bind ran
  exact invoke rfl .ret

theorem gpuGate_refuses (identity : Caller) (id : ClusterId)
    {violation : GpuSharingViolation}
    (verdict : world.store.gpuVerdict seed spec world.store.pools.rows = .error violation) :
    ∃ world', Runs platform thread (gpuGate seed identity id spec) world
      (.answer ⟨400, .gpuSharing violation⟩) world' ∧ Quiet world world' := by
  rcases gpuGateIn_refuses platform thread identity id verdict with ⟨final, answered, quiet⟩
  exact ⟨final, invoke exec_listPools answered, quiet⟩

theorem isolateThenStore_creates (seed : PolicyConfig) (identity : Caller)
    (id : ClusterId) (policy : Option StoredPolicy) (free : world.admitLocks spec.project = none) :
    Creates platform thread
      ((world.store.gpuVerdict seed spec world.store.pools.rows).isOk &&
        world.store.policyAdmits policy id spec world.now)
      (isolateThenStore seed identity id spec policy) id spec world := by
  refine creates_of_gate platform thread ?_ ?_
  · intro isolated
    rcases verdict : world.store.gpuVerdict seed spec world.store.pools.rows with violation | passed
    · simp [verdict, Except.isOk, Except.toBool] at isolated
    exact ⟨world, gpuGate_passes verdict, Quiet.refl world,
      admitAndStore_creates platform thread free⟩
  · intro shared
    cases verdict : world.store.gpuVerdict seed spec world.store.pools.rows with
    | ok passed => simp [verdict, Except.isOk, Except.toBool] at shared
    | error violation =>
      exact ⟨_, by simp, gpuGate_refuses platform thread identity id verdict⟩

/-- Whether a request to store a specification passes every gate. -/
def Store.createAdmits (store : Store) (seed : PolicyConfig) (identity : Caller)
    (id : ClusterId) (spec : ClusterSpec) (now : ℕ) : Bool :=
  store.mayWrite identity spec.project && (store.gpuVerdict seed spec store.pools.rows).isOk &&
    store.policyAdmits (store.policyUnder seed) id spec now

theorem gpuVerdict_seeded : (world.seeded seed).store.gpuVerdict seed spec pools =
      world.store.gpuVerdict seed spec pools := by
  induction pools with
  | nil => rfl
  | cons pool pools ih =>
    unfold Store.gpuVerdict
    rw [ih]
    rfl

variable {body : CreateCluster}

theorem createCluster_ends (free : world.admitLocks body.spec.project = none) :
    ∃ response world', Runs platform thread (createCluster seed identity body) world
      response world' ∧
      (EndsCreation (world.store.createAdmits seed identity body.id (body.ownedSpec identity)
          world.now) body.id (body.ownedSpec identity) (world.seeded seed) world' response ∨
        world.store.createAdmits seed identity body.id (body.ownedSpec identity) world.now =
          false ∧ response.status ≠ 201 ∧ Quiet world world') := by
  cases permitted : world.store.mayWrite identity (body.ownedSpec identity).project with
  | false =>
    rcases authorizeScoped_refuses platform thread permitted with ⟨final, denied, quiet⟩
    exact ⟨_, final, denied.bind .ret, .inr
      ⟨by simp [Store.createAdmits, permitted], by simp, quiet⟩⟩
  | true =>
    rcases @isolateThenStore_creates _ platform thread (world.seeded seed)
      (body.ownedSpec identity) seed identity body.id (world.store.policyUnder seed) free with
      ⟨response, final, ran, ends⟩
    refine ⟨response, final, ?_, .inl ?_⟩
    · apply bind (authorizeScoped_passes permitted)
      exact effectivePolicy_runs.bind ran
    · rw [gpuVerdict_seeded] at ends
      simp [Store.createAdmits, permitted]
      exact ends

theorem createCluster_stores
    (admitted : world.store.createAdmits seed identity body.id (body.ownedSpec identity)
      world.now = true)
    (free : world.admitLocks body.spec.project = none) :
    ∃ response stamp world', Runs platform thread (createCluster seed identity body) world
      response world' ∧
      Quiet ((world.seeded seed).setClusters (upsertDesired world.store.clusters
        body.id (body.ownedSpec identity) stamp)) world' ∧ response.status = 201 := by
  rcases @createCluster_ends _ platform thread _ identity seed body free with
    ⟨response, final, ran, ends | refused⟩
  · rw [admitted] at ends
    rcases ends with ⟨status, stamp, quiet⟩
    exact ⟨response, stamp, final, ran, quiet, status⟩
  · rw [admitted] at refused
    cases refused.1

theorem createCluster_refuses
    (refused : world.store.createAdmits seed identity body.id (body.ownedSpec identity)
      world.now = false)
    (free : world.admitLocks body.spec.project = none) :
    ∃ response world', Runs platform thread (createCluster seed identity body) world
      response world' ∧ (Quiet world world' ∨ Quiet (world.seeded seed) world') ∧
      response.status ≠ 201 := by
  rcases @createCluster_ends _ platform thread _ identity seed body free with
    ⟨response, final, ran, ends | ⟨_, status, quiet⟩⟩
  · rw [refused] at ends
    exact ⟨response, final, ran, .inr ends.2, ends.1⟩
  · exact ⟨response, final, ran, .inl quiet, status⟩

variable {platform thread}
  (ran : Runs platform thread (createCluster seed identity body) world response world')
  (free : world.admitLocks body.spec.project = none)

include ran free

theorem createCluster_outcome :
    if world.store.createAdmits seed identity body.id (body.ownedSpec identity) world.now then
      ∃ stamp, Quiet ((world.seeded seed).setClusters (upsertDesired
        world.store.clusters body.id (body.ownedSpec identity) stamp)) world'
    else Quiet world world' ∨ Quiet (world.seeded seed) world' := by
  split
  · next admitted =>
      rcases createCluster_stores platform thread admitted free with
        ⟨_, stamp, final, stored, quiet, _⟩
      rw [(ran.unique stored).2]
      exact ⟨stamp, quiet⟩
  · next refused =>
      simp at refused
      rcases createCluster_refuses platform thread refused free with ⟨_, final, answered, quiet, _⟩
      rw [(ran.unique answered).2]
      exact quiet

/-- A creation that ran alone is answered with success only if it passed every gate. -/
theorem createAdmits_of_created (created : response.status = 201) :
    world.store.createAdmits seed identity body.id (body.ownedSpec identity) world.now = true := by
  by_contra refused
  simp at refused
  rcases createCluster_refuses platform thread refused free with ⟨_, _, answered, _, status⟩
  rw [← (ran.unique answered).1] at status
  exact status created

end Creation

/-- The row a lifecycle command changes, if it is let through. -/
def Store.commandRow (store : Store) (identity : Caller) (id : ClusterId)
    (command : LifecycleCommand) : Option StoredCluster :=
  (store.clusters.find? id).filter fun row =>
    identity.all (·.permits .write .cluster) && (store.queueOf row.spec.project).isNone &&
      command.legal row

theorem authorize_refuses (world : World Provider)
    (forbidden : identity.all (·.permits action target) = false) :
    ∃ world', Runs platform thread (authorize identity action target) world
      (some ⟨403, .text "insufficient permission"⟩) world' ∧ Quiet world world' := by
  rcases identity with _ | identity
  · cases forbidden
  have denied : identity.permits action target = false := forbidden
  apply (Quiet.refl world).exists_audited
  simp only [authorize, denied]
  exact refuse_runs

variable {command : LifecycleCommand}

theorem lifecycleCommand_flips {row : StoredCluster}
    (through : world.store.commandRow identity id command = some row) :
    ∃ response world', Runs platform thread (lifecycleCommand identity id command) world
      response world' ∧
      Quiet (world.setClusters
        (setDesired world.store.clusters id command.desired world.now)) world' := by
  simp [Store.commandRow, Option.filter_eq_some_iff] at through
  rcases through with ⟨found, ⟨permitted, unqueued⟩, legal⟩
  have flipped : exec platform thread (.row (.setDesired id command.desired)) world =
      some (.ok (), (world.afterReading true).setClusters
        (setDesired world.store.clusters id command.desired world.now)) := by
    simp [exec, execRow, found, RowCall.stamps]
  refine ⟨⟨202, lifecycleBody id command row⟩, ?_⟩
  apply (Quiet.ofReading (world.setClusters _) true).exists_audited
  apply bind (authorize_passes permitted)
  apply invoke exec_get
  simp only [found]
  apply bind queueAssignmentForProject_runs
  simp [unqueued, legal]
  exact invoke flipped answerWith_runs

theorem lifecycleCommand_refuses (refused : world.store.commandRow identity id command = none) :
    ∃ response world', Runs platform thread (lifecycleCommand identity id command) world
      response world' ∧ Quiet world world' := by
  cases permitted : identity.all (·.permits .write .cluster) with
  | false =>
    rcases authorize_refuses platform thread world permitted with ⟨final, denied, quiet⟩
    exact ⟨_, final, denied.bind .ret, quiet⟩
  | true =>
    cases found : world.store.clusters.find? id with
    | none =>
      refine ⟨noSuchCluster, world, ?_, Quiet.refl world⟩
      apply bind (authorize_passes permitted)
      apply invoke exec_get
      simp only [found]
      exact .ret
    | some row =>
      cases assigned : world.store.queueOf row.spec.project with
      | some queue =>
        refine ⟨queueOwned queue, ?_⟩
        apply (Quiet.refl world).exists_audited
        apply bind (authorize_passes permitted)
        apply invoke exec_get
        simp only [found]
        apply bind queueAssignmentForProject_runs
        simp only [assigned]
        exact answerWith_runs
      | none =>
        have illegal : command.legal row = false := by
          simpa [Store.commandRow, found, permitted, assigned, Option.filter] using refused
        refine ⟨illegalTransition row.observedState command.transitionalState, ?_⟩
        apply (Quiet.refl world).exists_audited
        apply bind (authorize_passes permitted)
        apply invoke exec_get
        simp only [found]
        apply bind queueAssignmentForProject_runs
        simp only [assigned, illegal]
        exact answerWith_runs

variable {platform thread}

theorem lifecycleCommand_outcome {response : Response}
    (ran : Runs platform thread (lifecycleCommand identity id command) world response world') :
    if (world.store.commandRow identity id command).isSome then
      Quiet (world.setClusters
        (setDesired world.store.clusters id command.desired world.now)) world'
    else Quiet world world' := by
  cases through : world.store.commandRow identity id command with
  | some row =>
    rcases lifecycleCommand_flips platform thread through with ⟨_, final, flipped, quiet⟩
    rw [(ran.unique flipped).2]
    exact quiet
  | none =>
    rcases lifecycleCommand_refuses platform thread through with ⟨_, final, answered, quiet⟩
    rw [(ran.unique answered).2]
    exact quiet

end Mobula
