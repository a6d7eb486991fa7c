import Mobula.Api.Clusters
import Mobula.Controller.Reach

/-!
# What request handlers may call

Most of what a handler does is reading and auditing. The lemmas below say so for every part of
the handlers but the few calls that write rows or take a lock, for all answers the calls may
receive.
-/

namespace Mobula

open Foundation Prog Within

variable {identity : Caller} {id : ClusterId} {seed : PolicyConfig} {spec : ClusterSpec}
  {action : PermissionType} {target : Target} {project : String} {budget : Option Budget}

/-- The calls of authorization and auditing. -/
inductive AuthorizationCall : Call → Prop
  | clock : AuthorizationCall (.process .nowUnix)
  | audit (event : AuditEvent) : AuthorizationCall (.control (.recordAudit event))
  | assignments (principal : Option String) :
      AuthorizationCall (.control (.listRoleAssignments principal))

theorem AuthorizationCall.looksAway {call : Call} (made : AuthorizationCall call) :
    call.looksAway := by
  cases made <;> exact ⟨rfl, fun _ => rfl⟩

theorem AuthorizationCall.passive {call : Call} (made : AuthorizationCall call) :
    call.passive = true :=
  made.looksAway.1

theorem emit_calls {event : AuditEvent} : (emit event).Within AuthorizationCall :=
  invoke (.audit event) fun _ => trivial

theorem answerWith_passive {decision : AuditDecision} {reason : Option String} {action : String}
    {response : Response} : Passive (answerWith identity decision reason action id response) :=
  invoke rfl fun _ =>
    (emit_calls.mono fun _ => AuthorizationCall.passive).bind fun _ => trivial

theorem assignmentsFor_calls {principal : String} :
    (assignmentsFor principal).Within AuthorizationCall := by
  refine invoke (.assignments _) ?_
  intro answer
  cases answer <;> trivial

theorem effectiveAssignments_calls {identity : Identity} :
    (effectiveAssignments identity).Within AuthorizationCall := by
  have stored : (assignmentsForIdentity identity).Within AuthorizationCall := by
    refine assignmentsFor_calls.bind ?_
    intro held
    rcases identity.username with _ | username
    · trivial
    by_cases distinct : username ≠ identity.subject
    · simp only [if_pos distinct]
      exact assignmentsFor_calls.bind fun _ => trivial
    · simp only [if_neg distinct]
      trivial
  exact stored.bind fun _ => trivial

theorem refuse_calls {identity : Identity} :
    (refuse identity action target).Within AuthorizationCall :=
  invoke .clock fun _ => emit_calls.bind fun _ => trivial

theorem authorizeScoped_calls :
    (authorizeScoped identity action target project).Within AuthorizationCall := by
  rcases identity with _ | identity
  · trivial
  simp only [authorizeScoped]
  split
  · trivial
  · refine effectiveAssignments_calls.bind ?_
    intro assignments
    split
    · trivial
    · exact refuse_calls

theorem authorizeScoped_looksAway :
    (authorizeScoped identity action target project).Within Call.looksAway :=
  authorizeScoped_calls.mono fun _ => AuthorizationCall.looksAway

theorem authorizeScoped_passive : Passive (authorizeScoped identity action target project) :=
  authorizeScoped_calls.mono fun _ => AuthorizationCall.passive

theorem authorize_calls : (authorize identity action target).Within AuthorizationCall := by
  rcases identity with _ | identity
  · trivial
  simp only [authorize]
  split
  · trivial
  · exact refuse_calls

theorem authorize_passive : Passive (authorize identity action target) :=
  authorize_calls.mono fun _ => AuthorizationCall.passive

theorem gpuGateIn_passive {pools : List StoredPool} :
    Passive (gpuGateIn seed identity id spec pools) := by
  induction pools with
  | nil => trivial
  | cons pool pools ih =>
    refine invoke rfl ?_
    rintro (failure | allocations)
    · trivial
    simp only
    split
    · split
      · trivial
      · exact answerWith_passive.bind fun _ => trivial
    · exact ih

theorem gpuGate_passive : Passive (gpuGate seed identity id spec) := by
  refine invoke rfl ?_
  rintro (failure | pools)
  · trivial
  · exact gpuGateIn_passive

theorem budgetGate_passive : Passive (budgetGate identity id project budget) := by
  rcases budget with _ | budget
  · trivial
  refine invoke rfl ?_
  intro now
  have consumption : Passive (windowedConsumption project (now - budget.windowSecs) now) := by
    refine invoke rfl ?_
    intro answer
    cases answer <;> trivial
  refine consumption.bind ?_
  rintro (failure | consumed)
  · trivial
  simp only
  split
  · trivial
  · exact answerWith_passive.bind fun _ => trivial

theorem noteQueue_passive : Passive (noteQueue identity id project) := by
  refine queueAssignmentForProject_passive.bind ?_
  intro answer
  split
  · exact invoke rfl fun _ => emit_calls.mono fun _ => AuthorizationCall.passive
  · trivial

/-- The calls of a creation: what is not passive concerns its own id, specification and project. -/
inductive CreateCall (seed : PolicyConfig) (id : ClusterId) (spec : ClusterSpec) : Call → Prop
  | passive {call : Call} (passive : call.passive = true) : CreateCall seed id spec call
  | seedPolicy {policy : StoredPolicy} (boot : seedFromConfig seed = some policy) :
      CreateCall seed id spec (.control (.seedPolicy policy))
  | lock : CreateCall seed id spec (.process (.lockAdmit spec.project))
  | unlock : CreateCall seed id spec (.process (.unlockAdmit spec.project))
  | upsert : CreateCall seed id spec (.row (.upsertDesired id spec))

variable {α : Type} {program : Program α} {purge : Bool} {command : LifecycleCommand}

theorem Passive.creates (passive : Passive program) :
    program.Within (CreateCall seed id spec) :=
  passive.mono fun _ => .passive

theorem effectivePolicy_calls : (effectivePolicy seed).Within (CreateCall seed id spec) := by
  refine invoke (.passive rfl) ?_
  rintro (failure | _ | policy)
  · trivial
  · rcases boot : seedFromConfig seed with _ | policy
    · trivial
    refine invoke (.seedPolicy boot) ?_
    rintro (failure | _ | _)
    · trivial
    · exact within_invoke (.passive rfl)
    · trivial
  · trivial

theorem quotaGate_passive {limit : ResourceMap} : Passive (quotaGate identity id spec limit) := by
  unfold quotaGate
  split
  · trivial
  · refine invoke rfl ?_
    rintro (failure | rows)
    · trivial
    simp only
    split
    · trivial
    · split
      · trivial
      · exact answerWith_passive.bind fun _ => trivial

theorem storeCluster_calls : (storeCluster identity id spec).Within (CreateCall seed id spec) := by
  refine invoke .upsert ?_
  rintro (failure | generation)
  · trivial
  have rest : Passive (do
      let response ← answerWith identity .allow none "create_cluster" id
        ⟨201, createdBody id generation⟩
      noteQueue identity id spec.project
      return response) :=
    answerWith_passive.bind fun _ =>
      noteQueue_passive.bind fun _ => trivial
  exact rest.creates

theorem budgetThenStore_calls :
    (budgetThenStore identity id spec budget).Within (CreateCall seed id spec) := by
  refine budgetGate_passive.creates.bind ?_
  intro gate
  cases gate with
  | answer response => trivial
  | pass => exact storeCluster_calls

theorem admitAndStore_calls {policy : Option StoredPolicy} :
    (admitAndStore identity id spec policy).Within (CreateCall seed id spec) := by
  unfold admitAndStore
  split
  · exact budgetThenStore_calls
  · refine invoke .lock ?_
    intro _
    have underLock (limit : ResourceMap) (budget : Option Budget) :
        (quotaThenStore identity id spec limit budget).Within (CreateCall seed id spec) := by
      refine quotaGate_passive.creates.bind ?_
      intro gate
      cases gate with
      | answer response => trivial
      | pass => exact budgetThenStore_calls
    exact (underLock _ _).bind fun _ => invoke .unlock fun _ => trivial

theorem createCluster_calls {body : CreateCluster} : (createCluster seed identity body).Within
      (CreateCall seed body.id (body.ownedSpec identity)) := by
  refine authorizeScoped_passive.creates.bind ?_
  intro denial
  cases denial with
  | some response => trivial
  | none =>
    refine effectivePolicy_calls.bind ?_
    rintro (failure | policy)
    · trivial
    refine gpuGate_passive.creates.bind ?_
    intro gate
    cases gate with
    | answer response => trivial
    | pass => exact admitAndStore_calls

inductive DeleteCall (id : ClusterId) (purge : Bool) : Call → Prop
  | passive {call : Call} (passive : call.passive = true) : DeleteCall id purge call
  | terminate (plain : purge = false) : DeleteCall id purge (.row (.setDesired id .terminated))
  | remove (purging : purge = true) : DeleteCall id purge (.row (.removeCluster id))

theorem Passive.deletes (passive : Passive program) : program.Within (DeleteCall id purge) :=
  passive.mono fun _ => .passive

theorem deleteCluster_calls :
    (deleteCluster identity id purge).Within (DeleteCall id purge) := by
  refine invoke (.passive rfl) ?_
  rintro (failure | _ | stored)
  · trivial
  · trivial
  · refine authorizeScoped_passive.deletes.bind ?_
    intro denial
    cases denial with
    | some response => trivial
    | none =>
      cases purge with
      | false =>
        refine invoke (.terminate rfl) ?_
        intro answer
        cases answer with
        | ok done => exact answerWith_passive.deletes
        | error failure =>
          simp only
          split <;> trivial
      | true =>
        simp [purgeCluster]
        split
        · refine invoke (.remove rfl) ?_
          rintro (failure | _ | _)
          · trivial
          · trivial
          · exact answerWith_passive.deletes
        · trivial

inductive LifecycleCall (id : ClusterId) (command : LifecycleCommand) : Call → Prop
  | passive {call : Call} (passive : call.passive = true) : LifecycleCall id command call
  | flip : LifecycleCall id command (.row (.setDesired id command.desired))

theorem Passive.flips (passive : Passive program) : program.Within (LifecycleCall id command) :=
  passive.mono fun _ => .passive

theorem lifecycleCommand_calls :
    (lifecycleCommand identity id command).Within (LifecycleCall id command) := by
  refine authorize_passive.flips.bind ?_
  intro denial
  cases denial with
  | some response => trivial
  | none =>
    refine invoke (.passive rfl) ?_
    rintro (failure | _ | row)
    · trivial
    · trivial
    · refine queueAssignmentForProject_passive.flips.bind ?_
      rintro (failure | _ | queue)
      · trivial
      · simp only
        split
        · refine invoke .flip ?_
          rintro (failure | done)
          · trivial
          · exact answerWith_passive.flips
        · exact answerWith_passive.flips
      · exact answerWith_passive.flips

end Mobula
