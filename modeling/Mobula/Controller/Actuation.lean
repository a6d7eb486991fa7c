import Mobula.Controller.Alone
import Mobula.Controller.Reach
import Mobula.Foundation.Interference
import Mobula.Provision.Demo

/-!
# When a pass applies

A pass applies a specification on the grounds of its first observation. Other threads may do
anything between the two calls.
-/

namespace Mobula

open Foundation Prog List

variable {Provider : Type} {platform : Platform Provider} {thread : ℕ} {row : StoredCluster}
  {now : ℕ}

/-- The pass first observed the cluster, and the decision was made on what it saw. -/
def AppliedOn (row : StoredCluster) (queue : Option QueueAssignment)
    (past : EventLog) : Prop :=
  ∃ reported observed, past.head? = some ⟨.backend (.observe row.id), reported⟩ ∧
    observation reported = .ok observed ∧
    needsApply (observed.map (·.state)) (observedGenerationOf observed) row.generation
      queue.isSome = true

/-- An apply is of the row's generation and has grounds; other calls are free. -/
def groundedApply (row : StoredCluster) (past : EventLog) : Call → Prop
  | .backend (.apply _ _ generation _ queue) =>
    generation = row.generation ∧ AppliedOn row queue past
  | _ => True

variable {past events : EventLog} {call : Call} {observed : Option ObservedCluster}
  {reported : ProvisionResult ObservedCluster} {generation : ℕ}
  {interferes : World Provider → World Provider → Prop} {world final : World Provider}
  {result : ReconcileResult Action}

/-- Calls that neither apply a specification nor concern the outbox. -/
def Call.aside : Call → Bool
  | .backend (.apply _ _ _ _ _) => false
  | .outbox _ => false
  | _ => true

theorem aside_of_passive (passive : call.passive = true) : call.aside = true := by
  cases call with
  | backend call => cases passive
  | outbox call => cases passive
  | _ => rfl

theorem SettleCall.aside (made : SettleCall row call) : call.aside = true := by
  cases made <;> rfl

abbrev WellGrounded {α : Type} (row : StoredCluster) (past : EventLog)
    (program : Program α) : Prop :=
  program.Obeys (fun _ _ _ => True) (groundedApply row) (fun _ _ => True) past

/-! A pass obeys any discipline that only its actuation has to care about. -/

section Discipline

variable {allowed : EventLog → Call → Prop}
  (free : ∀ past call, call.aside = true → allowed past call)

include free

theorem obeys_of_aside {α : Type} {program : Program α} {permitted : Call → Prop}
    (within : program.Within permitted) (aside : ∀ call, permitted call → call.aside = true)
    (past : EventLog) : program.Obeys (fun _ _ _ => True) allowed
      (fun later _ => ∃ added, later = past ++ added ∧ ∀ event ∈ added, permitted event.op) past :=
  within.obeys fun _ call _ made => free _ call (aside call made)

theorem actuateRow_obeys (applies : ∀ queue past, AppliedOn row queue past →
      (applyThroughOutbox row queue).Obeys (fun _ _ _ => True) allowed (fun _ _ => True) past)
    (first : past.head? = some ⟨.backend (.observe row.id), reported⟩)
    (seen : observation reported = .ok observed) :
    (actuateRow row now observed).Obeys (fun _ _ _ => True) allowed (fun _ _ => True) past := by
  refine (obeys_of_aside free queueAssignmentForProject_passive
    (fun _ => aside_of_passive) past).bind ?_
  rintro _ assigned ⟨added, rfl, _⟩
  have stillFirst (more : EventLog) :
      (past ++ added ++ more).head? = some ⟨.backend (.observe row.id), reported⟩ := by
    simp [head?_append, first]
  rcases assigned with failure | queue
  · trivial
  have decides : (decideAction row now observed queue).Obeys (fun _ _ _ => True) allowed
      (fun _ _ => True) (past ++ added) := by
    unfold decideAction
    split
    · unfold decideRunning
      split
      · trivial
      · split
        · next needed =>
            refine Obeys.invoke (free _ _ rfl) ?_
            rintro (_ | _) _
            · trivial
            · exact applies queue _ ⟨reported, observed, stillFirst _, seen, needed⟩
        · trivial
    · unfold decideTerminated
      split
      · refine Obeys.invoke (free _ _ rfl) ?_
        intro answer _
        cases answer <;> trivial
      · trivial
    · unfold decideSuspended
      split
      · trivial
      · split
        · refine Obeys.invoke (free _ _ rfl) ?_
          intro answer _
          cases answer <;> trivial
        · trivial
  refine decides.bind ?_
  rintro later (failure | action | ⟨action, condition⟩) _
  · trivial
  · trivial
  · exact (obeys_of_aside free (settle_calls now action condition)
      (fun _ made => made.aside) later).mono fun _ _ _ => trivial

theorem reconcileOne_obeys (applies : ∀ queue past, AppliedOn row queue past →
      (applyThroughOutbox row queue).Obeys (fun _ _ _ => True) allowed (fun _ _ => True) past) :
    (reconcileOne row now).Obeys (fun _ _ _ => True) allowed (fun _ _ => True) [] := by
  unfold reconcileOne
  split
  · trivial
  · refine Obeys.invoke (free _ _ rfl) ?_
    intro reported _
    split
    · trivial
    · next observed seen =>
        refine Obeys.invoke (free _ _ rfl) ?_
        rintro (failure | _ | _) _
        · trivial
        · exact actuateRow_obeys free applies rfl seen
        · refine Obeys.invoke (free _ _ rfl) ?_
          intro recorded _
          cases recorded <;> trivial

end Discipline

theorem applyThroughOutbox_grounded {queue : Option QueueAssignment}
    (grounds : AppliedOn row queue past) :
    WellGrounded row past (applyThroughOutbox row queue) := by
  have kept (added : EventLog) : AppliedOn row queue (past ++ added) := by
    rcases grounds with ⟨reported, observed, first, seen, needed⟩
    exact ⟨reported, observed, by simp [head?_append, first], seen, needed⟩
  refine Obeys.invoke trivial ?_
  rintro (failure | _ | _) _
  · trivial
  · refine Obeys.invoke trivial ?_
    rintro (failure | done) _
    · trivial
    refine Obeys.invoke ⟨rfl, by simpa using kept _⟩ ?_
    rintro (failure | response) _
    · trivial
    refine Obeys.invoke trivial ?_
    intro completed _
    cases completed <;> trivial
  · trivial

theorem reconcileOne_grounded (row : StoredCluster) (now : ℕ) :
    WellGrounded row [] (reconcileOne row now) := by
  refine reconcileOne_obeys ?_ fun queue past => applyThroughOutbox_grounded
  intro past call aside
  unfold groundedApply
  split
  · cases aside
  · trivial

/-- The states in which a specification is applied without looking at the generation. -/
def appliedRegardless (observed : Option ClusterState) (queued : Bool) : Bool :=
  match observed with
  | some .terminated => true
  | some .terminating => true
  | some .suspended => !queued
  | _ => false

theorem behind_of_needsApply {queued : Bool}
    (needed : needsApply (observed.map (·.state)) (observedGenerationOf observed) generation
      queued = true) (consulted : appliedRegardless (observed.map (·.state)) queued = false) :
    observedGenerationOf observed ≤ generation := by
  rcases observed with _ | cluster
  · exact Nat.zero_le generation
  rcases cluster with ⟨id, state, observedGeneration, fingerprint, url⟩
  cases state <;> simp_all [needsApply, appliedRegardless, Nat.le_of_lt]

/--
A pass applies no generation older than the one it observed, exactly when the
cluster is not ahead of its row in a state in which the generation is ignored.
-/
theorem no_rollback_iff {interferes : World Provider → World Provider → Prop}
    {world final : World Provider} {events : EventLog}
    {result : ReconcileResult Action}
    (ran : (reconcileOne row now).Amid (exec platform thread) interferes world events result final)
    {reported : ProvisionResult ObservedCluster} {observed : Option ObservedCluster}
    (first : events.head? = some ⟨.backend (.observe row.id), reported⟩)
    (seen : observation reported = .ok observed)
    {id : ClusterId} {spec : ClusterSpec} {generation : ℕ} {key : String}
    {queue : Option QueueAssignment} {answer : ProvisionResult ApplyResponse}
    (applied :
      ⟨.backend (.apply id spec generation key queue), answer⟩ ∈ events) :
    observedGenerationOf observed ≤ generation ↔
      (appliedRegardless (observed.map (·.state)) queue.isSome = true →
        observedGenerationOf observed ≤ row.generation) := by
  rcases append_of_mem applied with ⟨earlier, later, split⟩
  have grounds := (reconcileOne_grounded row now).amid ran (fun _ _ _ _ _ _ _ _ => trivial) split
  rcases grounds with ⟨rfl, told, decided, head, decidedOn, needed⟩
  have same : observed = decided := by
    rw [split, head?_append, ← nil_append earlier, head, Option.some_or, Option.some.injEq] at first
    cases first
    simp [seen] at decidedOn
    exact decidedOn
  subst same
  constructor
  · intro notAhead _
    exact notAhead
  · intro condition
    rcases ignored : appliedRegardless (observed.map (·.state)) queue.isSome with _ | _
    · exact behind_of_needsApply needed ignored
    · exact condition ignored

def appliesGeneration (generation : ℕ) : Event Call.Res → Bool
  | ⟨.backend (.apply _ _ applied _ none), _⟩ => applied = generation
  | _ => false

theorem mem_of_appliesGeneration (applied : events.any (appliesGeneration generation) = true) :
    ∃ id spec key answer,
      ⟨.backend (.apply id spec generation key none), answer⟩ ∈ events := by
  rcases any_eq_true.mp applied with ⟨⟨call, answer⟩, eventMem, applies⟩
  cases call with
  | backend call =>
    cases call with
    | apply id spec applied key queue =>
      cases queue with
      | none =>
        simp [appliesGeneration] at applies
        exact ⟨id, spec, key, answer, applies ▸ eventMem⟩
      | some queue => cases applies
    | _ => cases applies
  | _ => cases applies

theorem observes_first (due : ¬(row.desired = .running ∧ now < row.nextAttemptAt))
    (ran : (reconcileOne row now).Amid (exec platform thread) interferes world events result
      final) :
    ∃ seen, interferes world seen ∧ events.head? =
      some ⟨.backend (.observe row.id), platform.observe row.id seen.provider⟩ := by
  rw [reconcileOne, if_neg due] at ran
  rcases ran.of_invoke with ⟨seen, answer, _, later, moved, answered, rfl, _⟩
  simp [exec_observe] at answered
  exact ⟨seen, moved, by rw [answered.1]; rfl⟩

def backedWorld (row : StoredCluster) (cluster : DemoCluster) : World DemoClusters :=
  { demoWorld (storeOf row) with provider := Table.empty.insert cluster }

theorem observation_backedWorld (row : StoredCluster) (cluster : DemoCluster) :
    observation (demoPlatform.observe cluster.id (backedWorld row cluster).provider) =
      .ok (some ⟨cluster.id, cluster.state, some cluster.generation, some cluster.fingerprint,
        some (DemoProvisioner.baseUrl cluster.id)⟩) := by
  have found : (backedWorld row cluster).provider.find? cluster.id = some cluster := by
    simp [backedWorld, Table.find?_insert]
  simp only [demoPlatform, DemoProvisioner.platform, DemoProvisioner.observe, found, observation]

def updatedRow : StoredCluster :=
  { postedHead with generation := 2 }

/-- A running cluster at the first generation takes the second one. -/
theorem no_rollback_for_updated_row :
    ∃ events result final reported observed id spec key answer,
      (reconcileOne updatedRow 0).Amid (exec demoPlatform 0) Eq
        (backedWorld updatedRow ⟨"c1", .running, 1, ""⟩) events result final ∧
      events.head? = some ⟨.backend (.observe updatedRow.id), reported⟩ ∧
      observation reported = .ok observed ∧
      ⟨.backend (.apply id spec 2 key none), answer⟩ ∈ events ∧
      observedGenerationOf observed ≤ 2 := by
  have outcome : ((reconcileOne updatedRow 0).eval (exec demoPlatform 0)
      (backedWorld updatedRow ⟨"c1", .running, 1, ""⟩)).map
        (fun passed => passed.events.any (appliesGeneration 2)) = some true := by
    decide +kernel
  rcases Option.map_eq_some_iff.mp outcome with ⟨passed, evaluated, applies⟩
  have ran := amid_of_eval (fun _ => Eq.refl _) evaluated
  rcases observes_first (by decide) ran with ⟨_, rfl, first⟩
  rcases mem_of_appliesGeneration applies with ⟨id, spec, key, answer, applied⟩
  have seen := observation_backedWorld updatedRow ⟨"c1", .running, 1, ""⟩
  exact ⟨passed.events, _, _, _, _, id, spec, key, answer, ran, first, seen, applied,
    (no_rollback_iff ran first seen applied).mpr (by decide)⟩

/-- A suspended cluster at the second generation is sent back to the first one. -/
theorem suspended_cluster_rolls_back :
    ∃ events result final reported observed id spec key answer,
      (reconcileOne postedHead 0).Amid (exec demoPlatform 0) Eq
        (backedWorld postedHead ⟨"c1", .suspended, 2, ""⟩)
        events result final ∧
      events.head? = some ⟨.backend (.observe postedHead.id), reported⟩ ∧
      observation reported = .ok observed ∧
      ⟨.backend (.apply id spec 1 key none), answer⟩ ∈ events ∧
      ¬observedGenerationOf observed ≤ 1 := by
  have outcome : ((reconcileOne postedHead 0).eval (exec demoPlatform 0)
      (backedWorld postedHead ⟨"c1", .suspended, 2, ""⟩)).map
        (fun passed => passed.events.any (appliesGeneration 1)) = some true := by
    decide +kernel
  rcases Option.map_eq_some_iff.mp outcome with ⟨passed, evaluated, applies⟩
  have ran := amid_of_eval (fun _ => Eq.refl _) evaluated
  rcases observes_first (by decide) ran with ⟨_, rfl, first⟩
  rcases mem_of_appliesGeneration applies with ⟨id, spec, key, answer, applied⟩
  have seen := observation_backedWorld postedHead ⟨"c1", .suspended, 2, ""⟩
  exact ⟨passed.events, _, _, _, _, id, spec, key, answer, ran, first, seen, applied, by decide⟩

/-- Nothing stands in the way of applying the row. -/
structure Unhindered (row : StoredCluster) (world : World Provider) : Prop where
  unquarantined : world.store.quarantined = false
  unallocated : ∀ allocation ∈ world.store.allocations.rows,
    allocation.project ≠ row.spec.project
  agrees : Agrees row world

theorem queueAssignmentForProject_unqueued {project : String}
    (unallocated : ∀ before seen, interferes before seen →
      ∀ allocation ∈ seen.store.allocations.rows, allocation.project ≠ project)
    {assigned : StoreResult (Option QueueAssignment)}
    (ran : (queueAssignmentForProject project).Amid (exec platform thread) interferes world events
      assigned final) : assigned = .ok none := by
  have inPools (pools : List StoredPool) {world final : World Provider}
      {events : EventLog}
      (ran : (queueAssignmentIn project pools).Amid (exec platform thread) interferes world events
        assigned final) : assigned = .ok none := by
    induction pools generalizing world events with
    | nil =>
      cases ran
      rfl
    | cons pool pools ih =>
      rcases ran.of_invoke with ⟨seen, _, _, _, moved, answered, _, rest⟩
      cases answered
      have nothing : (seen.store.allocationsOf pool.name).find? (·.project = project) = none := by
        rw [find?_eq_none]
        intro allocation allocationMem
        simpa using unallocated _ _ moved allocation (mem_filter.mp allocationMem).1
      simp only [nothing] at rest
      exact ih rest
  rcases ran.of_invoke with ⟨seen, _, _, _, _, answered, _, rest⟩
  cases answered
  exact inPools _ rest

theorem needsApply_of_behind
    (behind : observed = none ∨ observedGenerationOf observed < generation) :
    needsApply (observed.map (·.state)) (observedGenerationOf observed) generation false =
      true := by
  rcases observed with _ | cluster
  · rfl
  have lower : observedGenerationOf (some cluster) < generation := by
    rcases behind with absent | lower
    · cases absent
    · exact lower
  rcases cluster with ⟨id, state, observedGeneration, fingerprint, url⟩
  cases state <;> simp [needsApply, lower]

/-- An actuation is made, unless the posture of the namespace cannot be ensured. -/
theorem applyThroughOutbox_path {decision : ReconcileResult Decision}
    (ran : (applyThroughOutbox row none).Amid (exec platform thread)
      (fun _ seen => Unhindered row seen) world events decision final) :
    ∃ begun posture later, events = begun :: ⟨.backend .ensureNamespacePosture, posture⟩ :: later ∧
      begun.op.mutates = false ∧
      match posture with
      | .error _ => later = []
      | .ok () => ∃ answer completed, later =
          ⟨.backend (.apply row.id row.spec row.generation row.intentKey none), answer⟩ ::
            completed ∧ ∀ event ∈ completed, event.op.mutates = false := by
  rcases ran.of_invoke with ⟨seen, begun, _, _, free, answered, rfl, ensuring⟩
  rcases beginIntent_proceeds free.agrees seen.now with ⟨replay, proceeds⟩
  simp [exec, execOutbox, proceeds] at answered
  rcases answered with ⟨rfl, _⟩
  rcases ensuring.of_invoke with ⟨_, posture, _, later, _, _, rfl, applying⟩
  refine ⟨_, posture, later, rfl, rfl, ?_⟩
  cases posture with
  | error failure =>
    cases applying
    rfl
  | ok done =>
    rcases applying.of_invoke with ⟨_, answer, _, completed, _, _, rfl, completing⟩
    refine ⟨answer, completed, rfl, ?_⟩
    cases answer with
    | error failure =>
      cases completing
      simp
    | ok response =>
      rcases completing.of_invoke with ⟨_, outcome, _, nothing, _, _, rfl, finished⟩
      have ended : nothing = [] := by
        cases outcome <;>
        · cases finished
          rfl
      simp [ended, Call.mutates]

/-- The acting calls of an unhindered pass are those of its decision. -/
theorem acts_in_decision (ran : (reconcileOne row now).Amid (exec platform thread)
      (fun _ seen => Unhindered row seen) world events result final)
    (due : ¬(row.desired = .running ∧ now < row.nextAttemptAt))
    (first : events.head? = some ⟨.backend (.observe row.id), reported⟩)
    (seen : observation reported = .ok observed) : ∃ before decisive decision after,
      (decideAction row now observed none).Amid (exec platform thread)
        (fun _ seen => Unhindered row seen) before decisive decision after ∧
      decisive ⊆ events ∧ ∀ event ∈ events, event.op.mutates = true → event ∈ decisive := by
  rw [reconcileOne, if_neg due] at ran
  rcases ran.of_invoke with ⟨_, told, _, checked, _, _, rfl, checking⟩
  simp [Event.mk.injEq, heq_eq_eq] at first
  subst first
  simp only [seen] at checking
  rcases checking.of_invoke with ⟨free, flag, _, actuated, unhindered, answered, rfl, actuating⟩
  simp [exec_isQuarantined, unhindered.unquarantined] at answered
  rcases answered with ⟨rfl, _⟩
  rcases actuating.of_bind with ⟨lookup, assigned, _, decided, rfl, looking, deciding⟩
  have unqueued := queueAssignmentForProject_unqueued (fun _ _ free => free.unallocated) looking
  subst unqueued
  rcases deciding.of_bind with ⟨decisive, decision, _, settled, rfl, choosing, settling⟩
  have lookupQuiet (event : Event Call.Res) (eventMem : event ∈ lookup) :
      event.op.mutates = false :=
    mutates_of_passive (queueAssignmentForProject_passive.amid looking event eventMem)
  have settledQuiet (event : Event Call.Res) (eventMem : event ∈ settled) :
      event.op.mutates = false := by
    rcases decision with failure | action | ⟨action, condition⟩
    · cases settling
      cases eventMem
    · cases settling
      cases eventMem
    · exact ((settle_calls now action condition).amid settling event eventMem).harmless
  refine ⟨_, decisive, decision, _, choosing, fun event eventMem => by simp [eventMem], ?_⟩
  intro event eventMem acts
  simp at eventMem
  rcases eventMem with rfl | rfl | looked | decided | recorded
  · cases acts
  · cases acts
  · rw [lookupQuiet event looked] at acts
    cases acts
  · exact decided
  · rw [settledQuiet event recorded] at acts
    cases acts

/--
With nothing else in the way, a pass applies the row to a cluster that is absent
or behind exactly when the cluster is not degraded and the posture of its
namespace can be ensured.
-/
theorem update_delivered_iff {world final : World Provider} {events : EventLog}
    {result : ReconcileResult Action}
    (ran : (reconcileOne row now).Amid (exec platform thread)
      (fun _ seen => Unhindered row seen) world events result final)
    (wanted : row.desired = .running) (due : row.nextAttemptAt ≤ now)
    {reported : ProvisionResult ObservedCluster} {observed : Option ObservedCluster}
    (first : events.head? = some ⟨.backend (.observe row.id), reported⟩)
    (seen : observation reported = .ok observed)
    (behind : observed = none ∨ observedGenerationOf observed < row.generation)
    (token : ⟨.process (.takeToken now), false⟩ ∉ events) :
    (∃ answer, (⟨.backend (.apply row.id row.spec row.generation row.intentKey none), answer⟩ :
        Event Call.Res) ∈ events) ↔
      observed.map (·.state) ≠ some .degraded ∧
        ∀ failure,
          ⟨.backend .ensureNamespacePosture, .error failure⟩ ∉ events := by
  rcases acts_in_decision ran (by omega) first seen with
    ⟨_, decisive, _, _, choosing, decides, inDecision⟩
  have decisiveIff (event : Event Call.Res) (acting : event.op.mutates = true) :
      event ∈ events ↔ event ∈ decisive :=
    ⟨fun eventMem => inDecision event eventMem acting, fun eventMem => decides eventMem⟩
  simp only [decisiveIff ⟨.backend (.apply _ _ _ _ _), _⟩ rfl,
    decisiveIff ⟨.backend .ensureNamespacePosture, _⟩ rfl]
  simp only [decideAction, wanted, decideRunning] at choosing
  by_cases degraded : observed.map (·.state) = some .degraded
  · rw [if_pos degraded] at choosing
    cases choosing
    simp [degraded]
  · have needed := needsApply_of_behind behind
    rw [if_neg degraded, Option.isSome_none, if_pos needed] at choosing
    rcases choosing.of_invoke with ⟨_, granted, _, acted, _, _, rfl, applying⟩
    have given : granted = true := by
      rw [← Bool.not_eq_false]
      rintro rfl
      exact token (decides mem_cons_self)
    subst given
    rcases applyThroughOutbox_path applying with ⟨begun, posture, later, rfl, beganQuiet, path⟩
    have begunOther (call : Call) {answer : call.Res} (acts : call.mutates = true) :
        (⟨call, answer⟩ : Event Call.Res) ≠ begun := by
      rintro rfl
      rw [beganQuiet] at acts
      cases acts
    cases posture with
    | error failure =>
      subst path
      constructor
      · rintro ⟨answer, applied⟩
        simp [begunOther (.backend (.apply _ _ _ _ _)) rfl] at applied
      · rintro ⟨_, ensured⟩
        exact absurd (by simp) (ensured failure)
    | ok done =>
      rcases path with ⟨answer, completed, rfl, completedQuiet⟩
      refine ⟨fun _ => ⟨degraded, ?_⟩, fun _ => ⟨answer, by simp⟩⟩
      intro failure refused
      simp [Event.mk.injEq, begunOther (.backend .ensureNamespacePosture) rfl, heq_eq_eq,
        Call.backend.injEq] at refused
      exact absurd (completedQuiet _ refused) (by simp [Call.mutates])

theorem Unhindered.exec {answer : call.Res} {before after : World Provider}
    (free : Unhindered row before) (made : ReconcileCall row call)
    (answered : exec platform thread call before = some (answer, after)) :
    Unhindered row after where
  unquarantined := (quarantined_exec answered made.keepsCatalog).trans free.unquarantined
  unallocated := by
    rw [allocations_exec answered made.keepsCatalog]
    exact free.unallocated
  agrees := by
    refine free.agrees.exec answered ?_
    rintro fingerprint rfl
    cases made with
    | passive passive => cases passive
    | beginIntent wanted => rfl

theorem amid_of_unhindered {outcome : Outcome Call.Res (World Provider) (ReconcileResult Action)}
    (free : Unhindered row world)
    (ran : (reconcileOne row now).eval (exec platform thread) world = some outcome) :
    (reconcileOne row now).Amid (exec platform thread) (fun _ seen => Unhindered row seen) world
      outcome.events outcome.value outcome.state := by
  refine (Amid.mono (reconcileOne_calls row now) (Unhindered row) ?_ ?_ free
    (amid_of_eval (fun _ => Eq.refl _) ran)).1
  · rintro before _ free rfl
    exact ⟨free, free⟩
  · intro call before answer after made answered free
    exact free.exec made answered

def refuses : Event Call.Res → Bool
  | ⟨.process (.takeToken _), granted⟩ => !granted
  | ⟨.backend .ensureNamespacePosture, .error _⟩ => true
  | _ => false

theorem unhindered_backedWorld {cluster : DemoCluster} :
    Unhindered updatedRow (backedWorld updatedRow cluster) where
  unquarantined := rfl
  unallocated := by simp [backedWorld, demoWorld, storeOf, Store.empty, Table.empty]
  agrees := by
    intro recorded held
    cases held

/-- A running cluster at the first generation is given the second one. -/
theorem update_delivered_to_running_cluster :
    ∃ events result final answer,
      (reconcileOne updatedRow 0).Amid (exec demoPlatform 0)
        (fun _ seen => Unhindered updatedRow seen)
        (backedWorld updatedRow ⟨"c1", .running, 1, ""⟩) events result final ∧
      ⟨.backend (.apply updatedRow.id updatedRow.spec updatedRow.generation updatedRow.intentKey
        none), answer⟩ ∈ events := by
  have outcome : ∃ passed, (reconcileOne updatedRow 0).eval (exec demoPlatform 0)
      (backedWorld updatedRow ⟨"c1", .running, 1, ""⟩) = some passed ∧
        ∀ event ∈ passed.events, refuses event = false :=
    Fallible.exists_of_checked (by decide +kernel)
  rcases outcome with ⟨passed, evaluated, granted⟩
  have ran := amid_of_unhindered unhindered_backedWorld evaluated
  have refused (event : Event Call.Res) (refusal : refuses event = true) :
      event ∉ passed.events := by
    intro eventMem
    simp [granted event eventMem] at refusal
  rcases observes_first (by decide) (amid_of_eval (fun _ => Eq.refl _) evaluated) with
    ⟨_, rfl, first⟩
  have seen := observation_backedWorld updatedRow ⟨"c1", .running, 1, ""⟩
  rcases (update_delivered_iff ran rfl (by decide) first seen (.inr (by decide))
    (refused _ rfl)).mpr ⟨by decide, fun failure => refused _ rfl⟩ with ⟨answer, applied⟩
  exact ⟨passed.events, _, _, answer, ran, applied⟩

/-- A degraded cluster at the first generation is never given the second one. -/
theorem degraded_cluster_not_updated :
    ∃ events result final reported observed,
      (reconcileOne updatedRow 0).Amid (exec demoPlatform 0)
        (fun _ seen => Unhindered updatedRow seen)
        (backedWorld updatedRow ⟨"c1", .degraded, 1, ""⟩) events result final ∧
      updatedRow.desired = .running ∧ updatedRow.nextAttemptAt ≤ 0 ∧
      events.head? = some ⟨.backend (.observe updatedRow.id), reported⟩ ∧
      observation reported = .ok observed ∧
      observedGenerationOf observed < updatedRow.generation ∧
      (∀ event ∈ events, refuses event = false) ∧
      ∀ answer, ⟨.backend (.apply updatedRow.id updatedRow.spec updatedRow.generation
        updatedRow.intentKey none), answer⟩ ∉ events := by
  have outcome : ∃ passed, (reconcileOne updatedRow 0).eval (exec demoPlatform 0)
      (backedWorld updatedRow ⟨"c1", .degraded, 1, ""⟩) = some passed ∧
        (∀ event ∈ passed.events, refuses event = false) ∧
        ∀ event ∈ passed.events, appliesGeneration 2 event = false :=
    Fallible.exists_of_checked (by decide +kernel)
  rcases outcome with ⟨passed, evaluated, granted, idle⟩
  have ran := amid_of_unhindered unhindered_backedWorld evaluated
  rcases observes_first (by decide) (amid_of_eval (fun _ => Eq.refl _) evaluated) with
    ⟨_, rfl, first⟩
  have seen := observation_backedWorld updatedRow ⟨"c1", .degraded, 1, ""⟩
  refine ⟨passed.events, _, _, _, _, ran, rfl, by decide, first, seen, by decide, granted, ?_⟩
  intro answer applied
  exact absurd (idle _ applied) (by simp [appliesGeneration, updatedRow])

end Mobula
