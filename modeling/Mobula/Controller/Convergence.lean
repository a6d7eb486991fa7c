import Mobula.Controller.Alone
import Mobula.ControlPlane

/-!
# Convergence and idempotence

With a provisioner that does what it is asked to, one pass over a row brings the
backing cluster to what the row desires and records it. From then on passes over
the row only observe and record.
-/

namespace Mobula

open Foundation Prog ClusterTable Option DemoProvisioner

variable {Provider : Type} {platform : Platform Provider} {thread : ℕ}
  {world world' : World Provider} {row : StoredCluster} {now : ℕ}
  {earlier observed : Option ObservedCluster} {queue : Option QueueAssignment}

/-- Asked about the cluster, the provider answers this. -/
def Platform.Shows (platform : Platform Provider) (id : ClusterId) (provider : Provider)
    (observed : Option ObservedCluster) : Prop :=
  observation (platform.observe id provider) = .ok observed

/-- A provisioner without failures that does what it is asked to. -/
structure Obliging (platform : Platform Provider) : Prop where
  posture : ∀ provider, ∃ provider',
    platform.ensureNamespacePosture provider = (.ok (), provider')
  apply : ∀ id spec generation key queue provider, ∃ response provider' cluster,
    platform.apply id spec generation key queue provider = (.ok response, provider') ∧
      platform.Shows id provider' (some cluster) ∧ cluster.state = .running ∧
      cluster.observedGeneration = some generation ∧
      cluster.specFingerprint = some (ownedSpecFingerprint spec)
  terminate : ∀ id provider, ∃ provider',
    platform.terminate id provider = (.ok (), provider') ∧ platform.Shows id provider' none
  suspend : ∀ id provider running, platform.Shows id provider (some running) →
    running.state = .running → ∃ provider' cluster,
      platform.suspend id provider = (.ok (), provider') ∧
        platform.Shows id provider' (some cluster) ∧ cluster.state = .suspended

/-- Absent, or live at most at the row's generation and undrifted at it. -/
def Tractable (row : StoredCluster) (observed : Option ObservedCluster) : Prop :=
  ∀ cluster, observed = some cluster →
    (cluster.state = .running ∨ cluster.state = .suspended) ∧
      observedGenerationOf observed ≤ row.generation ∧
      (observedGenerationOf observed = row.generation →
        cluster.specFingerprint = some (ownedSpecFingerprint row.spec))

/-- The desired state is observed. A cluster that was there earlier is suspended, not gone. -/
def Realized (desired : DesiredState) (generation : ℕ)
    (earlier observed : Option ObservedCluster) : Prop :=
  match desired with
  | .running =>
    observed.map (·.state) = some .running ∧ observedGenerationOf observed = generation
  | .terminated => observed = none
  | .suspended => observed.map (·.state) = earlier.map fun _ => .suspended

theorem driftCheck_settles (row : StoredCluster) (observed : Option ObservedCluster) :
    ∃ action condition, driftCheck row observed = .settle action condition := by
  unfold driftCheck
  split
  · split <;> exact ⟨_, _, rfl⟩
  · exact ⟨_, _, rfl⟩

theorem decideAction_rests (realized : Realized row.desired row.generation earlier observed)
    (now : ℕ) (queue : Option QueueAssignment) : ∃ action condition,
      decideAction row now observed queue = .ret (.ok (.settle action condition)) := by
  unfold decideAction
  split
  · next wanted =>
      rw [wanted] at realized
      have settled : needsApply (observed.map (·.state)) (observedGenerationOf observed)
          row.generation queue.isSome = false := by
        simp [needsApply, realized.1, realized.2]
      rcases driftCheck_settles row observed with ⟨action, condition, checked⟩
      refine ⟨action, condition, ?_⟩
      have healthy : observed.map (·.state) ≠ some .degraded := by simp [realized.1]
      rw [decideRunning, if_neg healthy, if_neg (by simp [settled]), checked]
      rfl
  · next wanted =>
      rw [wanted] at realized
      have absent : observed = none := realized
      exact ⟨.noOp, none, by simp [decideTerminated, absent]⟩
  · next wanted =>
      rw [wanted] at realized
      have nothing : observed.any (!suspendDone ·.state) = false := by
        rcases observed with _ | cluster
        · rfl
        · rcases map_eq_some_iff.mp (Eq.symm realized) with ⟨_, _, state⟩
          simp [← state, suspendDone]
      by_cases queued : queue.isSome = true
      · exact ⟨.noOp, none, by simp [decideSuspended, queued]⟩
      · exact ⟨.noOp, none, by simp [decideSuspended, queued, nothing]⟩

/-- The decision is to settle, and by then the provider shows what is desired. -/
def Realizes (platform : Platform Provider) (thread : ℕ) (row : StoredCluster)
    (observed : Option ObservedCluster) (world : World Provider) (desired : DesiredState)
    (program : Program (ReconcileResult Decision)) : Prop :=
  ∃ action condition world' final,
    Runs platform thread program world (.ok (.settle action condition)) world' ∧
    world'.store.clusters = world.store.clusters ∧ platform.Shows row.id world'.provider final ∧
    Realized desired row.generation observed final

section

variable (obliging : Obliging platform) (shown : platform.Shows row.id world.provider observed)
  (tractable : Tractable row observed)

include obliging shown tractable

theorem decideRunning_realizes (agrees : Agrees row world)
    (granted : world.grantsToken now = true) :
    Realizes platform thread row observed world .running (decideRunning row now observed none) := by
  have healthy : observed.map (·.state) ≠ some .degraded := by
    rcases observed with _ | cluster
    · simp
    · rcases (tractable cluster rfl).1 with state | state <;> simp [state]
  rw [decideRunning, if_neg healthy]
  by_cases behind : needsApply (observed.map (·.state)) (observedGenerationOf observed)
      row.generation (none : Option QueueAssignment).isSome = true
  · rcases takeToken_runs platform thread granted with ⟨held, taken, storeEq, providerEq⟩
    rcases obliging.posture held.provider with ⟨posed, posture⟩
    rcases obliging.apply row.id row.spec row.generation row.intentKey none posed with
      ⟨response, applied, cluster, apply, reports, state, generation, _⟩
    have agreesHeld : Agrees row held := by
      intro recorded stored
      rw [storeEq] at stored
      exact agrees recorded stored
    rcases applyThroughOutbox_runs platform thread agreesHeld posture apply with
      ⟨final, ran, clustersEq, finalProvider⟩
    refine ⟨.applied, none, final, some cluster, ?_, ?_, ?_, ?_, ?_⟩
    · rw [if_pos behind]
      exact taken.bind ran
    · rw [clustersEq, storeEq]
    · rw [finalProvider]
      exact reports
    · simp [state]
    · simp [observedGenerationOf, generation]
  · rcases driftCheck_settles row observed with ⟨action, condition, checked⟩
    refine ⟨action, condition, world, observed, ?_, rfl, shown, ?_⟩
    · rw [if_neg behind, checked]
      exact .ret
    · rcases observed with _ | cluster
      · simp [needsApply] at behind
      rcases tractable cluster rfl with ⟨state | state, atMost, _⟩
      · simp [needsApply, state, not_lt] at behind
        exact ⟨by simp [state], le_antisymm atMost behind⟩
      · simp [needsApply, state] at behind

theorem decideTerminated_realizes :
    Realizes platform thread row observed world .terminated (decideTerminated row observed) := by
  rcases observed with _ | cluster
  · exact ⟨.noOp, none, world, none, .ret, rfl, shown, rfl⟩
  have live : (some cluster : Option ObservedCluster).any (·.state ≠ .terminated) = true := by
    rcases (tractable cluster rfl).1 with state | state <;> simp [state]
  rcases obliging.terminate row.id world.provider with ⟨provider, terminated, gone⟩
  have answered : exec platform thread (.backend (.terminate row.id)) world =
      some (.ok (), { world with provider := provider }) := by
    simp only [exec, execBackend, terminated]
  refine ⟨.terminated, none, { world with provider := provider }, none, ?_, rfl, gone, rfl⟩
  rw [decideTerminated, if_pos live]
  exact Yields.invoke answered .ret

theorem decideSuspended_realizes : Realizes platform thread row observed world .suspended
    (decideSuspended row observed none) := by
  rcases observed with _ | cluster
  · exact ⟨.noOp, none, world, none, .ret, rfl, shown, rfl⟩
  rcases (tractable cluster rfl).1 with running | suspended
  · rcases obliging.suspend row.id world.provider cluster shown running with
      ⟨provider, final, suspended, reports, state⟩
    have answered : exec platform thread (.backend (.suspend row.id)) world =
        some (.ok (), { world with provider := provider }) := by
      simp only [exec, execBackend, suspended]
    refine ⟨.suspended, none, { world with provider := provider }, some final, ?_, rfl, reports,
      congrArg some state⟩
    simp [decideSuspended, running, suspendDone]
    exact Yields.invoke answered .ret
  · refine ⟨.noOp, none, world, some cluster, ?_, rfl, shown, congrArg some suspended⟩
    simp [decideSuspended, suspended, suspendDone]
    exact .ret

theorem decideAction_realizes (thread : ℕ) (agrees : Agrees row world)
    (granted : world.grantsToken now = true) : Realizes platform thread row observed world
      row.desired (decideAction row now observed none) := by
  unfold decideAction
  cases row.desired with
  | running => exact decideRunning_realizes obliging shown tractable agrees granted
  | terminated => exact decideTerminated_realizes obliging shown tractable
  | suspended => exact decideSuspended_realizes obliging shown tractable

end

def World.goalOf (world : World Provider) (id : ClusterId) :
    Option (ClusterSpec × ℕ × DesiredState) :=
  (world.store.clusters.find? id).map fun row => (row.spec, row.generation, row.desired)

def World.recordOf (world : World Provider) (id : ClusterId) : Option (Option ClusterState × ℕ) :=
  (world.store.clusters.find? id).map fun row => (row.observedState, row.observedGeneration)

def World.conditionOf (world : World Provider) (id : ClusterId) :
    Option (Option DriftCondition) :=
  (world.store.clusters.find? id).map (·.condition)

theorem goalOf_exec {call : Call} {answer : call.Res} (made : ReconcileCall row call)
    (answered : exec platform thread call world = some (answer, world')) (id : ClusterId) :
    world'.goalOf id = world.goalOf id := by
  have lookup := find?_exec answered id
  unfold World.goalOf
  rw [lookup]
  cases made with
  | passive passive =>
    cases call with
    | row call =>
      cases call with
      | get wanted => rfl
      | list => rfl
      | _ => cases passive
    | _ => rfl
  | recordObservation observed generation =>
    simp only
    split
    · simp [RowCall.effect, withObservation, Function.comp_def]
    · rfl
  | setCondition condition =>
    simp only
    split
    · simp [RowCall.effect, Function.comp_def]
    · rfl
  | recordAttempt failureCount nextAttemptAt =>
    simp only
    split
    · simp [RowCall.effect, Function.comp_def]
    · rfl
  | _ => rfl

theorem storeCondition_runs (row : StoredCluster) (condition : Option DriftCondition)
    (world : World Provider) :
    ∃ world', Runs platform thread (storeCondition row condition) world (.ok ()) world' ∧
      world'.provider = world.provider ∧ world'.recordOf row.id = world.recordOf row.id ∧
      (world.conditionOf row.id = some row.condition →
        world'.conditionOf row.id = some condition) := by
  unfold storeCondition
  split
  · have answered : exec platform thread (.row (.setCondition row.id condition)) world =
      some (.ok (), (world.afterReading false).setClusters
        (setCondition world.store.clusters row.id condition)) := rfl
    refine ⟨_, yields_invoke answered, rfl, ?_, ?_⟩
    · simp only [World.recordOf, World.setClusters_clusters, find?_setCondition,
        if_pos, map_map, Function.comp_def]
    · intro recorded
      rcases map_eq_some_iff.mp recorded with ⟨stored, found, _⟩
      simp [World.conditionOf, World.setClusters_clusters, find?_setCondition, found]
  · next same =>
      rw [ne_eq, not_not] at same
      exact ⟨world, .ret, rfl, rfl, fun recorded => same ▸ recorded⟩

theorem recordAttempt_runs {id : ClusterId} {failureCount nextAttemptAt : ℕ} :
    ∃ world', Runs platform thread (Calls.recordAttempt id failureCount nextAttemptAt) world
        (.ok ()) world' ∧
      world'.provider = world.provider ∧ world'.recordOf id = world.recordOf id ∧
      world'.conditionOf id = world.conditionOf id := by
  have answered : exec platform thread (.row (.recordAttempt id failureCount nextAttemptAt)) world =
    some (.ok (), (world.afterReading false).setClusters
      (recordAttempt world.store.clusters id failureCount nextAttemptAt)) := rfl
  refine ⟨_, yields_invoke answered, rfl, ?_, ?_⟩
  · simp only [World.recordOf, World.setClusters_clusters, find?_recordAttempt, if_pos,
      map_map, Function.comp_def]
  · simp only [World.conditionOf, World.setClusters_clusters, find?_recordAttempt,
      if_pos, map_map, Function.comp_def]

theorem accountBackoff_runs (row : StoredCluster) (now : ℕ) (action : Action)
    (final : Option ClusterState) (world : World Provider) :
    ∃ world', Runs platform thread (accountBackoff row now action final) world (.ok ()) world' ∧
      world'.provider = world.provider ∧ world'.recordOf row.id = world.recordOf row.id ∧
      world'.conditionOf row.id = world.conditionOf row.id := by
  unfold accountBackoff
  split
  · exact recordAttempt_runs
  · split
    · exact recordAttempt_runs
    · exact ⟨world, .ret, rfl, rfl, rfl⟩
  · exact ⟨world, .ret, rfl, rfl, rfl⟩

theorem settle_runs {stored : StoredCluster} {final : Option ObservedCluster}
    (found : world.store.clusters.find? row.id = some stored)
    (shown : platform.Shows row.id world.provider final) (now : ℕ) (action : Action)
    (condition : Option DriftCondition) :
    ∃ world', Runs platform thread (settle row now action condition) world (.ok action) world' ∧
      world'.provider = world.provider ∧
      world'.recordOf row.id = some (final.map (·.state),
        max stored.observedGeneration (observedGenerationOf final)) ∧
      (stored.condition = row.condition → world'.conditionOf row.id = some condition) := by
  let recorded := (world.afterReading false).setClusters (recordObservation
    world.store.clusters row.id (final.map (·.state)) (observedGenerationOf final))
  have answered : exec platform thread (.row (.recordObservation row.id (final.map (·.state))
      (observedGenerationOf final))) world = some (.ok (), recorded) := rfl
  have lookup := find?_recordObservation world.store.clusters row.id row.id
    (final.map (·.state)) (observedGenerationOf final)
  simp [found] at lookup
  have record : recorded.recordOf row.id = some (final.map (·.state),
      max stored.observedGeneration (observedGenerationOf final)) := by
    rw [World.recordOf, World.setClusters_clusters, lookup, map_some]
    rfl
  have known : recorded.conditionOf row.id = some stored.condition := by
    rw [World.conditionOf, World.setClusters_clusters, lookup, map_some]
    rfl
  rcases storeCondition_runs row condition recorded with
    ⟨conditioned, conditionRan, conditionProvider, conditionRecord, conditionSet⟩
  rcases accountBackoff_runs row now action (final.map (·.state)) conditioned with
    ⟨accounted, accountRan, accountProvider, accountRecord, accountCondition⟩
  refine ⟨accounted, ?_, ?_, ?_, ?_⟩
  · apply Yields.invoke exec_observe
    rw [Platform.Shows] at shown
    simp only [shown]
    apply Yields.invoke answered
    apply conditionRan.bind
    exact accountRan.bind .ret
  · rw [accountProvider, conditionProvider]
    rfl
  · rw [accountRecord, conditionRecord, record]
  · intro same
    rw [accountCondition]
    exact conditionSet (same ▸ known)

/-- Where the goal is realized, a pass makes only calls that actuate nothing. -/
theorem reconcileOne_quietly (shown : platform.Shows row.id world.provider observed)
    (realized : Realized row.desired row.generation earlier observed) (now : ℕ) :
    ∃ program : Program (ReconcileResult Action),
      (program.Within fun call => ReconcileCall row call ∧ call.mutates = false) ∧
      (reconcileOne row now).eval (exec platform thread) world =
        program.eval (exec platform thread) world := by
  unfold reconcileOne
  split
  · exact ⟨.ret (.ok .backoff), trivial, rfl⟩
  · refine ⟨_, ?_, eval_invoke exec_observe⟩
    rw [Platform.Shows] at shown
    simp only [shown]
    refine Within.invoke ⟨.observe, rfl⟩ fun _ => ?_
    refine Within.invoke ⟨.passive rfl fun _ => rfl, rfl⟩ ?_
    rintro (failure | _ | _)
    · trivial
    · refine (queueAssignmentForProject_looksAway.mono fun _ away =>
        ⟨.passive away.1 away.2, mutates_of_passive away.1⟩).bind ?_
      rintro (failure | queue)
      · trivial
      rcases decideAction_rests realized now queue with ⟨action, condition, decided⟩
      simp only [decided]
      exact (settle_calls now action condition).mono fun _ made =>
        ⟨made.reconciles, made.harmless⟩
    · refine Within.invoke ⟨.recordObservation _ _, rfl⟩ ?_
      intro recorded
      cases recorded <;> trivial

/-- The provider shows the goal of the row realized. -/
def Resting (platform : Platform Provider) (id : ClusterId) (world : World Provider) : Prop :=
  ∃ spec generation desired earlier observed,
    world.goalOf id = some (spec, generation, desired) ∧
      platform.Shows id world.provider observed ∧ Realized desired generation earlier observed

theorem Resting.pass (resting : Resting platform row.id world)
    (found : world.store.clusters.find? row.id = some row)
    {outcome : Outcome Call.Res (World Provider) (ReconcileResult Action)}
    (ran : (reconcileOne row now).eval (exec platform thread) world = some outcome) :
    (∀ event ∈ outcome.events, event.op.mutates = false) ∧
      Resting platform row.id outcome.state := by
  rcases resting with ⟨spec, generation, desired, earlier, observed, goal, shown, realized⟩
  have goals : (row.spec, row.generation, row.desired) = (spec, generation, desired) := by
    rw [World.goalOf, found, map_some] at goal
    exact Option.some.inj goal
  cases goals
  rcases reconcileOne_quietly shown realized now with ⟨program, within, same⟩
  rw [same] at ran
  have kept := within.yields_invariant
    (fun later => later.provider = world.provider ∧ later.goalOf row.id = world.goalOf row.id) ?_
    ⟨_, ran⟩ ⟨rfl, rfl⟩
  · refine ⟨fun event eventMem => (within.eval_events ran event eventMem).2, ?_⟩
    refine ⟨row.spec, row.generation, row.desired, _, observed, kept.2.trans goal, ?_, realized⟩
    rw [kept.1]
    exact shown
  · rintro call before answer after ⟨made, harmless⟩ answered ⟨providerEq, goalEq⟩
    exact ⟨(provider_exec answered harmless).trans providerEq,
      (goalOf_exec made answered row.id).trans goalEq⟩

/-- Passes over a row, each as the row is stored by then, and changes by others in between. -/
inductive Passes (platform : Platform Provider) (id : ClusterId) (origin : World Provider) :
    EventLog → World Provider → Prop
  | refl : Passes platform id origin [] origin
  | drift {events world world'} (passes : Passes platform id origin events world)
      (moved : World.Drift world world') : Passes platform id origin events world'
  | pass {events world row outcome} (now thread : ℕ)
      (passes : Passes platform id origin events world)
      (found : world.store.clusters.find? id = some row)
      (ran : (reconcileOne row now).eval (exec platform thread) world = some outcome) :
      Passes platform id origin (events ++ outcome.events) outcome.state

theorem Resting.passes {id : ClusterId} {events : EventLog}
    (resting : Resting platform id world) (passes : Passes platform id world events world') :
    (∀ event ∈ events, event.op.mutates = false) ∧ Resting platform id world' := by
  induction passes with
  | refl => exact ⟨by simp, resting⟩
  | drift _ moved ih =>
    rcases ih with ⟨quiet, spec, generation, desired, _, observed, goal, shown, realized⟩
    refine ⟨quiet, spec, generation, desired, _, observed, ?_, ?_, realized⟩
    · rw [← goal, World.goalOf, World.goalOf, moved.find?_eq id]
    · rw [moved.provider]
      exact shown
  | @pass events world row outcome now thread _ found ran ih =>
    have rowId : row.id = id := Table.key_of_find? found
    subst rowId
    rcases ih.2.pass found ran with ⟨quietly, rests⟩
    refine ⟨?_, rests⟩
    intro event eventMem
    rcases List.mem_append.mp eventMem with old | new
    · exact ih.1 event old
    · exact quietly event new

/-- The row after a pass: its goal is kept and the final observation is recorded. -/
structure Refreshed (row : StoredCluster) (final : Option ObservedCluster)
    (row' : StoredCluster) : Prop where
  spec : row'.spec = row.spec
  generation : row'.generation = row.generation
  desired : row'.desired = row.desired
  observedState : row'.observedState = final.map (·.state)
  observedGeneration :
    row'.observedGeneration = max row.observedGeneration (observedGenerationOf final)

/--
One pass over a row realizes what the row desires and records it; no later pass
over the row actuates anything.
-/
theorem reconcileOne_converges (obliging : Obliging platform)
    (found : world.store.clusters.find? row.id = some row)
    (unallocated : ∀ allocation ∈ world.store.allocations.rows,
      allocation.project ≠ row.spec.project)
    (unquarantined : world.store.quarantined = false) (due : row.nextAttemptAt ≤ now)
    (granted : world.grantsToken now = true) (agrees : Agrees row world)
    (shown : platform.Shows row.id world.provider observed) (tractable : Tractable row observed) :
    ∃ action world' final row',
      Runs platform thread (reconcileOne row now) world (.ok action) world' ∧
      platform.Shows row.id world'.provider final ∧
      Realized row.desired row.generation observed final ∧
      world'.store.clusters.find? row.id = some row' ∧ Refreshed row final row' ∧
      ∀ events last, Passes platform row.id world' events last →
        ∀ event ∈ events, event.op.mutates = false := by
  rcases decideAction_realizes obliging shown tractable thread agrees granted with
    ⟨action, condition, decided, final, decision, clustersEq, finalShown, realized⟩
  rcases settle_runs (clustersEq ▸ found) finalShown now action condition with
    ⟨settled, settling, providerEq, record, _⟩
  have ran : Runs platform thread (reconcileOne row now) world (.ok action) settled := by
    rw [reconcileOne, if_neg (fun early => absurd early.2 (not_lt.mpr due))]
    apply Yields.invoke exec_observe
    rw [Platform.Shows] at shown
    simp only [shown]
    apply Yields.invoke exec_isQuarantined
    simp only [unquarantined]
    apply queueAssignmentForProject_runs.bind
    simp only [queueOf_eq_none unallocated]
    exact decision.bind settling
  have goal : settled.goalOf row.id = some (row.spec, row.generation, row.desired) := by
    refine (reconcileOne_calls row now).yields_invariant
      (fun later => later.goalOf row.id = some (row.spec, row.generation, row.desired)) ?_ ran ?_
    · intro call before answer after made answered kept
      rw [goalOf_exec made answered, kept]
    · simp [World.goalOf, found]
  rcases map_eq_some_iff.mp goal with ⟨row', found', goals⟩
  simp [World.recordOf, found'] at record
  simp at goals
  rw [← providerEq] at finalShown
  refine ⟨action, settled, final, row', ran, finalShown, realized, found',
    ⟨goals.1, goals.2.1, goals.2.2, record.1, record.2⟩, ?_⟩
  intro events last passes
  have resting : Resting platform row.id settled :=
    ⟨row.spec, row.generation, row.desired, observed, final, goal, finalShown, realized⟩
  exact (resting.passes passes).1

/-- The demo backend, except that it forgets terminated clusters and reports any engine's spec. -/
def obligingPlatform : Platform DemoClusters :=
  { forgettingPlatform with
    apply := fun id spec generation _ _ clusters =>
      (.ok ⟨generation, some (baseUrl id)⟩,
        clusters.insert ⟨id, .running, generation, ownedSpecFingerprint spec⟩) }

def DemoCluster.report (id : ClusterId) (cluster : DemoCluster) : ObservedCluster :=
  ⟨id, cluster.state, some cluster.generation, some cluster.fingerprint,
    some (baseUrl id)⟩

theorem obligingPlatform_shows {id : ClusterId} {clusters : DemoClusters} :
    obligingPlatform.Shows id clusters observed ↔
      (clusters.find? id).map (DemoCluster.report id) = observed := by
  have reports : obligingPlatform.observe id clusters = observe id clusters := rfl
  rw [Platform.Shows, reports, observe]
  rcases clusters.find? id with _ | cluster
  · simp [observation]
  · simp [observation, DemoCluster.report]

theorem obliging_obligingPlatform : Obliging obligingPlatform where
  posture := by
    intro clusters
    exact ⟨clusters, rfl⟩
  apply := by
    intro id spec generation key queue clusters
    let applied : DemoCluster := ⟨id, .running, generation, ownedSpecFingerprint spec⟩
    refine ⟨_, clusters.insert applied, applied.report id, rfl, ?_, rfl, rfl, rfl⟩
    rw [obligingPlatform_shows, Table.find?_insert, if_pos rfl, map_some]
  terminate := by
    intro id clusters
    refine ⟨clusters.erase id, rfl, ?_⟩
    simp [obligingPlatform_shows, Table.find?_erase]
  suspend := by
    intro id clusters running shown state
    rw [obligingPlatform_shows] at shown
    rcases map_eq_some_iff.mp shown with ⟨cluster, found, rfl⟩
    have live : cluster.state ≠ .terminated := by
      have isRunning : cluster.state = .running := state
      simp [isRunning]
    refine ⟨clusters.modify id suspendState,
      (suspendState cluster).report id, rfl, ?_, ?_⟩
    · simp [obligingPlatform_shows,
        Table.find?_modify clusters id id suspendState_id, found]
    · simp [DemoCluster.report, suspendState, live]

theorem reconcileOne_converges_for_posted_row :
    ∃ action world' final row',
      Runs obligingPlatform 0 (reconcileOne postedHead 0)
        (demoWorld (storeOf postedHead)) (.ok action) world' ∧
      obligingPlatform.Shows "c1" world'.provider final ∧ Realized .running 1 none final ∧
      world'.store.clusters.find? "c1" = some row' ∧
      Refreshed postedHead final row' ∧
      ∀ events last, Passes obligingPlatform "c1" world' events last →
        ∀ event ∈ events, event.op.mutates = false := by
  have absent : obligingPlatform.Shows "c1" (.empty : DemoClusters) none :=
    obligingPlatform_shows.mpr rfl
  refine reconcileOne_converges obliging_obligingPlatform rfl (by simp [demoWorld, storeOf,
    Store.empty, Table.empty]) rfl (le_refl 0) rfl ?_ absent ?_
  · intro recorded held
    cases held
  · intro cluster impossible
    cases impossible

end Mobula
