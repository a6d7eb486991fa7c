import Mobula.Controller.PoolReconcile

/-!
# What passes may call

The calls a pass of the reconcile loop can make, for all answers it may receive. A pass over a
row acts under the id, generation, specification and desired state it was listed with.
-/

namespace Mobula

open Foundation Prog List Within

/-- Reads of the store, audit records and the clock. -/
def Call.passive : Call → Bool
  | .row (.get _) => true
  | .row .list => true
  | .control (.seedPolicy _) => false
  | .control (.recordUsageSamples _) => false
  | .control _ => true
  | .process .nowUnix => true
  | _ => false

def Call.readsRow (id : ClusterId) : Call → Bool
  | .row (.get wanted) => wanted = id
  | .row .list => true
  | _ => false

abbrev Passive {α : Type} (program : Program α) : Prop :=
  program.Within fun call => call.passive = true

theorem mutates_of_passive {call : Call} (passive : call.passive = true) :
    call.mutates = false := by
  cases call with
  | backend call => cases passive
  | pool call => cases passive
  | _ => rfl

theorem keepsCatalog_of_passive {call : Call} (passive : call.passive = true) :
    call.keepsCatalog = true := by
  cases call with
  | admin call => cases passive
  | _ => rfl

/-- Passive, and no reading of cluster rows. -/
def Call.looksAway (call : Call) : Prop :=
  call.passive = true ∧ ∀ id, call.readsRow id = false

theorem queueAssignmentForProject_looksAway {project : String} :
    (queueAssignmentForProject project).Within Call.looksAway := by
  have inPools (pools : List StoredPool) :
      (queueAssignmentIn project pools).Within Call.looksAway := by
    induction pools with
    | nil => trivial
    | cons pool pools ih =>
      refine invoke ⟨rfl, fun _ => rfl⟩ ?_
      rintro (failure | allocations)
      · trivial
      simp only
      split
      · trivial
      · exact ih
  refine invoke ⟨rfl, fun _ => rfl⟩ ?_
  rintro (failure | pools)
  · trivial
  · exact inPools pools

theorem queueAssignmentForProject_passive {project : String} :
    Passive (queueAssignmentForProject project) :=
  queueAssignmentForProject_looksAway.mono fun _ => And.left

/-- The calls of a pass over a row, as it was listed. -/
inductive ReconcileCall (row : StoredCluster) : Call → Prop
  | passive {call : Call} (passive : call.passive = true)
      (unread : ∀ id, call.readsRow id = false) : ReconcileCall row call
  | takeToken (now : ℕ) : ReconcileCall row (.process (.takeToken now))
  | observe : ReconcileCall row (.backend (.observe row.id))
  | recordObservation (observed : Option ClusterState) (generation : ℕ) :
      ReconcileCall row (.row (.recordObservation row.id observed generation))
  | setCondition (condition : Option DriftCondition) :
      ReconcileCall row (.row (.setCondition row.id condition))
  | recordAttempt (failureCount nextAttemptAt : ℕ) :
      ReconcileCall row (.row (.recordAttempt row.id failureCount nextAttemptAt))
  | beginIntent (wanted : row.desired = .running) :
      ReconcileCall row (.outbox (.beginIntent row.intentKey (paramsFingerprint row.spec)))
  | completeIntent (response : String) (wanted : row.desired = .running) :
      ReconcileCall row (.outbox (.completeIntent row.intentKey response))
  | ensureNamespacePosture (wanted : row.desired = .running) :
      ReconcileCall row (.backend .ensureNamespacePosture)
  | apply (queue : Option QueueAssignment) (wanted : row.desired = .running) :
      ReconcileCall row (.backend (.apply row.id row.spec row.generation row.intentKey queue))
  | terminate (wanted : row.desired = .terminated) :
      ReconcileCall row (.backend (.terminate row.id))
  | suspend (wanted : row.desired = .suspended) : ReconcileCall row (.backend (.suspend row.id))

variable {row : StoredCluster} {now : ℕ}

theorem applyThroughOutbox_calls (wanted : row.desired = .running)
    {queue : Option QueueAssignment} :
    (applyThroughOutbox row queue).Within (ReconcileCall row) := by
  refine invoke (.beginIntent wanted) ?_
  rintro (failure | _ | _)
  · trivial
  · refine invoke (.ensureNamespacePosture wanted) ?_
    rintro (failure | done)
    · trivial
    refine invoke (.apply queue wanted) ?_
    rintro (failure | response)
    · trivial
    refine invoke (.completeIntent _ wanted) ?_
    intro completed
    cases completed <;> trivial
  · trivial

theorem decideAction_calls (now : ℕ) (observed : Option ObservedCluster)
    (queue : Option QueueAssignment) :
    (decideAction row now observed queue).Within (ReconcileCall row) := by
  unfold decideAction
  split
  · next wanted =>
      unfold decideRunning
      split
      · trivial
      · split
        · refine invoke (.takeToken now) ?_
          rintro (_ | _)
          · trivial
          · exact applyThroughOutbox_calls wanted
        · trivial
  · next wanted =>
      unfold decideTerminated
      split
      · refine invoke (.terminate wanted) ?_
        intro answer
        cases answer <;> trivial
      · trivial
  · next wanted =>
      unfold decideSuspended
      split
      · trivial
      · split
        · refine invoke (.suspend wanted) ?_
          intro answer
          cases answer <;> trivial
        · trivial

inductive SettleCall (row : StoredCluster) : Call → Prop
  | observe : SettleCall row (.backend (.observe row.id))
  | recordObservation (observed : Option ClusterState) (generation : ℕ) :
      SettleCall row (.row (.recordObservation row.id observed generation))
  | setCondition (condition : Option DriftCondition) :
      SettleCall row (.row (.setCondition row.id condition))
  | recordAttempt (failureCount nextAttemptAt : ℕ) :
      SettleCall row (.row (.recordAttempt row.id failureCount nextAttemptAt))

variable {call : Call} {pool : StoredPool}

theorem SettleCall.reconciles (made : SettleCall row call) : ReconcileCall row call := by
  cases made with
  | observe => exact .observe
  | recordObservation observed generation => exact .recordObservation observed generation
  | setCondition condition => exact .setCondition condition
  | recordAttempt failureCount nextAttemptAt => exact .recordAttempt failureCount nextAttemptAt

theorem SettleCall.harmless (made : SettleCall row call) : call.mutates = false := by
  cases made <;> rfl

theorem settle_calls (now : ℕ) (action : Action) (condition : Option DriftCondition) :
    (settle row now action condition).Within (SettleCall row) := by
  refine invoke .observe ?_
  intro reported
  split
  · trivial
  · refine invoke (.recordObservation _ _) ?_
    rintro (failure | done)
    · trivial
    have conditions : (storeCondition row condition).Within (SettleCall row) := by
      unfold storeCondition
      split
      · exact within_invoke (.setCondition condition)
      · trivial
    refine conditions.bind ?_
    rintro (failure | done)
    · trivial
    have attempts (final : Option ClusterState) :
        (accountBackoff row now action final).Within (SettleCall row) := by
      unfold accountBackoff
      split
      · exact within_invoke (.recordAttempt _ _)
      · split
        · exact within_invoke (.recordAttempt 0 0)
        · trivial
      · trivial
    refine (attempts _).bind ?_
    intro accounted
    cases accounted <;> trivial

theorem actuateRow_calls {observed : Option ObservedCluster} :
    (actuateRow row now observed).Within (ReconcileCall row) := by
  refine (queueAssignmentForProject_looksAway.mono fun _ away => .passive away.1 away.2).bind ?_
  rintro (failure | queue)
  · trivial
  refine (decideAction_calls now observed queue).bind ?_
  rintro (failure | action | ⟨action, condition⟩)
  · trivial
  · trivial
  · exact (settle_calls now action condition).mono fun _ => SettleCall.reconciles

theorem reconcileOne_calls (row : StoredCluster) (now : ℕ) :
    (reconcileOne row now).Within (ReconcileCall row) := by
  unfold reconcileOne
  split
  · trivial
  · refine invoke .observe ?_
    intro reported
    split
    · trivial
    · refine invoke (.passive rfl fun _ => rfl) ?_
      rintro (failure | _ | _)
      · trivial
      · exact actuateRow_calls
      · refine invoke (.recordObservation _ _) ?_
        intro recorded
        cases recorded <;> trivial

theorem reconcileRows_calls (now : ℕ) (rows : List StoredCluster) :
    (reconcileRows now rows).Within fun call => ∃ row ∈ rows, ReconcileCall row call := by
  induction rows with
  | nil => trivial
  | cons row rows ih =>
    refine ((reconcileOne_calls row now).mono ?_).bind fun _ => ?_
    · intro call made
      exact ⟨row, mem_cons_self, made⟩
    · refine (ih.mono ?_).bind fun _ => trivial
      rintro call ⟨other, otherMem, made⟩
      exact ⟨other, mem_cons_of_mem _ otherMem, made⟩

inductive LoopCall : Call → Prop
  | passive {call : Call} (passive : call.passive = true) : LoopCall call
  | reconcile {call : Call} (row : StoredCluster) (made : ReconcileCall row call) : LoopCall call

theorem reconcileAllAt_calls (now : ℕ) : (reconcileAllAt now).Within LoopCall := by
  refine invoke (.passive rfl) ?_
  rintro (failure | rows)
  · trivial
  refine (reconcileRows_calls now rows).mono ?_
  rintro call ⟨row, _, made⟩
  exact .reconcile row made

inductive ExpireCall : Call → Prop
  | passive {call : Call} (passive : call.passive = true) : ExpireCall call
  | expire (id : ClusterId) : ExpireCall (.row (.setDesired id .terminated))

theorem reapExpiredRows_calls {jobs : List JobRecord} {rows : List StoredCluster} :
    (reapExpiredRows now jobs rows).Within ExpireCall := by
  induction rows with
  | nil => trivial
  | cons row rows ih =>
    unfold reapExpiredRows
    split
    · refine invoke (.expire row.id) ?_
      rintro (failure | done)
      · trivial
      · exact ih.bind fun _ => trivial
    · exact ih

theorem reapExpired_calls (now : ℕ) : (reapExpired now).Within ExpireCall := by
  refine invoke (.passive rfl) ?_
  rintro (failure | rows)
  · trivial
  refine invoke (.passive rfl) ?_
  rintro (failure | jobs)
  · trivial
  · exact reapExpiredRows_calls

/-- The calls of the sweep on a row it found to be a dead tombstone. -/
inductive TombstoneCall (now retention : ℕ) (row : StoredCluster) : Call → Prop
  | reapPolicies (dead : isPurgeableTombstone row now retention = true) :
      TombstoneCall now retention row (.backend (.reapNetworkPolicies row.id))
  | remove (dead : isPurgeableTombstone row now retention = true) :
      TombstoneCall now retention row (.row (.removeCluster row.id))

theorem reapTerminatedRows_calls (now retention : ℕ) (rows : List StoredCluster) :
    (reapTerminatedRows now retention rows).Within fun call =>
      ∃ row ∈ rows, TombstoneCall now retention row call := by
  induction rows with
  | nil => trivial
  | cons row rows ih =>
    have later : (reapTerminatedRows now retention rows).Within fun call =>
        ∃ other ∈ row :: rows, TombstoneCall now retention other call := by
      refine ih.mono ?_
      rintro call ⟨other, otherMem, made⟩
      exact ⟨other, mem_cons_of_mem _ otherMem, made⟩
    unfold reapTerminatedRows
    split
    · next dead =>
        refine invoke ⟨row, mem_cons_self, .reapPolicies dead⟩ ?_
        rintro (failure | done)
        · exact later
        refine invoke ⟨row, mem_cons_self, .remove dead⟩ ?_
        rintro (failure | removed)
        · trivial
        · exact later.bind fun _ => trivial
    · exact later

inductive SweepCall (now retention : ℕ) : Call → Prop
  | passive {call : Call} (passive : call.passive = true) : SweepCall now retention call
  | tombstone {call : Call} (row : StoredCluster) (made : TombstoneCall now retention row call) :
      SweepCall now retention call

theorem reapTerminated_calls (now retention : ℕ) :
    (reapTerminated now retention).Within (SweepCall now retention) := by
  refine invoke (.passive rfl) ?_
  rintro (failure | rows)
  · trivial
  refine (reapTerminatedRows_calls now retention rows).mono ?_
  rintro call ⟨row, _, made⟩
  exact .tombstone row made

inductive TickCall (retention : ℕ) (call : Call) : Prop
  | expire (made : ExpireCall call)
  | reapIntents (appliedBefore : ℕ) (made : call = .outbox (.reapIntents appliedBefore))
  | sweep (now : ℕ) (made : SweepCall now retention call)
  | reconcile (made : LoopCall call)

theorem reapBeforeSweep_calls (retention : ℕ) : reapBeforeSweep.Within (TickCall retention) := by
  refine invoke (.expire (.passive rfl)) fun now => ?_
  refine ((reapExpired_calls now).mono fun _ => .expire).bind fun _ => ?_
  refine invoke (.expire (.passive rfl)) fun later => ?_
  exact invoke (.reapIntents _ rfl) fun _ => trivial

theorem sweepTombstones_calls (retention : ℕ) :
    (sweepTombstones retention).Within (TickCall retention) := by
  refine invoke (.expire (.passive rfl)) fun now => ?_
  exact ((reapTerminated_calls now retention).mono fun _ => .sweep now).bind fun _ => trivial

theorem reconcileAll_calls : reconcileAll.Within LoopCall :=
  invoke (.passive rfl) fun now => reconcileAllAt_calls now

theorem tick_calls (retention : ℕ) : (tick retention).Within (TickCall retention) := by
  refine (reapBeforeSweep_calls retention).bind fun _ => ?_
  refine (sweepTombstones_calls retention).bind fun _ => ?_
  exact (reconcileAll_calls.mono fun _ => .reconcile).bind fun _ => trivial

theorem ReconcileCall.keepsCatalog (made : ReconcileCall row call) : call.keepsCatalog = true := by
  cases made with
  | passive passive => exact keepsCatalog_of_passive passive
  | _ => rfl

theorem TickCall.keepsCatalog {retention : ℕ} (made : TickCall retention call) :
    call.keepsCatalog = true := by
  cases made with
  | expire made =>
    cases made with
    | passive passive => exact keepsCatalog_of_passive passive
    | expire id => rfl
  | reapIntents appliedBefore made =>
    subst made
    rfl
  | sweep now made =>
    cases made with
    | passive passive => exact keepsCatalog_of_passive passive
    | tombstone row made => cases made <;> rfl
  | reconcile made =>
    cases made with
    | passive passive => exact keepsCatalog_of_passive passive
    | reconcile row made => exact made.keepsCatalog

/-- The calls that observe a pool and record what was observed. -/
inductive PoolObserveCall (pool : StoredPool) : Call → Prop
  | observePool : PoolObserveCall pool (.pool (.observePool pool.name))
  | record (observed : String) :
      PoolObserveCall pool (.control (.recordPoolObservation pool.name observed))

theorem observePoolRow_observes (pool : StoredPool) :
    (observePoolRow pool).Within (PoolObserveCall pool) := by
  refine invoke .observePool ?_
  rintro (failure | _ | observed)
  · trivial
  · trivial
  · refine invoke (.record _) ?_
    intro recorded
    cases recorded <;> trivial

theorem PoolObserveCall.harmless (made : PoolObserveCall pool call) : call.mutates = false := by
  cases made <;> rfl

/-- The calls of a pass over one pool, as it was listed. -/
inductive PoolRowCall (pool : StoredPool) : Call → Prop
  | observe {call : Call} (made : PoolObserveCall pool call) : PoolRowCall pool call
  | isQuarantined : PoolRowCall pool (.control .isQuarantined)
  | listAllocations : PoolRowCall pool (.control (.listAllocations pool.name))
  | getIntent (fingerprint : String) :
      PoolRowCall pool (.outbox (.getIntent (poolIntentKey pool fingerprint)))
  | beginIntent (fingerprint : String) :
      PoolRowCall pool (.outbox (.beginIntent (poolIntentKey pool fingerprint) fingerprint))
  | applyPool (allocations : List AllocationSpec) :
      PoolRowCall pool (.pool (.applyPool pool.spec allocations))
  | completeIntent (fingerprint response : String) :
      PoolRowCall pool (.outbox (.completeIntent (poolIntentKey pool fingerprint) response))
  | convergedInsert : PoolRowCall pool (.process (.convergedInsert pool.name))

theorem actuatePool_calls {weightText : ℚ → Numeral} :
    (actuatePool weightText pool).Within (PoolRowCall pool) := by
  refine invoke .listAllocations ?_
  rintro (failure | allocations)
  · trivial
  refine invoke (.getIntent _) ?_
  rintro (failure | record)
  · trivial
  simp only
  split
  · exact invoke .convergedInsert fun _ => trivial
  · refine invoke (.beginIntent _) ?_
    rintro (failure | _ | _)
    · trivial
    · refine invoke (.applyPool allocations) ?_
      rintro (failure | done)
      · trivial
      refine invoke (.completeIntent _ _) ?_
      rintro (failure | done)
      · trivial
      · exact invoke .convergedInsert fun _ => trivial
    · trivial

theorem reconcilePool_calls (weightText : ℚ → Numeral) (pool : StoredPool) :
    (reconcilePool weightText pool).Within (PoolRowCall pool) := by
  refine ((observePoolRow_observes pool).mono fun _ => PoolRowCall.observe).bind ?_
  rintro (failure | done)
  · trivial
  refine invoke .isQuarantined ?_
  rintro (failure | _ | _)
  · trivial
  · exact actuatePool_calls
  · trivial

inductive PoolLoopCall : Call → Prop
  | passive {call : Call} (passive : call.passive = true) : PoolLoopCall call
  | kueuePresent : PoolLoopCall (.pool .kueuePresent)
  | reconcile {call : Call} (pool : StoredPool) (made : PoolRowCall pool call) : PoolLoopCall call
  | convergedDifference (current : List String) :
      PoolLoopCall (.process (.convergedDifference current))
  | deletePool (name : String) : PoolLoopCall (.pool (.deletePool name))
  | convergedRemove (name : String) : PoolLoopCall (.process (.convergedRemove name))

theorem reconcilePoolRows_rowCalls (weightText : ℚ → Numeral) (pools : List StoredPool) :
    (reconcilePoolRows weightText pools).Within fun call =>
      ∃ pool ∈ pools, PoolRowCall pool call := by
  induction pools with
  | nil => trivial
  | cons pool pools ih =>
    refine ((reconcilePool_calls weightText pool).mono fun _ made =>
      ⟨pool, mem_cons_self, made⟩).bind fun _ => ?_
    refine (ih.mono ?_).bind fun _ => trivial
    rintro call ⟨other, otherMem, made⟩
    exact ⟨other, mem_cons_of_mem pool otherMem, made⟩

theorem reconcilePoolRows_calls {weightText : ℚ → Numeral} {pools : List StoredPool} :
    (reconcilePoolRows weightText pools).Within PoolLoopCall :=
  (reconcilePoolRows_rowCalls weightText pools).mono fun _ ⟨pool, _, made⟩ => .reconcile pool made

inductive TeardownCall (names : List String) : Call → Prop
  | deletePool {name : String} (vanished : name ∈ names) :
      TeardownCall names (.pool (.deletePool name))
  | convergedRemove (name : String) : TeardownCall names (.process (.convergedRemove name))

theorem deleteVanished_tearsDown (names : List String) :
    (deleteVanished names).Within (TeardownCall names) := by
  induction names with
  | nil => trivial
  | cons name names ih =>
    have others : (deleteVanished names).Within (TeardownCall (name :: names)) := by
      refine ih.mono ?_
      intro call made
      cases made with
      | deletePool vanished => exact .deletePool (mem_cons_of_mem name vanished)
      | convergedRemove gone => exact .convergedRemove gone
    refine invoke (.deletePool mem_cons_self) ?_
    rintro (failure | done)
    · exact others.bind fun _ => trivial
    exact invoke (.convergedRemove name) fun _ => others.bind fun _ => trivial

theorem deleteVanished_calls (names : List String) :
    (deleteVanished names).Within PoolLoopCall := by
  refine (deleteVanished_tearsDown names).mono ?_
  intro call made
  cases made with
  | deletePool vanished => exact .deletePool _
  | convergedRemove name => exact .convergedRemove name

theorem reconcilePools_calls {weightText : ℚ → Numeral} :
    (reconcilePools weightText).Within PoolLoopCall := by
  refine invoke .kueuePresent ?_
  rintro (_ | _)
  · trivial
  refine invoke (.passive rfl) ?_
  rintro (failure | pools)
  · trivial
  refine reconcilePoolRows_calls.bind fun _ => ?_
  refine invoke (.passive rfl) ?_
  rintro (failure | _ | _)
  · trivial
  · refine invoke (.convergedDifference _) fun vanished => ?_
    exact (deleteVanished_calls vanished).bind fun _ => trivial
  · trivial

theorem PoolLoopCall.keepsCatalog (made : PoolLoopCall call) : call.keepsCatalog = true := by
  cases made with
  | passive passive => exact keepsCatalog_of_passive passive
  | reconcile pool made =>
    cases made with
    | observe made => cases made <;> rfl
    | _ => rfl
  | _ => rfl

end Mobula
