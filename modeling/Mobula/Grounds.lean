import Mobula.ControlPlane
import Mobula.Foundation.Snapshot

/-!
# What threads act on

Requests and passes write to the store and to the provisioner on grounds of the
rows they read last. This module says, call by call, which rows these are, and
that each of them was stored when the thread read it.
-/

namespace Mobula

open Foundation Prog

/-- Terminated on request, and gone or never observed. -/
def StoredCluster.isTombstone (row : StoredCluster) : Bool :=
  row.desired = .terminated && observedGone row.observedState

/-- A call answered with the row of an id. -/
inductive Shown (id : ClusterId) (row : StoredCluster) : Event Call.Res → Prop
  | get : Shown id row ⟨.row (.get id), .ok (some row)⟩
  | list {rows : List StoredCluster} (rowMem : row ∈ rows) (rowId : row.id = id) :
      Shown id row ⟨.row .list, .ok rows⟩

/-- The last time that the thread read rows, it was shown the row of the id. -/
def Sees (past : EventLog) (id : ClusterId) (row : StoredCluster) : Prop :=
  ∃ before event after, past = before ++ event :: after ∧ Shown id row event ∧
    ∀ inner ∈ after, inner.op.readsRow id = false

/-- The row that each call rests on, as the thread saw it. -/
def Grounded (past : EventLog) : Call → Prop
  | .row (.removeCluster id) => ∃ row, Sees past id row ∧ row.isTombstone = true
  | .row (.setDesired id desired) =>
    desired = .terminated ∨ ∃ row, Sees past id row ∧ row.desired ≠ .terminated
  | .outbox (.beginIntent key fingerprint) =>
    ∃ row, Sees past row.id row ∧ key = row.intentKey ∧ fingerprint = paramsFingerprint row.spec
  | .backend (.apply id spec generation _ _) =>
    ∃ row, Sees past id row ∧ spec = row.spec ∧ generation = row.generation
  | _ => True

variable {past : EventLog} {call : Call} {assumed : EventLog → (call : Call) → call.Res → Prop}
  {identity : Caller} {id : ClusterId} {row : StoredCluster} {now retention : ℕ} {α : Type}

theorem sees_since {event : Event Call.Res} {added : EventLog} (shown : Shown id row event)
    (unread : ∀ inner ∈ added, inner.op.readsRow id = false) :
    Sees (past ++ [event] ++ added) id row :=
  ⟨past, event, added, by simp, shown, unread⟩

theorem grounded_of_passive (passive : call.passive = true) : Grounded past call := by
  unfold Grounded
  split <;> trivial

theorem grounded_of_reconcileCall (sees : Sees past row.id row) (made : ReconcileCall row call) :
    Grounded past call := by
  cases made with
  | passive passive => exact grounded_of_passive passive
  | beginIntent wanted => exact ⟨row, sees, rfl, rfl⟩
  | apply queue wanted => exact ⟨row, sees, rfl, rfl⟩
  | _ => trivial

theorem isTombstone_of_isPurgeableTombstone (dead : isPurgeableTombstone row now retention = true) :
    row.isTombstone = true := by
  simp [isPurgeableTombstone] at dead
  simpa [StoredCluster.isTombstone] using dead.1

theorem grounded_of_tombstoneCall (sees : Sees past row.id row)
    (made : TombstoneCall now retention row call) : Grounded past call := by
  cases made with
  | reapPolicies dead => trivial
  | remove dead => exact ⟨row, sees, isTombstone_of_isPurgeableTombstone dead⟩

theorem ReconcileCall.unread (made : ReconcileCall row call) : call.readsRow id = false := by
  cases made with
  | passive _ unread => exact unread id
  | _ => rfl

theorem TombstoneCall.unread (made : TombstoneCall now retention row call) :
    call.readsRow id = false := by
  cases made <;> rfl

theorem grounded_of_looksAway {program : Program α} (away : program.Within Call.looksAway)
    (id : ClusterId) :
    program.Obeys assumed Grounded (fun later _ => ∃ added, later = past ++ added ∧
      ∀ inner ∈ added, inner.op.readsRow id = false) past := by
  refine (away.obeys fun _ _ _ looks => grounded_of_passive looks.1).mono ?_
  rintro later _ ⟨added, appended, confined⟩
  exact ⟨added, appended, fun inner innerMem => (confined inner innerMem).2 id⟩

theorem Passive.grounded {program : Program α} (passive : Passive program) :
    program.Obeys assumed Grounded (fun _ _ => True) past :=
  (Within.obeys passive fun _ _ _ reads => grounded_of_passive reads).mono fun _ _ _ => trivial

theorem grounded_over_listing {rest : List StoredCluster → Program α}
    {made : StoredCluster → Call → Prop} {failed : StoreError → Program α}
    (calls : ∀ rows, (rest rows).Within fun call => ∃ row ∈ rows, made row call)
    (fails : ∀ failure, ∃ value, failed failure = .ret value)
    (grounded : ∀ {past row call}, Sees past row.id row → made row call → Grounded past call)
    (unread : ∀ {id row call}, made row call → call.readsRow id = false) :
    (Calls.list >>= fun answer => match answer with
      | .error failure => failed failure
      | .ok rows => rest rows).Obeys assumed Grounded (fun _ _ => True) past := by
  refine Obeys.invoke trivial ?_
  intro answer _
  cases answer with
  | error failure =>
    rcases fails failure with ⟨value, returned⟩
    simp only [returned]
    trivial
  | ok rows =>
    refine ((calls rows).obeys ?_).mono fun _ _ _ => trivial
    rintro added call confined ⟨row, rowMem, rowCall⟩
    refine grounded (sees_since (.list rowMem rfl) fun inner innerMem => ?_) rowCall
    rcases confined inner innerMem with ⟨_, _, innerCall⟩
    exact unread innerCall

theorem reconcileAllAt_grounded :
    (reconcileAllAt now).Obeys assumed Grounded (fun _ _ => True) past :=
  grounded_over_listing (reconcileRows_calls now) (fun _ => ⟨_, rfl⟩) grounded_of_reconcileCall
    ReconcileCall.unread

theorem reapTerminated_grounded (now retention : ℕ) :
    (reapTerminated now retention).Obeys assumed Grounded (fun _ _ => True) past :=
  grounded_over_listing (reapTerminatedRows_calls now retention) (fun _ => ⟨_, rfl⟩)
    grounded_of_tombstoneCall TombstoneCall.unread

theorem grounded_of_expireCall (made : ExpireCall call) : Grounded past call := by
  cases made with
  | passive passive => exact grounded_of_passive passive
  | expire id => exact .inl rfl

theorem reapExpired_grounded (now : ℕ) :
    (reapExpired now).Obeys assumed Grounded (fun _ _ => True) past :=
  ((reapExpired_calls now).obeys fun _ _ _ => grounded_of_expireCall).mono fun _ _ _ => trivial

theorem tick_grounded : (tick retention).Obeys assumed Grounded (fun _ _ => True) past := by
  have before : reapBeforeSweep.Obeys assumed Grounded (fun _ _ => True) past := by
    refine Obeys.invoke trivial fun now _ => ?_
    refine (reapExpired_grounded now).bind fun _ _ _ => ?_
    refine Obeys.invoke trivial fun later _ => ?_
    exact Obeys.invoke trivial fun _ _ => trivial
  refine before.bind fun past _ _ => ?_
  have sweeping : (sweepTombstones retention).Obeys assumed Grounded (fun _ _ => True) past :=
    Obeys.invoke trivial fun now _ =>
      (reapTerminated_grounded now retention).bind fun _ _ _ => trivial
  refine sweeping.bind fun past _ _ => ?_
  have reconciling : reconcileAll.Obeys assumed Grounded (fun _ _ => True) past :=
    Obeys.invoke trivial fun now _ => reconcileAllAt_grounded
  exact reconciling.bind fun _ _ _ => trivial

theorem createCluster_grounded {seed : PolicyConfig} {body : CreateCluster} :
    (createCluster seed identity body).Obeys assumed Grounded (fun _ _ => True) past := by
  refine (createCluster_calls.obeys ?_).mono fun _ _ _ => trivial
  intro added call _ made
  cases made with
  | passive passive => exact grounded_of_passive passive
  | _ => trivial

theorem deleteCluster_grounded {purge : Bool} :
    (deleteCluster identity id purge).Obeys assumed Grounded (fun _ _ => True) past := by
  refine Obeys.invoke trivial ?_
  rintro (failure | _ | stored) _
  · trivial
  · trivial
  · refine (grounded_of_looksAway authorizeScoped_looksAway id).bind ?_
    rintro later denial ⟨added, rfl, unread⟩
    cases denial with
    | some response => trivial
    | none =>
      cases purge with
      | false =>
        refine Obeys.invoke (.inl rfl) ?_
        intro answer _
        cases answer with
        | ok done => exact answerWith_passive.grounded
        | error failure =>
          simp only
          split <;> trivial
      | true =>
        simp only [if_true, purgeCluster]
        split
        · next dead =>
            have tombstone : stored.isTombstone = true := by
              simp [StoredCluster.isTombstone, dead]
            refine Obeys.invoke ⟨stored, sees_since .get unread, tombstone⟩ ?_
            rintro (failure | _ | _) _
            · trivial
            · trivial
            · exact answerWith_passive.grounded
        · trivial

theorem lifecycleCommand_grounded {command : LifecycleCommand} :
    (lifecycleCommand identity id command).Obeys assumed Grounded (fun _ _ => True) past := by
  refine authorize_passive.grounded.bind ?_
  rintro past denial _
  cases denial with
  | some response => trivial
  | none =>
    refine Obeys.invoke trivial ?_
    rintro (failure | _ | row) _
    · trivial
    · trivial
    · refine (grounded_of_looksAway queueAssignmentForProject_looksAway id).bind ?_
      rintro later assigned ⟨added, rfl, unread⟩
      rcases assigned with failure | _ | queue
      · trivial
      · simp only
        split
        · next legal =>
            have alive : row.desired ≠ .terminated := by
              simp [LifecycleCommand.legal] at legal
              exact legal.1
            refine Obeys.invoke (.inr ⟨row, sees_since .get unread, alive⟩) ?_
            rintro (failure | done) _
            · trivial
            exact answerWith_passive.grounded
        · exact answerWith_passive.grounded
      · exact answerWith_passive.grounded

theorem Actor.grounded (seed : PolicyConfig) (actor : Actor) :
    (actor.program seed).Obeys assumed Grounded (fun _ _ => True) past := by
  cases actor with
  | create identity body => exact discard_obeys createCluster_grounded
  | delete identity id purge => exact discard_obeys deleteCluster_grounded
  | lifecycle identity id command =>
    exact discard_obeys lifecycleCommand_grounded
  | reapExpired now => exact discard_obeys (reapExpired_grounded now)
  | reapTerminated now retention => exact discard_obeys (reapTerminated_grounded now retention)
  | reapIntents appliedBefore =>
    exact discard_obeys (Obeys.invoke trivial fun _ _ => trivial)
  | reconcileAll now => exact discard_obeys reconcileAllAt_grounded
  | tick retention => exact tick_grounded

/-- The call removes the row of the cluster. -/
def Call.removes (id : ClusterId) : Call → Bool
  | .row (.removeCluster wanted) => wanted = id
  | _ => false

theorem ne_removeCluster (spares : call.removes id = false) : call ≠ .row (.removeCluster id) := by
  rintro rfl
  simp [Call.removes] at spares

theorem not_removes_of_readsRow (reads : call.readsRow id = true) : call.removes id = false := by
  unfold Call.removes
  split
  · cases reads
  · rfl

section Runs

variable {Provider : Type} {platform : Platform Provider} {seed : PolicyConfig}
  {admits : PlaneConfig Provider → Actor → Prop} {origin : World Provider}
  {trace earlier later : PlaneTrace Provider} {config : PlaneConfig Provider}
  {step : PlaneStep Provider}
  (run : (controlPlane platform seed admits).Run (.start origin) trace config)
  (split : trace = earlier ++ step :: later)

include run split

theorem grounded_step : Grounded (own step.thread earlier) step.op :=
  run.allowed_step (fun _ _ _ => True) (fun _ => Grounded) (fun _ _ => trivial)
    (fun _ actor _ => actor.grounded seed) split

theorem stored_of_sees (sees : Sees (own step.thread earlier) id row) :
    ∃ front reading middle, earlier = front ++ reading :: middle ∧
      reading.thread = step.thread ∧ reading.op.readsRow id = true ∧
      (∀ event ∈ own step.thread middle, event.op.readsRow id = false) ∧
      reading.before.store.clusters.find? id = some row ∧ reading.after = reading.before := by
  have answered (reading : PlaneStep Provider) (readingMem : reading ∈ earlier) :
      exec platform reading.thread reading.op reading.before =
        some (reading.answer, reading.after) :=
    run.exec_of_mem (split ▸ List.mem_append_left _ readingMem)
  rcases sees with ⟨before, event, after, past, shown, unread⟩
  cases shown with
  | get =>
    rcases reading_of_own answered (fun _ _ => exec_get) past with
      ⟨front, reading, middle, rfl, mine, opEq, same, found, rfl⟩
    exact ⟨front, reading, middle, rfl, mine, by simp [opEq, Call.readsRow], unread,
      Except.ok.inj found, same⟩
  | @list rows rowMem rowId =>
    rcases reading_of_own answered (fun _ _ => exec_list) past with
      ⟨front, reading, middle, rfl, mine, opEq, same, found, rfl⟩
    refine ⟨front, reading, middle, rfl, mine, by simp [opEq, Call.readsRow], unread, ?_, same⟩
    rw [← Except.ok.inj found] at rowMem
    exact rowId ▸ Table.find?_of_mem rowMem

/-- What held when a thread read the row holds when the thread acts on it. -/
theorem holds_since_reading (sees : Sees (own step.thread earlier) id row)
    {acts : Call → Bool} {disturbs : PlaneStep Provider → Bool}
    (undisturbed : Foundation.Undisturbed (Call.readsRow id) acts disturbs trace)
    (acting : acts step.op = true) (fact : World Provider → Prop)
    (drifts : ∀ before after : World Provider, before.Drift after → fact before → fact after)
    (steps : ∀ inner : PlaneStep Provider, disturbs inner = false →
      exec platform inner.thread inner.op inner.before = some (inner.answer, inner.after) →
      fact inner.before → fact inner.after)
    (holds : ∀ reading ∈ trace, reading.op.readsRow id = true →
      reading.before.store.clusters.find? id = some row → fact reading.before) :
    fact step.before := by
  rcases stored_of_sees run split sees with
    ⟨front, reading, middle, rfl, mine, reads, last, found, same⟩
  subst split
  rw [List.append_assoc, List.cons_append] at run undisturbed
  refine run.upToDate (undisturbed.window mine reads last acting) fact drifts
    (fun inner _ => steps inner) ?_
  rw [same]
  exact holds reading (by simp) reads found

end Runs

end Mobula
