import Mobula.Controller.Actuation
import Mobula.Foundation.Faults

/-!
# The order of an actuation

An intent is opened and the posture of the namespace is ensured before a
specification is applied, and the intent is completed after that. Every call of the
store and of the provisioner may fail, before or after it has had its effect.
-/

namespace Mobula

open Foundation IntentTable

variable {Provider : Type} {platform : Platform Provider} {thread : ℕ} {row : StoredCluster}
  {world world' : World Provider} {past : EventLog} {call : Call} {answer : call.Res}
  {key fingerprint : String}

/-- The answer of a call that fails; calls within the process do not. -/
def Call.failure (store : StoreError) (provision : ProvisionError) :
    (call : Call) → Option call.Res
  | .row (.upsertDesired _ _) | .row (.get _) | .row .list | .row (.setDesired _ _)
  | .row (.removeCluster _) | .row (.recordObservation _ _ _) | .row (.setCondition _ _)
  | .row (.recordAttempt _ _ _)
  | .outbox (.beginIntent _ _) | .outbox (.completeIntent _ _) | .outbox (.getIntent _)
  | .outbox (.reapIntents _)
  | .control .isQuarantined | .control .listJobs | .control (.getPool _) | .control .listPools
  | .control (.recordPoolObservation _ _) | .control (.listAllocations _)
  | .control (.recordUsageSamples _) | .control (.usageSamples _ _ _ _)
  | .control (.recordAudit _) | .control .getPolicy | .control (.seedPolicy _)
  | .control (.listRoleAssignments _)
  | .admin (.upsertPool _ _) | .admin (.deletePool _) | .admin (.upsertAllocation _)
  | .admin (.deleteAllocation _ _) | .admin (.setQuarantine _) => some (.error store)
  | .backend (.apply _ _ _ _ _) | .backend .ensureNamespacePosture | .backend (.terminate _)
  | .backend (.reapNetworkPolicies _) | .backend (.suspend _) | .backend (.resume _)
  | .backend (.observe _)
  | .pool (.applyPool _ _) | .pool (.deletePool _) | .pool (.observePool _) =>
    some (.error provision)
  | .pool .kueuePresent | .process _ => none

/-- A call is answered, or fails with or without its effect. -/
def execFaulty (platform : Platform Provider) (thread : ℕ) (call : Call) (world : World Provider)
    (answer : call.Res) (world' : World Provider) : Prop :=
  exec platform thread call world = some (answer, world') ∨
    (∃ store provision, call.failure store provision = some answer) ∧
      (world' = world ∨ ∃ lost, exec platform thread call world = some (lost, world'))

/-- An intent for the applied specification is there, and the posture was ensured. -/
def ApplyPrepared (past : EventLog) (call : Call) (world : World Provider) : Prop :=
  ∀ id spec generation key queue, call = .backend (.apply id spec generation key queue) →
    key = intentKeyOf id generation ∧
      IntentTable.fingerprintAt world.store.intents key = some (paramsFingerprint spec) ∧
      ⟨.backend .ensureNamespacePosture, .ok ()⟩ ∈ past

/-- An intent that the call marks as applied is one whose apply has succeeded. -/
def AppliedAfterApply (past : EventLog) (world world' : World Provider) : Prop :=
  ∀ key record, world'.store.intents.find? key = some record → record.status = .applied →
    world.store.intents.find? key = some record ∨
      ∃ id spec generation queue response, key = intentKeyOf id generation ∧
        ⟨.backend (.apply id spec generation key queue), .ok response⟩ ∈ past

def OutboxOrder (past : EventLog) : Call → Prop
  | .backend (.apply id spec generation key _) =>
    key = intentKeyOf id generation ∧
      (∃ replay, (⟨.outbox (.beginIntent key (paramsFingerprint spec)), .ok (.proceed replay)⟩ :
        Event Call.Res) ∈ past) ∧
      ⟨.backend .ensureNamespacePosture, .ok ()⟩ ∈ past
  | .outbox (.completeIntent key _) =>
    ∃ id spec generation queue response, key = intentKeyOf id generation ∧
      ⟨.backend (.apply id spec generation key queue), .ok response⟩ ∈ past
  | .outbox (.reapIntents _) => False
  | _ => True

theorem applyThroughOutbox_ordered {queue : Option QueueAssignment} :
    (applyThroughOutbox row queue).Obeys (fun _ _ _ => True) OutboxOrder (fun _ _ => True)
      past := by
  refine Prog.Obeys.invoke trivial ?_
  intro outcome _
  rcases outcome with failure | replay | _
  · trivial
  · refine Prog.Obeys.invoke trivial ?_
    intro posture _
    rcases posture with failure | _
    · trivial
    refine Prog.Obeys.invoke ⟨rfl, ⟨replay, by simp⟩, by simp⟩ ?_
    intro applied _
    rcases applied with failure | response
    · trivial
    refine Prog.Obeys.invoke ⟨row.id, row.spec, row.generation, queue, response, rfl, by simp⟩ ?_
    intro completed _
    cases completed <;> trivial
  · trivial

theorem reconcileOne_ordered (row : StoredCluster) (now : ℕ) :
    (reconcileOne row now).Obeys (fun _ _ _ => True) OutboxOrder (fun _ _ => True) [] := by
  refine reconcileOne_obeys ?_ fun queue past _ => applyThroughOutbox_ordered
  intro past call aside
  unfold OutboxOrder
  split <;> first | cases aside | trivial

def Opened (past : EventLog) (world : World Provider) : Prop :=
  ∀ key fingerprint replay, (⟨.outbox (.beginIntent key fingerprint), .ok (.proceed replay)⟩ :
    Event Call.Res) ∈ past → IntentTable.fingerprintAt world.store.intents key = some fingerprint

theorem IntentTable.fingerprintAt_of_proceed {intents : IntentTable} {now : ℕ} {replay : Bool}
    (proceeded : (beginIntent intents key fingerprint now).1 = .proceed replay) :
    fingerprintAt (beginIntent intents key fingerprint now).2 key = some fingerprint := by
  unfold beginIntent fingerprintAt at *
  cases found : intents.find? key with
  | none => simp [Table.find?_insert]
  | some existing =>
    by_cases same : existing.paramsFingerprint = fingerprint
    · simp [same, found]
    · simp [found, same] at proceeded

/-- While nothing is swept, what is recorded under a key stays. -/
theorem fingerprintAt_kept (unswept : ∀ time, call ≠ .outbox (.reapIntents time))
    (held : fingerprintAt world.store.intents key = some fingerprint) :
    fingerprintAt (call.intentsAfter world) key = some fingerprint := by
  rcases call with _ | call
  case outbox =>
    cases call with
    | beginIntent opened posted =>
      refine (fingerprintAt_beginIntent ..).trans ?_
      rw [if_neg, held]
      rintro ⟨rfl, absent⟩
      simp [fingerprintAt, absent] at held
    | completeIntent => exact (fingerprintAt_completeIntent ..).trans held
    | getIntent => exact held
    | reapIntents time => exact absurd rfl (unswept time)
  all_goals exact held

theorem intents_execFaulty (answered : execFaulty platform thread call world answer world') :
    world'.store.intents = world.store.intents ∨
      world'.store.intents = call.intentsAfter world := by
  rcases answered with executed | ⟨_, rfl | ⟨lost, executed⟩⟩
  · exact .inr (intents_exec executed)
  · exact .inl rfl
  · exact .inr (intents_exec executed)

theorem Opened.step (opened : Opened past world) (ordered : OutboxOrder past call)
    (answered : execFaulty platform thread call world answer world') :
    Opened (past ++ [⟨call, answer⟩]) world' := by
  intro key fingerprint replay begun
  rcases List.mem_append.mp begun with begun | begun
  · have held := opened key fingerprint replay begun
    rcases intents_execFaulty answered with same | same
    · rwa [same]
    · rw [same]
      refine fingerprintAt_kept ?_ held
      rintro time rfl
      exact ordered
  · cases List.mem_singleton.mp begun
    rcases answered with executed | ⟨⟨_, _, failed⟩, _⟩
    · have outcome : (.ok (beginIntent world.store.intents key fingerprint
          world.now).1 : StoreResult IntentOutcome) = .ok (.proceed replay) :=
        congrArg Prod.fst (Option.some.inj executed)
      rw [intents_exec executed]
      exact fingerprintAt_of_proceed (Except.ok.inj outcome)
    · cases failed

theorem applied_after_apply (ordered : OutboxOrder past call)
    (answered : execFaulty platform thread call world answer world') :
    AppliedAfterApply past world world' := by
  intro key record found applied
  rcases intents_execFaulty answered with same | same
  · rw [same] at found
    exact .inl found
  · rw [same] at found
    by_cases completed : ∃ response, call = .outbox (.completeIntent key response)
    · rcases completed with ⟨response, rfl⟩
      exact .inr ordered
    · exact .inl (applied_of_intentsAfter found applied fun response same =>
        completed ⟨response, same⟩)

/--
Wherever calls fail, each apply of a pass finds the intent for what it applies and
comes after the posture was ensured, and an intent is marked as applied only after
its apply has succeeded.
-/
theorem outbox_precedes_apply (platform : Platform Provider) (thread : ℕ) (row : StoredCluster)
    (now : ℕ) (world : World Provider) :
    (reconcileOne row now).Always (execFaulty platform thread)
      (fun past call before after =>
        ApplyPrepared past call before ∧ AppliedAfterApply past before after) [] world := by
  refine (reconcileOne_ordered row now).always Opened (by simp [Opened]) ?_
  intro past call world answer world' ordered opened answered
  refine ⟨⟨?_, applied_after_apply ordered answered⟩, opened.step ordered answered⟩
  rintro id spec generation key queue rfl
  rcases ordered with ⟨named, ⟨replay, begun⟩, posture⟩
  exact ⟨named, opened _ _ _ begun, posture⟩

end Mobula
