import Mobula.Controller.Orphans
import Mobula.Foundation.Triples
import Mobula.Provision.Kueue

/-!
# Policies of clusters that have no row

A purge removes a row without deleting anything. When the backing cluster has vanished by
itself, no pass terminates it, and the policy outlives a purged row.
-/

namespace Mobula

open Foundation Prog Request EngineRouter KueueClient Ensures

variable {identity : Caller} {wanted : ClusterId} {now retention : ℕ}

/-- Backing clusters change and vanish by themselves; network policies do not. -/
structure BackendDrift (before seen : World Kubernetes) : Prop
    extends World.WildDrift before seen where
  policies : ∀ key : ObjectKey, key.kind = .networkPolicy →
    seen.provider.cluster.objects.find? key = before.provider.cluster.objects.find? key

theorem BackendDrift.refl (world : World Kubernetes) : BackendDrift world world :=
  ⟨⟨List.Perm.refl _, rfl, rfl, rfl⟩, fun _ _ => rfl⟩

theorem BackendDrift.trans {first second third : World Kubernetes}
    (left : BackendDrift first second) (right : BackendDrift second third) :
    BackendDrift first third where
  clusters := left.clusters.trans right.clusters
  intents := right.intents.trans left.intents
  policy := right.policy.trans left.policy
  admitLocks := right.admitLocks.trans left.admitLocks
  policies := fun key kind => (right.policies key kind).trans (left.policies key kind)

/-- What an event says about the policy of a cluster: added, deleted, or nothing. -/
def marksPolicy (id : ClusterId) : Event Call.Res → Option Bool
  | ⟨.backend (.apply wanted _ _ _ _), _⟩ => if wanted = id then some true else none
  | ⟨.backend (.terminate wanted), .ok _⟩ => if wanted = id then some false else none
  | ⟨.backend (.reapNetworkPolicies wanted), .ok _⟩ => if wanted = id then some false else none
  | _ => none

/-- The cluster was applied, and neither terminated nor reaped with success since. -/
def mayHavePolicy (id : ClusterId) (past : EventLog) : Bool :=
  ((past.filterMap (marksPolicy id)).getLast?).getD false

theorem mayHavePolicy_snoc {id : ClusterId} {past : EventLog}
    {event : Event Call.Res} :
    mayHavePolicy id (past ++ [event]) = (marksPolicy id event).getD (mayHavePolicy id past) := by
  rcases marks : marksPolicy id event with _ | mark <;> simp [mayHavePolicy, marks]

variable {surroundings : Surroundings} {router : EngineRouter}

section Provider

theorem policyAbsent_applyPool {id : ClusterId} {spec : PoolSpec}
    {allocations : List AllocationSpec} : Keeps (router.PolicyAbsent id) (backend
      (applyPool surroundings.weightText spec allocations)) := by
  have otherKind {key : ObjectKey} {fields : AppliedFields} (kind : key.kind ≠ .networkPolicy) :
      Keeps (LacksPolicy router.ray.namespaceName id) (Kube.patch key fields) := by
    refine Kube.holds_patch ?_
    intro same
    exact kind (congrArg ObjectKey.kind same)
  refine policyAbsent_backend ((otherKind (by simp [cohortKey])).bind ?_)
  intro _
  refine (keeps_forM fun flavor _ =>
    otherKind (by simp [flavorKey])).bind fun _ => ?_
  refine (otherKind (by simp [clusterQueueKey])).bind fun _ => ?_
  exact keeps_forM fun alloc _ => otherKind (by simp [localQueueKey])

theorem policyAbsent_deletePool {id : ClusterId} {pool : String} : Keeps (router.PolicyAbsent id)
      (backend (KueueClient.deletePool pool)) := by
  have deletes (kind : ObjectKind) : Keeps (LacksPolicy router.ray.namespaceName id)
      (deleteLabelled pool kind) :=
    (Kube.holds_list _).bind fun _ => keeps_forM fun _ _ => Kube.lacks_deleteOkGone
  exact policyAbsent_backend
    ((deletes .localQueue).bind fun _ => keeps_forM fun kind _ => deletes kind)

theorem accounts_policies : (kubernetesPlatform surroundings router).Accounts
    fun kubernetes id => ¬router.PolicyAbsent id kubernetes where
  apply := by
    intro id spec generation key queue kubernetes wanted held
    by_contra neither
    rw [not_or, not_not] at neither
    exact held (policyAbsent_apply spec generation queue (Ne.symm neither.1) _
      neither.2)
  posture := fun held absent => held (policyAbsent_ensureNamespacePosture _ absent)
  terminate := fun held absent => held (policyAbsent_terminate _ _ absent)
  reapNetworkPolicies := fun held absent =>
    held (policyAbsent_reapNetworkPolicies _ _ absent)
  suspend := fun held absent => held (policyAbsent_suspend _ _ absent)
  resume := fun held absent => held (policyAbsent_resume _ _ absent)
  applyPool := fun held absent => held (policyAbsent_applyPool _ absent)
  deletePool := fun held absent => held (policyAbsent_deletePool _ absent)

end Provider

section Runs

variable {thread : ℕ} {id : ClusterId} {past : EventLog} {call : Call}
  {world seen after : World Kubernetes} {answer : call.Res}

/-- A policy was added by an apply that nothing undid, and the applied cluster has a row. -/
structure Accounted (router : EngineRouter) (id : ClusterId) (past : EventLog)
    (world : World Kubernetes) : Prop where
  added : ¬router.PolicyAbsent id world.provider → mayHavePolicy id past = true
  stored : mayHavePolicy id past = true → Stored id world

theorem Accounted.drift (accounted : Accounted router id past world)
    (drifted : BackendDrift world seen) : Accounted router id past seen where
  added := by
    intro held
    refine accounted.added fun absent => held ?_
    rwa [EngineRouter.PolicyAbsent, LacksPolicy, Server.Lacks, drifted.policies _ rfl]
  stored := by
    intro marked
    rw [Stored, drifted.find?_eq id]
    exact accounted.stored marked

theorem policyAbsent_of_marks
    (answered : exec (kubernetesPlatform surroundings router) thread call world =
      some (answer, after))
    (marks : marksPolicy id ⟨call, answer⟩ = some false) :
    router.PolicyAbsent id after.provider := by
  unfold marksPolicy at marks
  split at marks
  · split at marks <;> cases marks
  · next wanted done same =>
      split at marks
      · next wantedEq =>
          cases same
          subst wantedEq
          simp [exec] at answered
          rw [← answered.2]
          exact policyAbsent_of_terminate (Prod.ext answered.1 rfl)
      · cases marks
  · next wanted done same =>
      split at marks
      · next wantedEq =>
          cases same
          subst wantedEq
          simp [exec] at answered
          rw [← answered.2]
          exact policyAbsent_of_reapNetworkPolicies (Prod.ext answered.1 rfl)
      · cases marks
  · cases marks

theorem marksPolicy_of_applies (applying : call.applies id = true) :
    marksPolicy id ⟨call, answer⟩ = some true := by
  unfold Call.applies at applying
  split at applying
  · simpa [marksPolicy] using applying
  · cases applying

theorem applies_of_marksPolicy (marks : marksPolicy id ⟨call, answer⟩ = some true) :
    call.applies id = true := by
  unfold marksPolicy at marks
  split at marks
  · next same =>
      cases same
      simpa [Call.applies] using marks
  · split at marks <;> cases marks
  · split at marks <;> cases marks
  · cases marks

/-- A call keeps the account if it applies stored clusters and removes only settled rows. -/
theorem Accounted.exec (accounted : Accounted router id past world)
    (answered : Mobula.exec (kubernetesPlatform surroundings router) thread call world =
      some (answer, after))
    (applies : call.applies id = true → Stored id world)
    (removes : call.removes id = true → mayHavePolicy id past = false) :
    Accounted router id (past ++ [⟨call, answer⟩]) after where
  added := by
    intro held
    rw [mayHavePolicy_snoc]
    rcases held_or_applied accounts_policies answered held with old | applying
    · rcases marks : marksPolicy id ⟨call, answer⟩ with _ | added
      · exact accounted.added old
      rcases added with _ | _
      · exact absurd (policyAbsent_of_marks answered marks) held
      · rfl
    · rw [marksPolicy_of_applies applying]
      rfl
  stored := by
    intro marked
    rw [mayHavePolicy_snoc] at marked
    have before : Stored id world := by
      cases marks : marksPolicy id ⟨call, answer⟩ with
      | none =>
        rw [marks] at marked
        exact accounted.stored marked
      | some added =>
        cases added with
        | true => exact applies (applies_of_marksPolicy marks)
        | false =>
          rw [marks] at marked
          cases marked
    refine stored_exec answered before ?_
    rintro rfl
    have unmarked : marksPolicy id ⟨.row (.removeCluster id), answer⟩ = none := rfl
    rw [unmarked, Option.getD_none, removes (by simp [Call.removes])] at marked
    cases marked

/-- A call keeps the account of a cluster that it neither applies nor removes. -/
theorem Accounted.exec_spared (accounted : Accounted router id past world)
    (drifted : BackendDrift world seen)
    (answered : Mobula.exec (kubernetesPlatform surroundings router) thread call seen =
      some (answer, after))
    (spared : call.applies id = false ∧ call.removes id = false) :
    Accounted router id (past ++ [⟨call, answer⟩]) after := by
  refine (accounted.drift drifted).exec answered ?_ ?_
  · intro applying
    rw [spared.1] at applying
    cases applying
  · intro removing
    rw [spared.2] at removing
    cases removing

/-- Started with a sound account of a cluster's policy, the program keeps it. -/
abbrev KeepsAccount {α : Type} (surroundings : Surroundings) (router : EngineRouter) (thread : ℕ)
    (id : ClusterId) (program : Program α) : Prop :=
  program.Ensures (exec (kubernetesPlatform surroundings router) thread) BackendDrift
    (Accounted router id) fun _ => Accounted router id

theorem keepsAccount_ret {α : Type} {value : α} :
    KeepsAccount surroundings router thread id (.ret value) :=
  .done

theorem keepsAccount_of_within {α : Type} {program : Program α} {permitted : Call → Prop}
    (within : program.Within permitted)
    (spares : ∀ call, permitted call → call.applies id = false ∧ call.removes id = false) :
    KeepsAccount surroundings router thread id program := by
  refine within.ensures ?_
  intro call past world seen answer after made accounted drifted answered
  exact accounted.exec_spared drifted answered (spares call made)

theorem spares_of_passive (passive : call.passive = true) :
    call.applies id = false ∧ call.removes id = false := by
  cases call with
  | backend call => cases passive
  | row call =>
    cases call with
    | removeCluster wanted => cases passive
    | _ => exact ⟨rfl, rfl⟩
  | _ => exact ⟨rfl, rfl⟩

theorem keepsAccount_invoke {α : Type} {rest : call.Res → Program α}
    (spared : call.applies id = false ∧ call.removes id = false)
    (next : ∀ answer, KeepsAccount surroundings router thread id (rest answer)) :
    KeepsAccount surroundings router thread id (invoke call >>= rest) := by
  refine invoke (fun _ => Accounted router id) ?_ next
  intro past world seen answer after accounted drifted answered
  exact accounted.exec_spared drifted answered spared

theorem reconcileAllAt_keepsAccount :
    KeepsAccount surroundings router thread id (reconcileAllAt now) := by
  refine invoke (fun answer past world => Accounted router id past world ∧
    ∀ rows, answer = .ok rows → ∀ row ∈ rows, Stored row.id world) ?_ ?_
  · intro past world seen answer after accounted drifted answered
    refine ⟨accounted.exec_spared drifted answered ⟨rfl, rfl⟩, ?_⟩
    simp [exec_list] at answered
    rcases answered with ⟨rfl, rfl⟩
    rintro rows listed row rowMem
    cases listed
    rw [Stored, Table.find?_of_mem rowMem]
    rfl
  · rintro (failure | rows)
    · exact ensures_ret fun _ _ accounted => accounted.1
    have loop : Ensures (exec (kubernetesPlatform surroundings router) thread) BackendDrift
        (fun past world => Accounted router id past world ∧ ∀ row ∈ rows, Stored row.id world)
        (reconcileRows now rows) fun _ past world =>
          Accounted router id past world ∧ ∀ row ∈ rows, Stored row.id world := by
      refine (reconcileRows_calls now rows).ensures ?_
      rintro call past world seen answer after ⟨row, rowMem, made⟩ ⟨accounted, listed⟩ drifted
        answered
      have stillListed (other : StoredCluster) (otherMem : other ∈ rows) :
          Stored other.id seen := by
        rw [Stored, drifted.find?_eq]
        exact listed other otherMem
      have unremoved (wanted : ClusterId) : call.removes wanted = false := by
        cases made with
        | passive passive => exact (spares_of_passive passive).2
        | _ => rfl
      refine ⟨(accounted.drift drifted).exec answered ?_ ?_, ?_⟩
      · intro applying
        cases made with
        | apply queue wanted =>
          have same : row.id = id := by simpa [Call.applies] using applying
          exact same ▸ stillListed row rowMem
        | passive passive =>
          rw [(spares_of_passive passive).1] at applying
          cases applying
        | _ => cases applying
      · rw [unremoved]
        intro impossible
        cases impossible
      · intro other otherMem
        exact stored_exec answered (stillListed other otherMem)
          (ne_removeCluster (unremoved other.id))
    refine loop.mono ?_ fun _ _ _ reached => reached.1
    rintro past world ⟨accounted, listed⟩
    exact ⟨accounted, listed rows rfl⟩

theorem reapTerminatedRows_keepsAccount {rows : List StoredCluster} :
    KeepsAccount surroundings router thread id (reapTerminatedRows now retention rows) := by
  induction rows with
  | nil => exact keepsAccount_ret
  | cons row rows ih =>
    unfold reapTerminatedRows
    split
    · refine invoke (fun answer past world => Accounted router id past world ∧
        (answer = .ok () → row.id = id → mayHavePolicy id past = false)) ?_ ?_
      · intro past world seen answer after accounted drifted answered
        refine ⟨accounted.exec_spared drifted answered ⟨rfl, rfl⟩, ?_⟩
        rintro rfl same
        rw [mayHavePolicy_snoc]
        simp [marksPolicy, same]
      · rintro (failure | done)
        · exact ih.mono (fun _ _ reached => reached.1) fun _ _ _ kept => kept
        refine invoke (fun _ => Accounted router id) ?_ ?_
        · rintro past world seen answer after ⟨accounted, settled⟩ drifted answered
          refine (accounted.drift drifted).exec answered (by simp [Call.applies]) ?_
          intro removing
          exact settled rfl (by simpa [Call.removes] using removing)
        · rintro (failure | removed)
          · exact keepsAccount_ret
          exact ih.bind fun _ => keepsAccount_ret
    · exact ih

theorem reapTerminated_keepsAccount (now retention : ℕ) :
    KeepsAccount surroundings router thread id (reapTerminated now retention) := by
  refine keepsAccount_invoke ⟨rfl, rfl⟩ ?_
  rintro (failure | rows)
  · exact keepsAccount_ret
  · exact reapTerminatedRows_keepsAccount

theorem reapExpired_keepsAccount (now : ℕ) :
    KeepsAccount surroundings router thread id (reapExpired now) := by
  refine keepsAccount_of_within (reapExpired_calls now) ?_
  intro call made
  cases made with
  | passive passive => exact spares_of_passive passive
  | expire wanted => exact ⟨rfl, rfl⟩

theorem tick_keepsAccount : KeepsAccount surroundings router thread id (tick retention) := by
  have done : KeepsAccount surroundings router thread id (pure () : Program Unit) :=
    keepsAccount_ret
  have before : KeepsAccount surroundings router thread id reapBeforeSweep := by
    refine keepsAccount_invoke ⟨rfl, rfl⟩ fun now => ?_
    refine (reapExpired_keepsAccount now).bind fun _ => ?_
    refine keepsAccount_invoke ⟨rfl, rfl⟩ fun later => ?_
    exact keepsAccount_invoke ⟨rfl, rfl⟩ fun _ => done
  have sweep : KeepsAccount surroundings router thread id (sweepTombstones retention) :=
    keepsAccount_invoke ⟨rfl, rfl⟩ fun now =>
      (reapTerminated_keepsAccount now retention).bind fun _ => done
  have reconcile : KeepsAccount surroundings router thread id reconcileAll :=
    keepsAccount_invoke ⟨rfl, rfl⟩ fun now => reconcileAllAt_keepsAccount
  exact before.bind fun _ => sweep.bind fun _ => reconcile.bind fun _ => done

/-- The account is sound, and the policy is known to be gone if a condition holds. -/
structure Settling (router : EngineRouter) (id : ClusterId) (condition : Prop)
    (past : EventLog) (world : World Kubernetes) : Prop
    extends Accounted router id past world where
  settled : condition → mayHavePolicy id past = false

theorem passive_keepsSettling {α : Type} {program : Program α} {condition : Prop}
    (passive : Passive program) :
    program.Ensures (exec (kubernetesPlatform surroundings router) thread) BackendDrift
      (Settling router id condition) fun _ => Settling router id condition := by
  refine passive.ensures ?_
  intro call past world seen answer after reads settling drifted answered
  have accounted :=
    settling.toAccounted.exec_spared drifted answered (spares_of_passive reads)
  refine ⟨accounted, ?_⟩
  intro holds
  have unmarked : marksPolicy id ⟨call, answer⟩ = none := by
    cases call with
    | backend call => cases reads
    | _ => rfl
  rw [mayHavePolicy_snoc, unmarked]
  exact settling.settled holds

/-- A deletion purges the row of the cluster: the row is its own, and a tombstone. -/
def Purges (id wanted : ClusterId) (purge : Bool) (row : Option StoredCluster) : Prop :=
  wanted = id ∧ purge = true ∧
    row.any (fun row => row.desired = .terminated ∧ observedGone row.observedState) = true

theorem purgeCluster_keepsAccount {row : StoredCluster} : (purgeCluster identity wanted row).Ensures
      (exec (kubernetesPlatform surroundings router) thread) BackendDrift
      (Settling router id (Purges id wanted true (some row))) fun _ => Accounted router id := by
  unfold purgeCluster
  split
  · next dead =>
      refine invoke (fun _ => Accounted router id) ?_ ?_
      · intro past world seen answer after settling drifted answered
        refine (settling.toAccounted.drift drifted).exec answered (by simp [Call.applies]) ?_
        intro removing
        refine settling.settled ⟨by simpa [Call.removes] using removing, rfl, ?_⟩
        simpa using dead
      · rintro (failure | _ | _)
        · exact keepsAccount_ret
        · exact keepsAccount_ret
        · exact keepsAccount_of_within answerWith_passive fun _ => spares_of_passive
  · exact ensures_ret fun _ _ settling => settling.toAccounted

theorem deleteCluster_keepsAccount {purge : Bool} {row : Option StoredCluster} :
    (deleteCluster identity wanted purge).Ensures
      (exec (kubernetesPlatform surroundings router) thread) BackendDrift
      (fun past world => Settling router id (Purges id wanted purge row) past world ∧
        world.store.clusters.find? wanted = row)
      fun _ => Accounted router id := by
  refine invoke (fun answer past world =>
    Settling router id (Purges id wanted purge row) past world ∧ answer = .ok row) ?_ ?_
  · rintro past world seen answer after ⟨settling, found⟩ drifted answered
    have accounted := settling.toAccounted.exec_spared drifted answered ⟨rfl, rfl⟩
    simp [exec_get, drifted.find?_eq, found] at answered
    refine ⟨⟨accounted, ?_⟩, answered.1.symm⟩
    intro holds
    rw [mayHavePolicy_snoc]
    exact settling.settled holds
  · rintro (failure | _ | found)
    · exact ensures_ret fun _ _ reached => reached.1.toAccounted
    · exact ensures_ret fun _ _ reached => reached.1.toAccounted
    · refine given (fun _ _ reached => reached.2) ?_
      intro same
      simp at same
      subst same
      have authorized : (authorizeScoped identity .write .cluster found.spec.project).Ensures
          (exec (kubernetesPlatform surroundings router) thread) BackendDrift
          (fun past world => Settling router id (Purges id wanted purge (some found)) past world ∧
            (.ok (some found) : StoreResult (Option StoredCluster)) = .ok (some found))
          fun _ => Settling router id (Purges id wanted purge (some found)) :=
        (passive_keepsSettling authorizeScoped_passive).mono
          (fun _ _ reached => reached.1) fun _ _ _ kept => kept
      refine authorized.bind ?_
      intro denial
      cases denial with
      | some response => exact ensures_ret fun _ _ settling => settling.toAccounted
      | none =>
        cases purge with
        | true => exact purgeCluster_keepsAccount
        | false =>
          refine invoke (fun _ => Accounted router id) ?_ ?_
          · intro past world seen answer after settling drifted answered
            exact settling.toAccounted.exec_spared drifted answered ⟨rfl, rfl⟩
          · intro marked
            cases marked with
            | ok done =>
              exact keepsAccount_of_within answerWith_passive fun _ =>
                spares_of_passive
            | error failure =>
              simp only
              split <;> exact keepsAccount_ret

theorem Actor.keepsAccount {seed : PolicyConfig} {actor : Actor}
    (kept : ∀ identity wanted purge, actor ≠ .delete identity wanted purge) :
    KeepsAccount surroundings router thread id (actor.program seed) := by
  have discarded {α : Type} {program : Program α}
      (keeps : KeepsAccount surroundings router thread id program) :
      KeepsAccount surroundings router thread id (discard program) :=
    keeps.bind fun _ => keepsAccount_ret
  cases actor with
  | create identity body =>
    refine discarded (keepsAccount_of_within createCluster_calls ?_)
    intro call made
    cases made with
    | passive passive => exact spares_of_passive passive
    | _ => exact ⟨rfl, rfl⟩
  | delete identity wanted purge => exact absurd rfl (kept identity wanted purge)
  | lifecycle identity wanted command =>
    refine discarded (keepsAccount_of_within lifecycleCommand_calls ?_)
    intro call made
    cases made with
    | passive passive => exact spares_of_passive passive
    | flip => exact ⟨rfl, rfl⟩
  | reapExpired now => exact discarded (reapExpired_keepsAccount now)
  | reapTerminated now retention => exact discarded (reapTerminated_keepsAccount now retention)
  | reapIntents appliedBefore =>
    exact keepsAccount_invoke ⟨rfl, rfl⟩ fun _ => keepsAccount_ret
  | reconcileAll now => exact discarded reconcileAllAt_keepsAccount
  | tick retention => exact tick_keepsAccount

abbrev PolicyRound := Round Call.Res (World Kubernetes) Actor Unit

/-- A tombstone is purged only when its policy is known to be gone. -/
def SettledPurges (rounds : List PolicyRound) : Prop :=
  ∀ earlier round later, rounds = earlier ++ round :: later →
    ∀ identity id, round.role = .delete identity id true →
      Purges id id true (round.before.store.clusters.find? id) →
      mayHavePolicy id (history earlier) = false

theorem SettledPurges.init {rounds : List PolicyRound} {round : PolicyRound}
    (settled : SettledPurges (rounds ++ [round])) : SettledPurges rounds := by
  intro earlier inner later split
  refine settled earlier inner (later ++ [round]) ?_
  rw [split]
  simp

variable {seed : PolicyConfig} {origin final : World Kubernetes} {rounds : List PolicyRound}

theorem accounted_of_run
    (run : Rounds (exec (kubernetesPlatform surroundings router) thread) BackendDrift
      (Actor.program seed) origin rounds final)
    (clean : router.PolicyAbsent id origin.provider) (settled : SettledPurges rounds) :
    Accounted router id (history rounds) final := by
  induction run with
  | nil => exact ⟨fun held => absurd clean held, by simp [mayHavePolicy, history]⟩
  | @snoc rounds state events value final role earlier ran ih =>
    have accounted := ih settled.init
    rw [history_append, history_singleton]
    by_cases deletes : ∃ identity wanted purge, role = .delete identity wanted purge
    · rcases deletes with ⟨identity, wanted, purge, rfl⟩
      have settling : Settling router id
          (Purges id wanted purge (state.store.clusters.find? wanted)) (history rounds)
          state := by
        refine ⟨accounted, ?_⟩
        rintro ⟨rfl, rfl, dead⟩
        exact settled rounds _ [] rfl identity wanted rfl ⟨rfl, rfl, dead⟩
      rcases ran.of_bind with ⟨_, _, _, _, rfl, deleted, ended⟩
      cases ended
      simp
      exact deleteCluster_keepsAccount _ _ _ _ _ ⟨settling, rfl⟩ deleted
    · have kept : KeepsAccount surroundings router thread id (role.program seed) :=
        Actor.keepsAccount fun identity wanted purge same =>
          deletes ⟨identity, wanted, purge, same⟩
      exact kept _ _ _ _ _ accounted ran

/--
Whenever a row is removed, the cluster has no policy, in every run in which
tombstones are purged only after their policies are known to be gone.
-/
theorem no_leaked_policies
    (run : Rounds (exec (kubernetesPlatform surroundings router) thread) BackendDrift
      (Actor.program seed) origin rounds final)
    (clean : ∀ id, router.PolicyAbsent id origin.provider) (settled : SettledPurges rounds) :
    ∀ round ∈ rounds, ∀ id, Stored id round.before → ¬Stored id round.after →
      router.PolicyAbsent id round.after.provider := by
  induction run with
  | nil => simp
  | @snoc rounds state events value final role earlier ran ih =>
    intro round roundMem id stored removed
    rcases List.mem_append.mp roundMem with old | new
    · exact ih settled.init round old id stored removed
    · simp at new
      subst new
      have accounted := accounted_of_run (.snoc role earlier ran) (clean id) settled
      by_contra held
      exact removed (accounted.stored (accounted.added held))

end Runs

theorem freshControlPlane_clean (id : ClusterId) :
    oneNamespace.PolicyAbsent id freshControlPlane.provider := by
  refine Table.find?_eq_none_iff.mpr ?_
  intro object objectMem same
  have kind : object.key.kind = .networkPolicy := congrArg ObjectKey.kind same
  rcases Table.mem_insert.mp objectMem with rfl | ⟨impossible, _⟩
  · cases kind
  · cases impossible

/-- Requests and passes on the fresh control plane, without drift. -/
def servedBy (actors : List Actor) (world : World Kubernetes) :
    Option (List PolicyRound × World Kubernetes) :=
  executeRounds (exec plainPlatform 0)
    (Actor.program noPolicy) actors world

/-- Whether the purges among the rounds are settled, after the calls of `past`. -/
def settledAfter : EventLog → List PolicyRound → Bool
  | _, [] => true
  | past, round :: later =>
    (match round.role with
      | .delete _ id true =>
        !(round.before.store.clusters.find? id).any (fun row =>
          row.desired = .terminated ∧ observedGone row.observedState) ||
          !mayHavePolicy id past
      | _ => true) &&
      settledAfter (past ++ round.events) later

theorem settledPurges_of_settledAfter {rounds : List PolicyRound}
    (settled : settledAfter [] rounds = true) : SettledPurges rounds := by
  have settledAt : ∀ (earlier later : List PolicyRound) (past : EventLog)
      (round : PolicyRound), settledAfter past (earlier ++ round :: later) = true →
        ∀ identity id, round.role = .delete identity id true →
          Purges id id true (round.before.store.clusters.find? id) →
          mayHavePolicy id (past ++ history earlier) = false := by
    intro earlier later
    induction earlier with
    | nil =>
      intro past round checked identity id role purges
      simp only [List.nil_append, settledAfter, role, Bool.and_eq_true] at checked
      rw [purges.2.2] at checked
      simpa [history] using checked.1
    | cons first earlier ih =>
      intro past round checked identity id role purges
      simp [settledAfter] at checked
      have rest := ih _ round checked.2 identity id role purges
      simp at rest
      simpa [history] using rest
  intro earlier round later split identity id role purges
  rw [split] at settled
  simpa using settledAt earlier later [] round settled identity id role purges

def removesRow (id : ClusterId) (round : PolicyRound) : Bool :=
  (round.before.store.clusters.find? id).isSome && (round.after.store.clusters.find? id).isNone

theorem stored_of_removesRow {id : ClusterId} {round : PolicyRound}
    (removed : removesRow id round = true) : Stored id round.before ∧ ¬Stored id round.after := by
  simp [removesRow] at removed
  exact ⟨removed.1, by simp [Stored, removed.2]⟩

theorem no_leaked_policies_after_termination :
    ∃ rounds final,
      Rounds (exec plainPlatform 0) BackendDrift
        (Actor.program noPolicy) freshControlPlane rounds final ∧
      (∀ id, oneNamespace.PolicyAbsent id freshControlPlane.provider) ∧ SettledPurges rounds ∧
      ∃ round ∈ rounds, Stored "c1" round.before ∧ ¬Stored "c1" round.after ∧
        oneNamespace.PolicyAbsent "c1" round.after.provider := by
  have outcome : (servedBy [.create none ⟨"c1", headOnly "p"⟩, .reconcileAll 0,
      .delete none "c1" false, .reconcileAll 0, .delete none "c1" true] freshControlPlane).map
        (fun served => (settledAfter [] served.1, served.1.any (removesRow "c1"))) =
          some (true, true) := by
    decide +kernel
  rw [Option.map_eq_some_iff] at outcome
  rcases outcome with ⟨⟨rounds, final⟩, served, outcome⟩
  simp at outcome
  rcases outcome with ⟨checked, round, roundMem, removed⟩
  rcases stored_of_removesRow removed with ⟨stored, gone⟩
  have run := rounds_alone BackendDrift.refl served
  have settled := settledPurges_of_settledAfter checked
  exact ⟨rounds, final, run, freshControlPlane_clean, settled, round, roundMem, stored, gone,
    no_leaked_policies run freshControlPlane_clean settled round roundMem "c1" stored gone⟩

def vanish (id : ClusterId) (world : World Kubernetes) : World Kubernetes :=
  { world with
    provider.cluster.objects := world.provider.cluster.objects.erase (oneNamespace.ray.crKey id) }

theorem vanish_drifts {id : ClusterId} {world : World Kubernetes} :
    BackendDrift world (vanish id world) := by
  refine ⟨⟨List.Perm.refl _, rfl, rfl, rfl⟩, ?_⟩
  intro key kind
  refine (Table.find?_erase _ _ key).trans (if_neg ?_)
  rintro rfl
  cases kind

theorem purge_leaks_policy :
    ∃ rounds final,
      Rounds (exec plainPlatform 0) BackendDrift
        (Actor.program noPolicy) freshControlPlane rounds final ∧
      (∀ id, oneNamespace.PolicyAbsent id freshControlPlane.provider) ∧
      ∃ round ∈ rounds, Stored "c1" round.before ∧ ¬Stored "c1" round.after ∧
        ¬oneNamespace.PolicyAbsent "c1" round.after.provider := by
  have outcome : ((servedBy [.create none ⟨"c1", headOnly "p"⟩, .reconcileAll 0]
      freshControlPlane).bind fun created =>
        ((Actor.program noPolicy (.delete none "c1" false)).eval
          (exec plainPlatform 0)
          (vanish "c1" created.2)).bind fun deleted =>
            (servedBy [.reconcileAll 0, .delete none "c1" true] deleted.state).map fun purged =>
              (deleted.events.isEmpty, purged.1.any fun round => removesRow "c1" round &&
                (round.after.provider.cluster.objects.find?
                  (policyKey "ray" (clusterAllowPolicyName "c1"))).isSome)) =
                    some (false, true) := by
    decide +kernel
  rw [Option.bind_eq_some_iff] at outcome
  rcases outcome with ⟨⟨created, world⟩, createdRan, outcome⟩
  rw [Option.bind_eq_some_iff] at outcome
  rcases outcome with ⟨deleted, deletedRan, outcome⟩
  rw [Option.map_eq_some_iff] at outcome
  rcases outcome with ⟨⟨purged, final⟩, purgedRan, outcome⟩
  simp at outcome
  rcases outcome with ⟨called, round, roundMem, removed, held⟩
  rcases stored_of_removesRow removed with ⟨stored, gone⟩
  have deletion := (amid_of_eval BackendDrift.refl deletedRan).after (by simpa using called)
    vanish_drifts BackendDrift.trans
  have run := (Rounds.snoc _ (rounds_alone BackendDrift.refl createdRan) deletion).trans
    (rounds_alone BackendDrift.refl purgedRan)
  refine ⟨_, _, run, freshControlPlane_clean, round, by simp [roundMem], stored, gone, ?_⟩
  intro absent
  rw [show round.after.provider.cluster.objects.find?
    (policyKey "ray" (clusterAllowPolicyName "c1")) = none from absent] at held
  cases held

end Mobula
