import Mobula.Controller.Reconcile

/-!
# Passes running alone

What the parts of a pass do when nothing else runs between their calls.
-/

namespace Mobula

open Foundation Prog IntentTable

variable {Provider : Type} {platform : Platform Provider} {thread : ℕ}
  {world world' world'' : World Provider}

/-- Run alone from this world, the program returns this value. -/
abbrev Runs (platform : Platform Provider) (thread : ℕ) {α : Type} (program : Program α)
    (world : World Provider) (value : α) (world' : World Provider) : Prop :=
  program.Yields (exec platform thread) world value world'

def Store.queueIn (store : Store) (project : String) : List StoredPool → Option QueueAssignment
  | [] => none
  | pool :: pools =>
    match (store.allocationsOf pool.name).find? (·.project = project) with
    | some allocation => some ⟨allocation.project, pool.spec.elastic⟩
    | none => store.queueIn project pools

/-- The queue of the first pool with an allocation for the project. -/
def Store.queueOf (store : Store) (project : String) : Option QueueAssignment :=
  store.queueIn project store.pools.rows

theorem queueAssignmentIn_runs {project : String} {pools : List StoredPool} :
    Runs platform thread (queueAssignmentIn project pools) world
      (.ok (world.store.queueIn project pools)) world := by
  induction pools with
  | nil => exact .ret
  | cons pool pools ih =>
    apply Yields.invoke exec_listAllocations
    unfold Store.queueIn
    cases found : (world.store.allocationsOf pool.name).find? (·.project = project) with
    | some allocation =>
      simp only [found]
      exact .ret
    | none =>
      simp only [found]
      exact ih

theorem queueAssignmentForProject_runs {project : String} :
    Runs platform thread (queueAssignmentForProject project) world
      (.ok (world.store.queueOf project)) world :=
  Yields.invoke exec_listPools queueAssignmentIn_runs

theorem queueOf_eq_none {store : Store} {project : String}
    (unallocated : ∀ allocation ∈ store.allocations.rows, allocation.project ≠ project) :
    store.queueOf project = none := by
  have inPools (pools : List StoredPool) : store.queueIn project pools = none := by
    induction pools with
    | nil => rfl
    | cons pool pools ih =>
      have nothing : (store.allocationsOf pool.name).find? (·.project = project) = none := by
        rw [List.find?_eq_none]
        intro allocation allocationMem
        simpa using unallocated allocation (List.mem_filter.mp allocationMem).1
      rw [Store.queueIn, nothing]
      exact ih
  exact inPools _

/-- The rate limiter would let an apply through. -/
def World.grantsToken (world : World Provider) (now : ℕ) : Bool :=
  match world.tokens with
  | none => true
  | some bucket => (bucket.tryTake now).1

variable (platform thread)

theorem takeToken_runs {now : ℕ} (granted : world.grantsToken now = true) :
    ∃ world', Runs platform thread (Calls.takeToken now) world true world' ∧
      world'.store = world.store ∧ world'.provider = world.provider := by
  unfold World.grantsToken at granted
  cases bucket : world.tokens with
  | none =>
    refine ⟨world, yields_invoke ?_, rfl, rfl⟩
    simp [exec, execProcess, bucket]
  | some held =>
    rw [bucket] at granted
    refine ⟨{ world with tokens := some (held.tryTake now).2 }, yields_invoke ?_, rfl, rfl⟩
    have taken : (held.tryTake now).1 = true := granted
    simp [exec, execProcess, bucket, taken]

theorem beginIntent_proceeds {row : StoredCluster} (agrees : Agrees row world) (now : ℕ) :
    ∃ replay, (beginIntent world.store.intents row.intentKey
      (paramsFingerprint row.spec) now).1 = .proceed replay := by
  unfold beginIntent
  rcases found : world.store.intents.find? row.intentKey with _ | existing
  · exact ⟨false, rfl⟩
  have same := agrees existing.paramsFingerprint (by simp [fingerprintAt, found])
  exact ⟨true, by simp [same]⟩

theorem applyThroughOutbox_runs {row : StoredCluster} {queue : Option QueueAssignment}
    {response : ApplyResponse} {posed applied : Provider} (agrees : Agrees row world)
    (posture : platform.ensureNamespacePosture world.provider = (.ok (), posed))
    (apply : platform.apply row.id row.spec row.generation row.intentKey queue posed =
      (.ok response, applied)) :
    ∃ world', Runs platform thread (applyThroughOutbox row queue) world
        (.ok (.settle .applied none)) world' ∧
      world'.store.clusters = world.store.clusters ∧ world'.provider = applied := by
  rcases beginIntent_proceeds agrees world.now with ⟨replay, proceeds⟩
  let begun := (world.afterReading true).setIntents (beginIntent world.store.intents
    row.intentKey (paramsFingerprint row.spec) world.now).2
  have began : exec platform thread
      (.outbox (.beginIntent row.intentKey (paramsFingerprint row.spec))) world =
      some (.ok (.proceed replay), begun) := by
    rw [← proceeds]
    rfl
  have ensured : exec platform thread (.backend .ensureNamespacePosture) begun =
      some (.ok (), { begun with provider := posed }) := by
    have asked : exec platform thread (.backend .ensureNamespacePosture) begun =
      some ((platform.ensureNamespacePosture world.provider).1,
        { begun with provider := (platform.ensureNamespacePosture world.provider).2 }) := rfl
    rw [asked, posture]
  have actuated : exec platform thread
      (.backend (.apply row.id row.spec row.generation row.intentKey queue))
      { begun with provider := posed } =
      some (.ok response, { begun with provider := applied }) := by
    simp only [exec, execBackend, apply]
  let finished := ({ begun with provider := applied }.afterReading true).setIntents
    (completeIntent begun.store.intents row.intentKey response.toJson.compress
      begun.now)
  have completed : exec platform thread
      (.outbox (.completeIntent row.intentKey response.toJson.compress))
      { begun with provider := applied } = some (.ok (), finished) := rfl
  refine ⟨finished, ?_, rfl, rfl⟩
  apply Yields.invoke began
  apply Yields.invoke ensured
  apply Yields.invoke actuated
  apply Yields.invoke completed
  exact .ret

end Mobula
