import Mobula.Api.Reach
import Mobula.Foundation.Scheduler
import Mobula.Foundation.Serial
import Mobula.Provision.Demo

/-!
# The control plane as a system of threads

Requests and passes of the reconcile loop run as threads over one world, one call at a time.
Between two calls the environment may change whatever no cluster request or pass writes, and
the order in which a listing visits the rows of the store, which is that of a hash map.
-/

namespace Mobula

open Foundation

/-- What runs at the same time: requests, passes and sweeps. -/
inductive Actor where
  | create (identity : Caller) (body : CreateCluster)
  | delete (identity : Caller) (id : ClusterId) (purge : Bool)
  | lifecycle (identity : Caller) (id : ClusterId) (command : LifecycleCommand)
  | reapExpired (now : ℕ)
  | reapTerminated (now retention : ℕ)
  | reapIntents (appliedBefore : ℕ)
  | reconcileAll (now : ℕ)
  | tick (retention : ℕ)

/-- A call made by one of the actors. -/
abbrev PlaneStep (Provider : Type) := Step Call.Res (World Provider) Actor

abbrev PlaneTrace (Provider : Type) := List (PlaneStep Provider)

abbrev PlaneConfig (Provider : Type) := Config Call.Res (World Provider) Actor

namespace Actor

def discard {α : Type} (program : Program α) : Program Unit := do
  let _ ← program
  return ()

theorem discard_within {α : Type} {program : Program α} {permitted : Call → Prop}
    (within : program.Within permitted) : (discard program).Within permitted :=
  within.bind fun _ => trivial

theorem ran_of_discard {α S : Type} {program : Program α}
    {exec : (call : Call) → S → Option (call.Res × S)} {state final : S}
    (ran : (discard program).Yields exec state () final) :
    ∃ value, program.Yields exec state value final := by
  rcases ran.of_bind with ⟨value, middle, first, second⟩
  rw [second.of_ret.2]
  exact ⟨value, first⟩

theorem discard_obeys {α : Type} {program : Program α}
    {assumed : EventLog → (call : Call) → call.Res → Prop}
    {allowed : EventLog → Call → Prop} {past : EventLog}
    (obeys : program.Obeys assumed allowed (fun _ _ => True) past) :
    (discard program).Obeys assumed allowed (fun _ _ => True) past :=
  obeys.bind fun _ _ _ => trivial

def program (seed : PolicyConfig) : Actor → Program Unit
  | .create identity body => discard (createCluster seed identity body)
  | .delete identity id purge => discard (deleteCluster identity id purge)
  | .lifecycle identity id command => discard (lifecycleCommand identity id command)
  | .reapExpired now => discard (Mobula.reapExpired now)
  | .reapTerminated now retention => discard (Mobula.reapTerminated now retention)
  | .reapIntents appliedBefore => discard (Calls.reapIntents appliedBefore)
  | .reconcileAll now => discard (reconcileAllAt now)
  | .tick retention => Mobula.tick retention

def calls (seed : PolicyConfig) : Actor → Call → Prop
  | .create identity body => CreateCall seed body.id (body.ownedSpec identity)
  | .delete _ id purge => DeleteCall id purge
  | .lifecycle _ id command => LifecycleCall id command
  | .reapExpired _ => ExpireCall
  | .reapTerminated now retention => SweepCall now retention
  | .reapIntents appliedBefore => fun call => call = .outbox (.reapIntents appliedBefore)
  | .reconcileAll _ => LoopCall
  | .tick retention => TickCall retention

theorem program_calls (seed : PolicyConfig) (actor : Actor) :
    (actor.program seed).Within (actor.calls seed) := by
  cases actor with
  | create identity body => exact discard_within createCluster_calls
  | delete identity id purge => exact discard_within deleteCluster_calls
  | lifecycle identity id command =>
    exact discard_within lifecycleCommand_calls
  | reapExpired now => exact discard_within (reapExpired_calls now)
  | reapTerminated now retention => exact discard_within (reapTerminated_calls now retention)
  | reapIntents appliedBefore => exact discard_within (Prog.within_invoke rfl)
  | reconcileAll now => exact discard_within (reconcileAllAt_calls now)
  | tick retention => exact tick_calls retention

/-- The calls of any pass, whatever it is about. -/
inductive PassCall : Call → Prop
  | passive {call : Call} (passive : call.passive = true) : PassCall call
  | reconcile {call : Call} (row : StoredCluster) (made : ReconcileCall row call) : PassCall call
  | expire (id : ClusterId) : PassCall (.row (.setDesired id .terminated))
  | reapIntents (appliedBefore : ℕ) : PassCall (.outbox (.reapIntents appliedBefore))
  | reapPolicies (id : ClusterId) : PassCall (.backend (.reapNetworkPolicies id))
  | remove (id : ClusterId) : PassCall (.row (.removeCluster id))

theorem PassCall.ofExpire {call : Call} (made : ExpireCall call) : PassCall call := by
  cases made with
  | passive reads => exact .passive reads
  | expire id => exact .expire id

theorem PassCall.ofSweep {now retention : ℕ} {call : Call} (made : SweepCall now retention call) :
    PassCall call := by
  cases made with
  | passive reads => exact .passive reads
  | tombstone row made =>
    cases made with
    | reapPolicies dead => exact .reapPolicies row.id
    | remove dead => exact .remove row.id

theorem PassCall.ofLoop {call : Call} (made : LoopCall call) : PassCall call := by
  cases made with
  | passive reads => exact .passive reads
  | reconcile row made => exact .reconcile row made

theorem PassCall.ofTick {retention : ℕ} {call : Call} (made : TickCall retention call) :
    PassCall call := by
  cases made with
  | expire made => exact .ofExpire made
  | reapIntents appliedBefore made =>
    subst made
    exact .reapIntents appliedBefore
  | sweep now made => exact .ofSweep made
  | reconcile made => exact .ofLoop made

/-- Passes belong to the loop, which can be stopped at any await; requests run to their end. -/
def isPass : Actor → Bool
  | .create _ _ => false
  | .delete _ _ _ => false
  | .lifecycle _ _ _ => false
  | .reapExpired _ => true
  | .reapTerminated _ _ => true
  | .reapIntents _ => true
  | .reconcileAll _ => true
  | .tick _ => true

theorem passCall_of_isPass {seed : PolicyConfig} {actor : Actor} {call : Call}
    (pass : actor.isPass = true) (made : actor.calls seed call) : PassCall call := by
  cases actor with
  | create identity body => cases pass
  | delete identity id purge => cases pass
  | lifecycle identity id command => cases pass
  | reapExpired now => exact .ofExpire made
  | reapTerminated now retention => exact .ofSweep made
  | reapIntents appliedBefore =>
    cases made
    exact .reapIntents appliedBefore
  | reconcileAll now => exact .ofLoop made
  | tick retention => exact .ofTick made

end Actor

variable {Provider : Type}

/-- What changes between two calls without being called for; backing clusters may, too. -/
structure World.WildDrift (before after : World Provider) : Prop where
  clusters : Table.Reordered before.store.clusters after.store.clusters
  intents : after.store.intents = before.store.intents
  policy : after.store.policy = before.store.policy
  admitLocks : after.admitLocks = before.admitLocks

theorem World.WildDrift.find?_eq {before after : World Provider}
    (drifted : before.WildDrift after) (id : ClusterId) :
    after.store.clusters.find? id = before.store.clusters.find? id :=
  (Table.find?_reordered drifted.clusters id).symm

/-- The same for a provider that changes only when it is called. -/
structure World.Drift (before after : World Provider) : Prop
    extends World.WildDrift before after where
  provider : after.provider = before.provider

/-- The threads that may be started, over an arbitrary platform. -/
def controlPlane (platform : Platform Provider) (seed : PolicyConfig)
    (admits : PlaneConfig Provider → Actor → Prop) :
    System Call.Res (World Provider) Actor where
  exec := exec platform
  behaviour := Actor.program seed
  admits := admits
  stoppable := fun actor => actor.isPass = true
  drift := World.Drift

/-- The control plane of the demo under a schedule of threads. -/
def demoTraffic (platform : Platform DemoClusters) (schedule : List (Move Actor)) (store : Store) :
    Option (Progress Call.Res (World DemoClusters) Actor) :=
  (controlPlane platform noPolicy fun _ _ => True).execute (fun _ => true) schedule
    (demoWorld store)

/-- The actors one after the other. -/
def serialPlane (platform : Platform Provider) (seed : PolicyConfig) :
    SerialSystem Call.Res (World Provider) Actor where
  exec := exec platform 0
  behaviour := Actor.program seed
  drift := World.WildDrift

end Mobula
