import Mobula.Provision.Demo
import Mobula.Provision.EngineRouting
import Mobula.Provision.Kueue

/-!
# Runs of the engine router

Between two calls the control plane may restart, which empties the memory of the router, and
objects may change or go away. A request whose answer was lost may have created its object
nonetheless.
-/

namespace Mobula

open Foundation Request Server

namespace EngineRouter

/-- What may happen between two calls: memory is lost, not invented, and an object that appears
was applied with the engine that the router remembers. -/
structure Drift (router : EngineRouter) (lost : Engine → ClusterId → Prop)
    (before after : Kubernetes) : Prop where
  engines : ∀ id, after.engines id = none ∨ after.engines id = before.engines id
  objects : ∀ engine id, router.Holds engine id after →
    router.Holds engine id before ∨ (lost engine id ∧ before.engines id = some engine)

/-- The states of the runs in which every call is allowed where it is made. -/
inductive RouterRun (router : EngineRouter) (lost : Engine → ClusterId → Prop)
    (allowed : Kubernetes → RouterCall → Prop) (start : Kubernetes) : Kubernetes → Prop
  | start : RouterRun router lost allowed start start
  | call {before : Kubernetes} {call : RouterCall}
      (ran : RouterRun router lost allowed start before) (permitted : allowed before call) :
      RouterRun router lost allowed start ((router.request call).send before).2
  | drift {before after : Kubernetes} (ran : RouterRun router lost allowed start before)
      (drifted : Drift router lost before after) : RouterRun router lost allowed start after

/-- The engine of a Dask cluster is looked up by a probe that is refused. -/
def Misprobes (router : EngineRouter) (kubernetes : Kubernetes) (call : RouterCall) : Prop :=
  ∃ id, call.resolves = some id ∧ kubernetes.engines id = none ∧
    router.Holds .dask id kubernetes ∧ kubernetes.cluster.refusals 0 ≠ none

/-- What a call creates is the only object of its cluster. -/
def Sole (router : EngineRouter) (kubernetes : Kubernetes) (call : RouterCall) : Prop :=
  ∀ engine id, call.creates = some (engine, id) →
    ∀ other, router.Holds other id kubernetes → other = engine

/-- A cluster has one object, and the router remembers no engine other than its. -/
structure Settled (router : EngineRouter) (kubernetes : Kubernetes) : Prop where
  single : ∀ {engine other : Engine} {id : ClusterId}, router.Holds engine id kubernetes →
    router.Holds other id kubernetes → engine = other
  known : ∀ {engine remembered : Engine} {id : ClusterId}, router.Holds engine id kubernetes →
    kubernetes.engines id = some remembered → remembered = engine

variable {router : EngineRouter} {engine other : Engine} {id : ClusterId}
  {start before after kubernetes : Kubernetes} {call : RouterCall}
  {lost : Engine → ClusterId → Prop} {allowed : Kubernetes → RouterCall → Prop}

theorem Recalls.settled {remembered : Option Engine}
    (recalls : Recalls router before call id remembered)
    (settled : Settled router before) (probes : ¬Misprobes router before call)
    (sole : Sole router before call)
    (held : router.Holds engine id before ∨ call.creates = some (engine, id))
    (isRemembered : remembered = some other) : other = engine := by
  cases recalls with
  | kept others =>
    rcases held with held | created
    · exact settled.known held isRemembered
    · exact absurd created (others engine)
  | applied created =>
    cases isRemembered
    rcases held with held | alsoCreated
    · exact (sole _ _ created _ held).symm
    · simpa [created] using alsoCreated
  | guessed resolves cold refused =>
    cases isRemembered
    cases engine with
    | ray => rfl
    | dask =>
      rcases held with held | created
      · exact absurd ⟨id, resolves, cold, held, refused⟩ probes
      · cases call <;> cases resolves <;> cases created
  | found holds others =>
    cases isRemembered
    rcases held with held | created
    · exact settled.single holds held
    · rw [others] at created
      cases created
  | absent misses others =>
    cases isRemembered
    cases engine with
    | ray => rfl
    | dask =>
      rcases held with held | created
      · exact absurd held (not_holds_iff.mpr misses)
      · rw [others] at created
        cases created
  | listed holds others =>
    cases isRemembered
    rcases held with held | created
    · exact settled.single holds held
    · rw [others] at created
      cases created

theorem Settled.step (settled : Settled router before) (probes : ¬Misprobes router before call)
    (sole : Sole router before call) : Settled router ((router.request call).send before).2 where
  single := by
    intro engine other id held otherHeld
    rcases held_before held with earlier | created
    · rcases held_before otherHeld with otherEarlier | otherCreated
      · exact settled.single earlier otherEarlier
      · exact sole other id otherCreated engine earlier
    · rcases held_before otherHeld with otherEarlier | otherCreated
      · exact (sole engine id created other otherEarlier).symm
      · simpa [created] using otherCreated
  known := by
    intro engine remembered id held isRemembered
    exact (recalls_request call before id).settled settled probes sole (held_before held)
      isRemembered

theorem Settled.drift (settled : Settled router before) (drifted : Drift router lost before after) :
    Settled router after := by
  have known {engine : Engine} {id : ClusterId} (held : router.Holds engine id after)
      {remembered : Engine} (isRemembered : before.engines id = some remembered) :
      remembered = engine := by
    rcases drifted.objects engine id held with earlier | ⟨_, applied⟩
    · exact settled.known earlier isRemembered
    · simpa [isRemembered] using applied
  refine ⟨?_, ?_⟩
  · intro engine other id held otherHeld
    rcases drifted.objects engine id held with earlier | ⟨_, applied⟩
    · rcases drifted.objects other id otherHeld with otherEarlier | ⟨_, otherApplied⟩
      · exact settled.single earlier otherEarlier
      · exact (settled.known earlier otherApplied).symm
    · exact known otherHeld applied
  · intro engine remembered id held isRemembered
    rcases drifted.engines id with forgotten | kept
    · rw [forgotten] at isRemembered
      cases isRemembered
    · exact known held (kept ▸ isRemembered)

/-- Without refused probes and second objects the router stays settled. -/
theorem RouterRun.settled (ran : RouterRun router lost allowed start kubernetes)
    (settled : Settled router start) (careful : ∀ {before : Kubernetes} {call : RouterCall},
      RouterRun router lost allowed start before → allowed before call →
      ¬Misprobes router before call ∧ Sole router before call) : Settled router kubernetes := by
  induction ran with
  | start => exact settled
  | call ran permitted ih => exact ih.step (careful ran permitted).1 (careful ran permitted).2
  | drift ran drifted ih => exact ih.drift drifted

/-- The same objects, and no request refused. -/
def calmed (kubernetes : Kubernetes) : Kubernetes :=
  { kubernetes with cluster := calm kubernetes.cluster.objects }

/-- While the backends answer, an existing object is observed, and deleted when it should be. -/
def Reliable (router : EngineRouter) (kubernetes : Kubernetes) : Prop :=
  ∀ engine id, router.Holds engine id kubernetes →
    (∀ missing, ((router.observe id).send (calmed kubernetes)).1 ≠ .error (.notFound missing)) ∧
      ((router.terminate id).send (calmed kubernetes)).1 = .ok () ∧
      ¬router.Holds engine id ((router.terminate id).send (calmed kubernetes)).2

theorem daskObserve_calm (dask : DaskProvisioner) (id : ClusterId)
    (objects : Table KubeObject.key) :
    ((dask.observe id).send (calm objects)).2 = calm objects := by
  unfold DaskProvisioner.observe
  rw [send_bind, send_adapt, getOpt, send_serve]
  rcases found : objects.find? (dask.crKey id) with _ | object
  · simp [calm, found, Except.mapError]
  simp only [calm, found, Except.mapError]
  rfl

theorem Settled.send_engineOf (settled : Settled router kubernetes)
    (held : router.Holds engine id kubernetes) :
    ∃ after, (router.engineOf id).send (calmed kubernetes) = (.ok engine, after) ∧
      after.cluster = calm kubernetes.cluster.objects := by
  cases remembered : kubernetes.engines id with
  | some known =>
    rw [settled.known held remembered] at remembered
    exact ⟨_, send_engineOf_known router remembered, rfl⟩
  | none =>
    have cold : (calmed kubernetes).engines id = none := remembered
    have probe := router.dask.observe_probe id (calmed kubernetes).cluster
    rw [send_engineOf_cold router cold]
    refine ⟨_, Prod.ext ?_ rfl, daskObserve_calm router.dask id kubernetes.cluster.objects⟩
    generalize ((router.dask.observe id).send (calmed kubernetes).cluster).1 = probed at probe
    cases probe with
    | refused refused => exact absurd rfl refused
    | absent _ misses =>
      cases engine with
      | ray => rfl
      | dask => exact absurd held (not_holds_iff.mpr misses)
    | found _ found =>
      have dask : router.Holds .dask id kubernetes := Option.isSome_of_eq_some found
      rw [settled.single held dask]
      rfl

theorem send_deleteOkGone_calm (objects : Table KubeObject.key) (key : ObjectKey) :
    (Kube.deleteOkGone key).send (calm objects) =
      (.ok (), calm (objects.erase key)) := by
  rw [Kube.deleteOkGone, send_adapt, send_deleteIfPresent_calm]
  rfl

theorem send_terminate_calm {objects : Table KubeObject.key}
    (calm : kubernetes.cluster = Server.calm objects)
    (resolved : (router.engineOf id).send before = (.ok engine, kubernetes)) :
    (router.terminate id).send before =
      (.ok (), { kubernetes with
        cluster := Server.calm ((objects.erase (router.crKey engine id)).erase
          (policyKey router.ray.namespaceName (clusterAllowPolicyName id))) }) := by
  rw [terminate, send_bind, resolved]
  cases engine with
  | ray =>
    simp only [backend, send_onPart, KubeRayProvisioner.terminate, deleteClusterAllow,
      send_bind, calm, send_deleteOkGone_calm]
    rfl
  | dask =>
    simp only [backend, send_onPart, DaskProvisioner.terminate, deleteClusterAllow,
      send_bind, calm, send_deleteOkGone_calm, router.shared]
    rfl

theorem Settled.terminates (settled : Settled router kubernetes)
    (held : router.Holds engine id kubernetes) :
    ((router.terminate id).send (calmed kubernetes)).1 = .ok () ∧
      ¬router.Holds engine id ((router.terminate id).send (calmed kubernetes)).2 := by
  rcases settled.send_engineOf held with ⟨after, resolved, calm⟩
  rw [send_terminate_calm calm resolved]
  refine ⟨rfl, ?_⟩
  simp [Holds, Server.Present, Server.calm, Table.find?_erase]

theorem rayObserve_calm (ray : KubeRayProvisioner) (id : ClusterId)
    (objects : Table KubeObject.key) : ((ray.observe id).send (calm objects)).1 =
      match objects.find? (ray.crKey id) with
      | none => .error (.notFound id)
      | some object => .ok ⟨id, KubeRay.statusToState object.status, stampedGeneration object,
          KubeRay.fingerprintFromCr object.applied.spec, some (ray.apiBaseUrl id)⟩ := by
  unfold KubeRayProvisioner.observe
  rw [send_bind, Kube.getOpt, send_adapt, getOpt, send_serve]
  rcases found : objects.find? (ray.crKey id) with _ | object <;>
    simp [calm, found, Except.mapError]

theorem rayObserve_ne_notFound (held : router.Holds .ray id kubernetes) (missing : ClusterId) :
    ((router.ray.observe id).send (calm kubernetes.cluster.objects)).1 ≠
      .error (.notFound missing) := by
  rcases Option.isSome_iff_exists.mp held with ⟨object, found⟩
  rw [rayObserve_calm]
  change kubernetes.cluster.objects.find? (router.ray.crKey id) = some object at found
  simp [found]

theorem daskObserve_ne_notFound (held : router.Holds .dask id kubernetes) (missing : ClusterId) :
    ((router.dask.observe id).send (calm kubernetes.cluster.objects)).1 ≠
      .error (.notFound missing) := by
  have probe := router.dask.observe_probe id (calm kubernetes.cluster.objects)
  generalize ((router.dask.observe id).send _).1 = probed at probe ⊢
  cases probe with
  | refused refused => simp
  | absent _ misses => exact absurd held (not_holds_iff.mpr misses)
  | found _ found => simp

theorem Settled.observes (settled : Settled router kubernetes)
    (held : router.Holds engine id kubernetes) (missing : ClusterId) :
    ((router.observe id).send (calmed kubernetes)).1 ≠ .error (.notFound missing) := by
  cases remembered : kubernetes.engines id with
  | some known =>
    rw [settled.known held remembered] at remembered
    have known : (calmed kubernetes).engines id = some engine := remembered
    rw [send_observe_known router known]
    cases engine with
    | ray => exact rayObserve_ne_notFound held missing
    | dask => exact daskObserve_ne_notFound held missing
  | none =>
    have cold : (calmed kubernetes).engines id = none := remembered
    have probe := router.dask.observe_probe id (calmed kubernetes).cluster
    have kept := daskObserve_calm router.dask id kubernetes.cluster.objects
    rw [send_observe_cold router cold]
    generalize ((router.dask.observe id).send (calmed kubernetes).cluster).1 = probed at probe
    cases probe with
    | refused refused => exact absurd rfl refused
    | absent _ misses =>
      cases engine with
      | ray =>
        simp only [backend, send_onPart, probedState, calmed, kept]
        exact rayObserve_ne_notFound held missing
      | dask => exact absurd held (not_holds_iff.mpr misses)
    | found _ found => simp

theorem Settled.reliable (settled : Settled router kubernetes) : Reliable router kubernetes := by
  intro engine id held
  exact ⟨settled.observes held, settled.terminates held⟩

theorem holds_backend {α : Type} {request : Kube α}
    (kept : Request.Keeps (Server.Present (router.crKey engine id) true) request) :
    Request.Keeps (router.Holds engine id) (backend request) :=
  kept.onPart fun _ _ => rfl

theorem holds_rayTerminate (wanted : ClusterId) :
    Request.Keeps (router.Holds .dask id) (backend (router.ray.terminate wanted)) := by
  refine holds_backend (Keeps.bind ?_ fun _ => ?_)
  · exact (present_deleteIfPresent (by simp [crKey, DaskProvisioner.crKey,
      KubeRayProvisioner.crKey])).adapt
  · exact (present_deleteIfPresent policyKey_ne_crKey.symm).adapt

theorem holds_setSuspend (wanted : ClusterId) (suspend : Bool) :
    Request.Keeps (router.Holds .dask id) (backend (router.ray.setSuspend wanted suspend)) :=
  holds_backend (Keeps.adapt (present_update fun _ => rfl))

theorem holds_inspect (read : ReadOnly) :
    Request.Keeps (router.Holds engine id) (backend read.request) := by
  refine holds_backend ?_
  intro cluster held
  rw [Server.Present, read.reads]
  exact held

theorem send_engineOf_refused (router : EngineRouter) (cold : before.engines id = none)
    (refused : before.cluster.refusals 0 ≠ none) :
    (router.engineOf id).send before = (.ok .ray, router.probedState id before .ray) := by
  have probe := router.dask.observe_probe id before.cluster
  rw [send_engineOf_cold router cold]
  generalize ((router.dask.observe id).send before.cluster).1 = probed at probe
  cases probe with
  | refused _ => rfl
  | absent answered _ => exact absurd answered refused
  | found answered _ => exact absurd answered refused

/-- A call for a Dask cluster that is taken for a Ray cluster leaves it where it is. -/
theorem holds_of_guess {next : Engine → Routed Unit} (cold : before.engines id = none)
    (held : router.Holds .dask id before) (refused : before.cluster.refusals 0 ≠ none)
    (kept : Request.Keeps (router.Holds .dask id) (next .ray)) :
    router.Holds .dask id ((router.engineOf id >>= next).send before).2 := by
  rw [send_bind, send_engineOf_refused router cold refused]
  refine kept _ ?_
  rw [Holds, Server.Present, probedState, router.dask.objects_observe]
  exact held

theorem Misprobes.holds (misprobes : Misprobes router before call) :
    ∃ id, router.Holds .dask id ((router.request call).send before).2 ∧
      ((router.request call).send before).2.engines id = some .ray := by
  rcases misprobes with ⟨id, resolves, cold, held, refused⟩
  refine ⟨id, ?_, ?_⟩
  · cases call <;> cases resolves
    · exact holds_of_guess cold held refused (holds_rayTerminate id)
    · exact holds_of_guess cold held refused (holds_setSuspend id true)
    · exact holds_of_guess cold held refused (holds_setSuspend id false)
    · exact holds_of_guess cold held refused (holds_inspect _)
  · have resolvedEngines {next : Engine → Routed Unit}
        (continues : ∀ state, ((next .ray).send state).2.engines = state.engines) :
        ((router.engineOf id >>= next).send before).2.engines id = some .ray := by
      rw [send_bind, send_engineOf_refused router cold refused]
      simp [continues, probedState]
    cases call <;> cases resolves <;> exact resolvedEngines fun _ => rfl

/-- An object that the router takes for one of the other engine is not observed. -/
theorem not_reliable_of_mistaken (held : router.Holds .dask id kubernetes)
    (misses : router.Misses .ray id kubernetes) (mistaken : kubernetes.engines id = some .ray) :
    ¬Reliable router kubernetes := by
  intro reliable
  refine (reliable .dask id held).1 id ?_
  have known : (calmed kubernetes).engines id = some .ray := mistaken
  rw [send_observe_known router known]
  change ((router.ray.observe id).send (calm kubernetes.cluster.objects)).1 = _
  rw [rayObserve_calm]
  change kubernetes.cluster.objects.find? (router.ray.crKey id) = none at misses
  rw [misses]

/-- Every cluster is applied with one engine only. -/
def RouterCall.Applies (engineFor : ClusterId → Engine) (call : RouterCall) : Prop :=
  ∀ engine id, call.creates = some (engine, id) → engine = engineFor id

/-- Every object is of the engine that its cluster is applied with. -/
def OfEngines (router : EngineRouter) (engineFor : ClusterId → Engine) (kubernetes : Kubernetes) :
    Prop :=
  ∀ engine id, router.Holds engine id kubernetes → engine = engineFor id

variable {engineFor : ClusterId → Engine}

theorem OfEngines.step (objects : OfEngines router engineFor before)
    (applies : call.Applies engineFor) :
    OfEngines router engineFor ((router.request call).send before).2 := by
  intro engine id held
  rcases held_before held with earlier | created
  · exact objects engine id earlier
  · exact applies engine id created

theorem RouterRun.ofEngines
    (ran : RouterRun router (fun engine id => engine = engineFor id) allowed start kubernetes)
    (fixed : ∀ {before : Kubernetes} {call : RouterCall}, allowed before call →
      call.Applies engineFor)
    (objects : OfEngines router engineFor start) : OfEngines router engineFor kubernetes := by
  induction ran with
  | start => exact objects
  | call _ permitted ih => exact ih.step (fixed permitted)
  | drift _ drifted ih =>
    intro engine id held
    rcases drifted.objects engine id held with earlier | ⟨isEngine, _⟩
    · exact ih engine id earlier
    · exact isEngine

theorem OfEngines.sole (objects : OfEngines router engineFor kubernetes)
    (applies : call.Applies engineFor) : Sole router kubernetes call := by
  intro engine id created other held
  rw [objects other id held, applies engine id created]

theorem OfEngines.settled (objects : OfEngines router engineFor kubernetes)
    (cold : ∀ id, kubernetes.engines id = none) : Settled router kubernetes where
  single held otherHeld := (objects _ _ held).trans (objects _ _ otherHeld).symm
  known := by
    intro engine remembered id _ isRemembered
    rw [cold] at isRemembered
    cases isRemembered

/-- The router finds its objects after any failures other than that of a probe for a Dask cluster
that is there; after such a probe it does not. -/
theorem router_finds_objects (router : EngineRouter) (engineFor : ClusterId → Engine)
    {start kubernetes : Kubernetes} (cold : ∀ id, start.engines id = none)
    (objects : OfEngines router engineFor start)
    (ran : RouterRun router (fun engine id => engine = engineFor id)
      (fun before call => call.Applies engineFor ∧ ¬Misprobes router before call)
      start kubernetes) :
    Reliable router kubernetes ∧
      ∀ call : RouterCall, call.Applies engineFor → Misprobes router kubernetes call →
        ¬Reliable router ((router.request call).send kubernetes).2 := by
  have settled : Settled router kubernetes := by
    refine ran.settled (objects.settled cold) ?_
    intro before call ran permitted
    exact ⟨permitted.2, (ran.ofEngines And.left objects).sole permitted.1⟩
  refine ⟨settled.reliable, ?_⟩
  intro call applies misprobes
  rcases misprobes.holds with ⟨id, daskHeld, mistaken⟩
  refine not_reliable_of_mistaken daskHeld (not_holds_iff.mp ?_) mistaken
  intro rayHeld
  have ofEngines := (ran.ofEngines And.left objects).step applies
  have same := (ofEngines .dask id daskHeld).trans (ofEngines .ray id rayHeld).symm
  cases same

def emptyKubernetes : Kubernetes :=
  ⟨calm .empty, fun _ => none, false⟩

def applyDask : RouterCall :=
  .apply "c1" { headOnly "p" with engine := .dask } 1 none

/-- The router has just been started, and the next request is refused. -/
def unavailable (kubernetes : Kubernetes) : Kubernetes :=
  { kubernetes with
    cluster.refusals := fun n => if n = 0 then some ⟨⟨503, "unavailable"⟩, by decide⟩ else none
    engines := fun _ => none }

/-- The state after a cluster was applied with Dask, a restart, and a refused request. -/
def restarted : Kubernetes :=
  unavailable ((oneNamespace.request applyDask).send emptyKubernetes).2

theorem drift_restarted : Drift oneNamespace (fun engine _ => engine = .dask)
      ((oneNamespace.request applyDask).send emptyKubernetes).2 restarted :=
  ⟨fun _ => .inl rfl, fun _ _ held => .inl held⟩

theorem applies_applyDask : applyDask.Applies fun _ => Engine.dask := by
  intro engine id created
  cases created
  rfl

/-- A cluster that survived a restart, and a probe that was refused when it was observed. -/
theorem router_finds_objects_restarted :
    oneNamespace.Holds .dask "c1" ((oneNamespace.request (.observe "c1")).send restarted).2 ∧
      Reliable oneNamespace ((oneNamespace.request (.observe "c1")).send restarted).2 := by
  refine ⟨rfl, (@router_finds_objects oneNamespace (fun _ => .dask) emptyKubernetes _ (fun _ => rfl)
    ?_ ?_).1⟩
  · intro engine id held
    cases held
  · refine .call (.drift (.call .start ⟨applies_applyDask, ?_⟩) drift_restarted) ⟨?_, ?_⟩
    · rintro ⟨id, resolves, _⟩
      cases resolves
    · intro engine id created
      cases created
    · rintro ⟨id, resolves, _⟩
      cases resolves

/-- Suspending the cluster instead makes the router forget what it is. -/
theorem router_loses_cluster :
    ∃ kubernetes, RouterRun oneNamespace (fun engine _ => engine = .dask)
        (fun _ call => call.Applies fun _ => .dask) emptyKubernetes kubernetes ∧
      oneNamespace.Holds .dask "c1" kubernetes ∧
      ((oneNamespace.observe "c1").send (calmed kubernetes)).1 = .error (.notFound "c1") ∧
      ((oneNamespace.terminate "c1").send (calmed kubernetes)).1 = .ok () ∧
      oneNamespace.Holds .dask "c1" ((oneNamespace.terminate "c1").send (calmed kubernetes)).2 := by
  refine ⟨((oneNamespace.request (.suspend "c1")).send restarted).2, ?_, rfl, rfl, rfl, rfl⟩
  refine .call (.drift (.call .start applies_applyDask) drift_restarted) ?_
  intro engine id created
  cases created

/-- No request is refused. -/
def Calm (kubernetes : Kubernetes) : Prop :=
  ∀ n, kubernetes.cluster.refusals n = none

theorem calmed_of_calm (calm : Calm kubernetes) : calmed kubernetes = kubernetes := by
  rcases kubernetes with ⟨⟨objects, refusals⟩, engines, kueuePresent⟩
  have isCalm : refusals = fun _ => none := funext calm
  rw [calmed, Server.calm, isCalm]

theorem Calm.not_misprobes (calm : Calm kubernetes) : ¬Misprobes router kubernetes call := by
  rintro ⟨id, _, _, _, refused⟩
  exact refused (calm 0)

/-- A settled router leaves nothing of a cluster that it terminates. -/
theorem Settled.nothing_left (settled : Settled router kubernetes) (calm : Calm kubernetes)
    (engine : Engine) (id : ClusterId) :
    ¬router.Holds engine id ((router.request (.terminate id)).send kubernetes).2 := by
  intro left
  rcases held_before left with held | created
  · have gone := (settled.terminates held).2
    rw [calmed_of_calm calm] at gone
    exact gone left
  · cases created

theorem RouterRun.stays_gone (ran : RouterRun router (fun _ _ => False) allowed start kubernetes)
    (gone : ∀ engine, ¬router.Holds engine id start)
    (unapplied : ∀ {before : Kubernetes} {call : RouterCall}, allowed before call →
      ∀ engine, call.creates ≠ some (engine, id)) (engine : Engine) :
    ¬router.Holds engine id kubernetes := by
  induction ran with
  | start => exact gone engine
  | call _ permitted ih =>
    intro held
    rcases held_before held with earlier | created
    · exact ih earlier
    · exact unapplied permitted engine created
  | drift _ drifted ih =>
    intro held
    rcases drifted.objects engine id held with earlier | ⟨impossible, _⟩
    · exact ih earlier
    · exact impossible

theorem present_applyNetworkPolicy {key : ObjectKey} (namespaceName : String) (manifest : Json) :
    Request.Keeps (Server.Present key true) (applyNetworkPolicy namespaceName manifest) := by
  unfold applyNetworkPolicy
  split
  · exact keeps_throw
  · exact present_put.adapt

theorem present_ensureAllow {key : ObjectKey} (namespaceName : String) (manifest : Json) :
    Request.Keeps (Server.Present key true) (ensureAllow namespaceName manifest) := by
  refine Keeps.bind ?_ ?_
  · refine Keeps.bind ?_ fun _ => keeps_pure
    exact Keeps.adapt (present_serve fun _ => rfl)
  · rintro (_ | _)
    · exact present_applyNetworkPolicy namespaceName manifest
    · exact keeps_pure

theorem holds_apply (wanted : ClusterId) (spec : ClusterSpec) (generation : ℕ)
    (queue : Option QueueAssignment) :
    Request.Keeps (router.Holds engine id) (router.apply wanted spec generation queue) := by
  refine Keeps.bind (fun _ held => held) fun _ => ?_
  cases spec.engine with
  | ray =>
    refine holds_backend ((present_ensureAllow _ _).bind fun _ => ?_)
    exact present_put.adapt.bind fun _ => keeps_pure
  | dask =>
    refine holds_backend ((present_ensureAllow _ _).bind fun _ => ?_)
    exact present_put.adapt.bind fun _ => keeps_pure

/-- An apply with another engine leaves an object that terminating does not reach. -/
theorem left_behind (before : Kubernetes) (notSole : ¬Sole router before call) :
    ∃ applied left id, call.creates = some (applied, id) ∧
      ((router.terminate id).send (calmed ((router.request call).send before).2)).1 = .ok () ∧
      router.Holds left id
        ((router.terminate id).send (calmed ((router.request call).send before).2)).2 := by
  simp only [Sole, not_forall] at notSole
  rcases notSole with ⟨applied, id, created, left, held, differs⟩
  refine ⟨applied, left, id, created, ?_⟩
  cases call with
  | apply wanted spec generation queue =>
    cases created
    have stays : router.Holds left id
        ((router.request (.apply id spec generation queue)).send before).2 := by
      rw [request, state_discard]
      exact holds_apply id spec generation queue before held
    have known : (calmed ((router.request (.apply id spec generation queue)).send
        before).2).engines id = some spec.engine := by
      simp only [calmed, request, state_discard, engines_apply, Function.update_self]
    rw [send_terminate_calm rfl (send_engineOf_known router known)]
    refine ⟨rfl, ?_⟩
    have otherKey : router.crKey left id ≠ router.crKey spec.engine id := fun same =>
      differs (crKey_injective same).1
    rw [Holds, Server.Present] at stays ⊢
    simp only [calm, Table.find?_erase]
    rw [if_neg policyKey_ne_crKey.symm, if_neg otherKey]
    exact stays
  | _ => cases created

/-- Terminating a cluster leaves no object of it in any run without failures in which a cluster is
applied with one engine only while its object exists; an apply with another engine leaves one. -/
theorem teardown_complete (router : EngineRouter) {start kubernetes : Kubernetes}
    (cold : ∀ id, start.engines id = none)
    (single : ∀ engine other id, router.Holds engine id start → router.Holds other id start →
      engine = other)
    (ran : RouterRun router (fun _ _ => False)
      (fun before call => Calm before ∧ Sole router before call) start kubernetes)
    (calm : Calm kubernetes) :
    (∀ id after final, (router.terminate id).send kubernetes = (.ok (), after) →
      RouterRun router (fun _ _ => False)
        (fun _ call => ∀ engine, call.creates ≠ some (engine, id)) after final →
      ∀ engine, ¬router.Holds engine id final) ∧
    ∀ call, ¬Sole router kubernetes call →
      ∃ applied left id, call.creates = some (applied, id) ∧
        ((router.terminate id).send (calmed ((router.request call).send kubernetes).2)).1 = .ok () ∧
        router.Holds left id
          ((router.terminate id).send (calmed ((router.request call).send kubernetes).2)).2 := by
  have settled : Settled router kubernetes := by
    refine ran.settled ⟨single _ _ _, ?_⟩ ?_
    · intro engine remembered id _ isRemembered
      rw [cold] at isRemembered
      cases isRemembered
    · intro before call _ permitted
      exact ⟨permitted.1.not_misprobes, permitted.2⟩
  refine ⟨?_, fun call => left_behind kubernetes⟩
  intro id after final terminated ran engine
  refine ran.stays_gone ?_ (fun permitted => permitted) engine
  intro engine left
  refine settled.nothing_left calm engine id ?_
  rwa [request, terminated]

/-- A cluster is applied, terminated, and stays away. -/
theorem teardown_complete_dask :
    oneNamespace.Holds .dask "c1" ((oneNamespace.request applyDask).send emptyKubernetes).2 ∧
      ∀ engine, ¬oneNamespace.Holds engine "c1" ((oneNamespace.terminate "c1").send
        ((oneNamespace.request applyDask).send emptyKubernetes).2).2 := by
  have ran : RouterRun oneNamespace (fun _ _ => False)
      (fun before call => Calm before ∧ Sole oneNamespace before call) emptyKubernetes
      ((oneNamespace.request applyDask).send emptyKubernetes).2 := by
    refine .call .start ⟨fun _ => rfl, ?_⟩
    intro engine id created other held
    cases held
  refine ⟨rfl, (teardown_complete oneNamespace (fun _ => rfl) ?_ ran fun _ => rfl).1
    "c1" _ _ rfl .start⟩
  intro engine other id held
  cases held

def reapplied : Kubernetes :=
  ((oneNamespace.request applyDask).send
    ((oneNamespace.request (.apply "c1" (headOnly "p") 1 none)).send emptyKubernetes).2).2

/-- Terminating a cluster that was applied with both engines leaves its first object. -/
theorem teardown_leaves_ray :
    RouterRun oneNamespace (fun _ _ => False) (fun before _ => Calm before) emptyKubernetes
        reapplied ∧ Calm reapplied ∧
      ((oneNamespace.terminate "c1").send reapplied).1 = .ok () ∧
      oneNamespace.Holds .ray "c1" ((oneNamespace.terminate "c1").send reapplied).2 := by
  refine ⟨?_, fun _ => rfl, ?_, ?_⟩
  · exact .call (.call .start fun _ => rfl) fun _ => rfl
  · rfl
  · rfl

end EngineRouter

end Mobula
