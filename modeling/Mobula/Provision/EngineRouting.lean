import Mobula.Provision.Engines

/-!
# Where the router sends the calls for a cluster

The router finds the object of a cluster if it remembers no engine for the cluster, or that of
the object, and if there is no second object for the other engine. A probe that fails destroys
that, and so does an apply with another engine.
-/

namespace Mobula

open Foundation Request Server Function

namespace DaskProvisioner

variable (dask : DaskProvisioner) (id : ClusterId) (cluster : KubeCluster)

/-- What asking for a cluster can come to. -/
inductive Probe : Except ProvisionError ObservedCluster → Prop
  | refused {message : String} (refused : cluster.refusals 0 ≠ none) :
      Probe (.error (.backend message))
  | absent (answered : cluster.refusals 0 = none)
      (absent : cluster.objects.find? (dask.crKey id) = none) : Probe (.error (.notFound id))
  | found {object : KubeObject} {observed : ObservedCluster}
      (answered : cluster.refusals 0 = none)
      (found : cluster.objects.find? (dask.crKey id) = some object) : Probe (.ok observed)

theorem observe_probe : Probe dask id cluster ((dask.observe id).send cluster).1 := by
  unfold observe
  rw [send_bind, send_adapt, getOpt, send_serve]
  cases refused : cluster.refusals 0 with
  | some refusal =>
    have failure : mapAbsent id refusal.error = .backend refusal.error.message := by
      rw [mapAbsent, if_neg refusal.found]
    simp only [Except.mapError, failure]
    exact .refused (by simp [refused])
  | none =>
    rcases found : cluster.objects.find? (dask.crKey id) with _ | object
    · exact .absent refused found
    · exact .found refused found

theorem objects_observe : ((dask.observe id).send cluster).2.objects = cluster.objects := by
  have reads : ((getOpt (dask.crKey id)).send cluster).2.objects = cluster.objects :=
    objects_serve (fun _ => rfl) cluster
  unfold observe
  rw [send_bind, send_adapt]
  rcases answered : (getOpt (dask.crKey id)).send cluster with ⟨failure | found, after⟩
  · rw [answered] at reads
    exact reads
  · rw [answered] at reads
    rcases found with _ | object
    · exact reads
    · exact (objects_serve (fun _ => rfl) after).trans reads

end DaskProvisioner

namespace EngineRouter

variable (router : EngineRouter)

def crKey : Engine → ClusterId → ObjectKey
  | .ray, id => router.ray.crKey id
  | .dask, id => router.dask.crKey id

/-- The engine has an object for the cluster. -/
def Holds (engine : Engine) (id : ClusterId) (kubernetes : Kubernetes) : Prop :=
  Server.Present (router.crKey engine id) true kubernetes.cluster

structure ReadOnly where
  request : Kube Unit
  reads : ∀ cluster, (request.send cluster).2.objects = cluster.objects

/-- The calls that the control plane makes; nodes, events and logs of a cluster are inspected. -/
inductive RouterCall where
  | apply (id : ClusterId) (spec : ClusterSpec) (generation : ℕ) (queue : Option QueueAssignment)
  | ensureNamespacePosture
  | terminate (id : ClusterId)
  | reapNetworkPolicies (id : ClusterId)
  | suspend (id : ClusterId)
  | resume (id : ClusterId)
  | observe (id : ClusterId)
  | list
  | inspect (id : ClusterId) (read : Engine → ReadOnly)

def inspect (id : ClusterId) (read : Engine → ReadOnly) : Routed Unit := do
  let engine ← router.engineOf id
  backend (read engine).request

/-- What is asked for by a call, its answer aside. -/
def request : RouterCall → Routed Unit
  | .apply id spec generation queue => discard (router.apply id spec generation queue)
  | .ensureNamespacePosture => router.ensureNamespacePosture
  | .terminate id => router.terminate id
  | .reapNetworkPolicies id => router.reapNetworkPolicies id
  | .suspend id => router.suspend id
  | .resume id => router.resume id
  | .observe id => discard (router.observe id)
  | .list => discard router.list
  | .inspect id read => router.inspect id read

/-- The cluster whose engine a call looks up. -/
def RouterCall.resolves : RouterCall → Option ClusterId
  | .terminate id => some id
  | .suspend id => some id
  | .resume id => some id
  | .inspect id _ => some id
  | _ => none

/-- The object that a call creates. -/
def RouterCall.creates : RouterCall → Option (Engine × ClusterId)
  | .apply id spec _ _ => some (spec.engine, id)
  | _ => none

variable {router} {engine other : Engine} {id : ClusterId} {kubernetes : Kubernetes}

theorem crKey_injective {id' : ClusterId} (same : router.crKey engine id = router.crKey other id') :
    engine = other ∧ id = id' := by
  cases engine <;> cases other <;>
    simp_all [crKey, KubeRayProvisioner.crKey, DaskProvisioner.crKey]

theorem kind_crKey (router : EngineRouter) (engine : Engine) (id : ClusterId) :
    (router.crKey engine id).kind = .rayCluster ∨ (router.crKey engine id).kind = .daskCluster := by
  cases engine
  · exact .inl rfl
  · exact .inr rfl

theorem policyKey_ne_crKey {namespaceName name : String} :
    policyKey namespaceName name ≠ router.crKey engine id := by
  cases engine <;> simp [policyKey, crKey, KubeRayProvisioner.crKey, DaskProvisioner.crKey]

def Misses (router : EngineRouter) (engine : Engine) (id : ClusterId) (kubernetes : Kubernetes) :
    Prop :=
  Server.Lacks (router.crKey engine id) kubernetes.cluster

theorem not_holds_iff :
    ¬router.Holds engine id kubernetes ↔ router.Misses engine id kubernetes := by
  simp [Holds, Misses, Present, Lacks]

theorem misses_backend {α : Type} {request : Kube α}
    (kept : Keeps (Lacks (router.crKey engine id)) request) :
    Keeps (router.Misses engine id) (backend request) :=
  kept.onPart fun _ _ => rfl

theorem misses_remember (wanted : ClusterId) (remembered : Engine) :
    Keeps (router.Misses engine id) (remember wanted remembered) :=
  fun _ misses => misses

theorem lacks_daskObserve {absent : ObjectKey} (dask : DaskProvisioner) (wanted : ClusterId) :
    Keeps (Lacks absent) (dask.observe wanted) := by
  intro cluster lacks
  rw [Lacks, dask.objects_observe]
  exact lacks

theorem lacks_rayObserve {absent : ObjectKey} (ray : KubeRayProvisioner) (wanted : ClusterId) :
    Keeps (Lacks absent) (ray.observe wanted) := by
  refine Kube.holds_getOpt.bind ?_
  rintro (_ | object)
  · exact keeps_throw
  · exact keeps_pure

theorem misses_engineOf (wanted : ClusterId) :
    Keeps (router.Misses engine id) (router.engineOf wanted) := by
  refine Keeps.bind (fun _ misses => misses) ?_
  intro known
  cases known with
  | some known => exact keeps_pure
  | none =>
    refine (misses_backend (lacks_daskObserve _ wanted)).attempt.bind fun _ => ?_
    exact (misses_remember wanted _).bind fun _ => keeps_pure

theorem misses_resolved {wanted : ClusterId} {next : Engine → Routed Unit}
    (continues : ∀ resolved, Keeps (router.Misses engine id) (next resolved)) :
    Keeps (router.Misses engine id) (router.engineOf wanted >>= next) :=
  (misses_engineOf wanted).bind continues

theorem misses_discard {α : Type} {request : Routed α}
    (kept : Keeps (router.Misses engine id) request) :
    Keeps (router.Misses engine id) (discard request) :=
  kept.bind fun _ => keeps_pure

theorem misses_apply (spec : ClusterSpec) (generation : ℕ) (queue : Option QueueAssignment)
    {wanted : ClusterId} (differs : (spec.engine, wanted) ≠ (engine, id)) :
    Keeps (router.Misses engine id) (router.apply wanted spec generation queue) := by
  have otherKey (resolved : Engine) (isEngine : resolved = spec.engine) :
      router.crKey resolved wanted ≠ router.crKey engine id := by
    intro same
    have parts := crKey_injective same
    exact differs (by rw [← isEngine, parts.1, parts.2])
  refine (misses_remember wanted spec.engine).bind fun _ => ?_
  cases isEngine : spec.engine with
  | ray =>
    refine misses_backend ((holds_ensureAllow policyKey_ne_crKey).bind fun _ => ?_)
    exact (Kube.holds_patch (otherKey .ray isEngine.symm)).bind fun _ => keeps_pure
  | dask =>
    refine misses_backend ((holds_ensureAllow policyKey_ne_crKey).bind fun _ => ?_)
    exact (Kube.holds_patch (otherKey .dask isEngine.symm)).bind fun _ => keeps_pure

theorem misses_observe (wanted : ClusterId) :
    Keeps (router.Misses engine id) (router.observe wanted) := by
  refine Keeps.bind (fun _ misses => misses) ?_
  rintro (_ | known)
  · refine (misses_backend (lacks_daskObserve _ wanted)).attempt.bind ?_
    intro probed
    split
    · exact (misses_remember wanted _).bind fun _ => keeps_pure
    · exact (misses_remember wanted _).bind fun _ => misses_backend (lacks_rayObserve _ wanted)
    · exact keeps_throw
  · cases known with
    | ray => exact misses_backend (lacks_rayObserve _ wanted)
    | dask => exact misses_backend (lacks_daskObserve _ wanted)

theorem misses_list : Keeps (router.Misses engine id) router.list := by
  have remembers (resolved : Engine) (listed : List ObservedCluster) :
      Keeps (router.Misses engine id) (listed.forM fun observed => remember observed.id resolved) :=
    keeps_forM fun observed _ => misses_remember observed.id resolved
  refine Keeps.bind (misses_backend ?_) fun ray => ?_
  · exact (Kube.holds_list _).bind fun _ => keeps_pure
  refine (remembers .ray ray).bind fun _ => ?_
  refine Keeps.bind (misses_backend ?_) fun dask => ?_
  · refine Keeps.bind (Keeps.adapt ?_) fun _ => keeps_pure
    refine (holds_list _).tryCatch fun failure => ?_
    split
    · exact keeps_pure
    · exact keeps_throw
  · exact (remembers .dask dask).bind fun _ => keeps_pure

theorem misses_inspect (wanted : ClusterId) (read : Engine → ReadOnly) :
    Keeps (router.Misses engine id) (router.inspect wanted read) := by
  refine misses_resolved fun resolved => misses_backend ?_
  intro cluster lacks
  rw [Lacks, (read resolved).reads]
  exact lacks

theorem misses_request (call : RouterCall) (differs : call.creates ≠ some (engine, id)) :
    Keeps (router.Misses engine id) (router.request call) := by
  cases call with
  | apply wanted spec generation queue =>
    exact misses_discard (misses_apply spec generation queue fun same => differs (by
      rw [RouterCall.creates, same]))
  | ensureNamespacePosture =>
    refine misses_backend (holds_ensureNamespacePosture policyKey_ne_crKey policyKey_ne_crKey ?_)
    rcases kind_crKey router engine id with kind | kind <;> simp [kind]
  | terminate wanted =>
    refine misses_resolved fun resolved => ?_
    cases resolved <;>
      exact misses_backend (Kube.lacks_deleteOkGone.bind fun _ => Kube.lacks_deleteOkGone)
  | reapNetworkPolicies wanted =>
    exact (misses_backend Kube.lacks_deleteOkGone).bind fun _ =>
      misses_backend Kube.lacks_deleteOkGone
  | suspend wanted =>
    refine misses_resolved fun resolved => ?_
    cases resolved
    · exact misses_backend Kube.lacks_mergeSpec
    · exact misses_backend keeps_pure
  | resume wanted =>
    refine misses_resolved fun resolved => ?_
    cases resolved
    · exact misses_backend Kube.lacks_mergeSpec
    · exact misses_backend keeps_pure
  | observe wanted => exact misses_discard (misses_observe wanted)
  | list => exact misses_discard misses_list
  | inspect wanted read => exact misses_inspect wanted read

theorem held_before {call : RouterCall}
    (held : router.Holds engine id ((router.request call).send kubernetes).2) :
    router.Holds engine id kubernetes ∨ call.creates = some (engine, id) := by
  by_contra neither
  rw [not_or] at neither
  exact not_holds_iff.mpr (misses_request call neither.2 _ (not_holds_iff.mp neither.1)) held

/-- The engine that a probe is taken to show. -/
def probedEngine : Except ProvisionError ObservedCluster → Engine
  | .ok _ => .dask
  | .error _ => .ray

theorem send_lookup : (lookup id).send kubernetes = (.ok (kubernetes.engines id), kubernetes) := rfl

theorem send_engineOf_known (router : EngineRouter) (known : kubernetes.engines id = some engine) :
    (router.engineOf id).send kubernetes = (.ok engine, kubernetes) := by
  rw [engineOf, send_bind, send_lookup]
  simp only [known]
  rfl

/-- The state after a probe whose result is remembered. -/
def probedState (router : EngineRouter) (id : ClusterId) (kubernetes : Kubernetes)
    (remembered : Engine) : Kubernetes :=
  { kubernetes with
    cluster := ((router.dask.observe id).send kubernetes.cluster).2
    engines := Function.update kubernetes.engines id (some remembered) }

theorem send_engineOf_cold (router : EngineRouter) (cold : kubernetes.engines id = none) :
    (router.engineOf id).send kubernetes =
      (.ok (probedEngine ((router.dask.observe id).send kubernetes.cluster).1),
        router.probedState id kubernetes
          (probedEngine ((router.dask.observe id).send kubernetes.cluster).1)) := by
  rw [engineOf, send_bind, send_lookup]
  simp only [cold]
  rfl

/-- What the router may remember of a cluster after a call. -/
inductive Recalls (router : EngineRouter) (before : Kubernetes) (call : RouterCall)
    (id : ClusterId) : Option Engine → Prop
  | kept (others : ∀ engine, call.creates ≠ some (engine, id)) :
      Recalls router before call id (before.engines id)
  | applied {engine : Engine} (creates : call.creates = some (engine, id)) :
      Recalls router before call id (some engine)
  | guessed (resolves : call.resolves = some id) (cold : before.engines id = none)
      (refused : before.cluster.refusals 0 ≠ none) : Recalls router before call id (some .ray)
  | found (holds : router.Holds .dask id before) (others : call.creates = none) :
      Recalls router before call id (some .dask)
  | absent (misses : router.Misses .dask id before) (others : call.creates = none) :
      Recalls router before call id (some .ray)
  | listed (holds : router.Holds .ray id before) (others : call.creates = none) :
      Recalls router before call id (some .ray)

variable {call : RouterCall} {known : ClusterId} {object : KubeObject} {α : Type}
  {after : Kubernetes} {listed : List ObservedCluster}

theorem recalls_probed (cold : kubernetes.engines known = none) (creates : call.creates = none)
    (resolves : call.resolves = some known) : Recalls router kubernetes call id
      (Function.update kubernetes.engines known (some (probedEngine
        ((router.dask.observe known).send kubernetes.cluster).1)) id) := by
  rcases eq_or_ne id known with rfl | differs
  · rw [update_self]
    have probe := router.dask.observe_probe id kubernetes.cluster
    generalize ((router.dask.observe id).send kubernetes.cluster).1 = probed at probe
    cases probe with
    | refused refused => exact .guessed resolves cold refused
    | absent _ misses => exact .absent misses creates
    | found _ found => exact .found (by simp [Holds, Present, crKey, found]) creates
  · rw [update_of_ne differs]
    exact .kept (by simp [creates])

theorem recalls_resolved {next : Engine → Routed Unit}
    (continues : ∀ engine state, ((next engine).send state).2.engines = state.engines)
    (creates : call.creates = none) (resolves : call.resolves = some known) :
    Recalls router kubernetes call id
      (((router.engineOf known >>= next).send kubernetes).2.engines id) := by
  rw [send_bind]
  cases remembered : kubernetes.engines known with
  | some engine =>
    simp only [send_engineOf_known router remembered, continues]
    exact .kept (by simp [creates])
  | none =>
    simp only [send_engineOf_cold router remembered, continues]
    exact recalls_probed remembered creates resolves

theorem send_observe_known (router : EngineRouter) (known : kubernetes.engines id = some engine) :
    (router.observe id).send kubernetes = (match engine with
      | .ray => backend (router.ray.observe id)
      | .dask => backend (router.dask.observe id)).send kubernetes := by
  rw [observe, send_bind, send_lookup]
  simp only [known]
  cases engine <;> rfl

/-- Unlike a look-up, an observation passes the failure of the probe on. -/
theorem send_observe_cold (router : EngineRouter) (cold : kubernetes.engines id = none) :
    (router.observe id).send kubernetes =
      match ((router.dask.observe id).send kubernetes.cluster).1 with
      | .ok observed => (.ok observed, router.probedState id kubernetes .dask)
      | .error (.notFound _) =>
        (backend (router.ray.observe id)).send (router.probedState id kubernetes .ray)
      | .error failure =>
        (.error failure, { kubernetes with
          cluster := ((router.dask.observe id).send kubernetes.cluster).2 }) := by
  rw [observe, send_bind, send_lookup]
  simp only [cold, send_bind, send_attempt, backend, send_onPart]
  rcases ((router.dask.observe id).send kubernetes.cluster).1 with failure | observed
  · cases failure <;> rfl
  · rfl

theorem recalls_observe (wanted : ClusterId) : Recalls router kubernetes (.observe wanted) id
      (((router.observe wanted).send kubernetes).2.engines id) := by
  cases remembered : kubernetes.engines wanted with
  | some engine =>
    rw [send_observe_known router remembered]
    cases engine <;> exact .kept (by simp [RouterCall.creates])
  | none =>
    rw [send_observe_cold router remembered]
    have probe := router.dask.observe_probe wanted kubernetes.cluster
    generalize ((router.dask.observe wanted).send kubernetes.cluster).1 = probed at probe
    rcases eq_or_ne id wanted with rfl | differs
    · cases probe with
      | refused refused => exact .kept (by simp [RouterCall.creates])
      | absent _ misses =>
        simp only [backend, send_onPart, probedState, update_self]
        exact .absent misses rfl
      | found _ found =>
        simp only [probedState, update_self]
        exact .found (by simp [Holds, Present, crKey, found]) rfl
    · have kept : Recalls router kubernetes (.observe wanted) id (kubernetes.engines id) :=
        .kept (by simp [RouterCall.creates])
      cases probe <;> simpa [backend, probedState, differs] using kept

theorem send_rememberAll (listed : List ObservedCluster) (resolved : Engine)
    (kubernetes : Kubernetes) :
    (listed.forM fun observed => remember observed.id resolved).send kubernetes =
      (.ok (), { kubernetes with
        engines := fun id =>
          if ∃ observed ∈ listed, observed.id = id then some resolved
          else kubernetes.engines id }) := by
  induction listed generalizing kubernetes with
  | nil => simp
  | cons observed listed ih =>
    have first : (remember observed.id resolved).send kubernetes = (.ok (), { kubernetes with
          engines := Function.update kubernetes.engines observed.id (some resolved) }) := rfl
    change send ((remember observed.id resolved) >>= fun _ =>
      listed.forM fun observed => remember observed.id resolved) kubernetes = _
    rw [send_bind, first]
    simp only [ih]
    congr 2
    funext id
    by_cases later : ∃ observed ∈ listed, observed.id = id
    · simp [later]
    · by_cases here : observed.id = id
      · simp [later, here]
      · simp [later, here, Ne.symm here]

theorem holds_of_key (objectMem : object ∈ kubernetes.cluster.objects.rows)
    (isKey : object.key = router.crKey engine id) : router.Holds engine id kubernetes := by
  rw [Holds, Present, ← isKey, Table.find?_of_mem objectMem]
  rfl

theorem key_of_inNamespace {kind : ObjectKind} {namespaceName : String}
    (place : Kube.inNamespace kind namespaceName object = true) :
    object.key = ⟨kind, some namespaceName, object.key.name⟩ := by
  simp [Kube.inNamespace] at place
  rw [← place.1, ← place.2]

/-- What was listed is there, and listing changes nothing. -/
structure Listing (router : EngineRouter) (engine : Engine) (before after : Kubernetes)
    (listed : List ObservedCluster) : Prop where
  holds : ∀ observed ∈ listed, router.Holds engine observed.id before
  engines : after.engines = before.engines
  objects : after.cluster.objects = before.cluster.objects

theorem engines_of_backend {request : Kube α} {answer : Except ProvisionError α}
    (sent : (backend request).send kubernetes = (answer, after)) :
    after.engines = kubernetes.engines :=
  congrArg (·.2.engines) sent.symm

theorem listing_ray (sent : (backend router.ray.list).send kubernetes = (.ok listed, after)) :
    Listing router .ray kubernetes after listed := by
  rcases ok_of_bind (ok_of_backend sent) with ⟨objects, middle, objectsSent, rest⟩
  rcases Kube.objects_of_list objectsSent with ⟨rfl, unchanged⟩
  rcases Prod.mk.inj rest with ⟨isListed, isAfter⟩
  cases isListed
  refine ⟨?_, engines_of_backend sent, by rw [← isAfter, unchanged]⟩
  intro observed observedMem
  simp at observedMem
  rcases observedMem with ⟨object, ⟨objectMem, place, _⟩, rfl⟩
  exact holds_of_key objectMem (key_of_inNamespace place)

theorem listing_dask (sent : (backend router.dask.list).send kubernetes = (.ok listed, after)) :
    Listing router .dask kubernetes after listed := by
  rcases ok_of_bind (ok_of_backend sent) with ⟨objects, middle, adapted, rest⟩
  rcases Prod.mk.inj rest with ⟨isListed, isAfter⟩
  cases isListed
  have objectsSent := ok_of_adapt adapted
  rw [send_tryCatch] at objectsSent
  split at objectsSent
  · next found final answered =>
      cases objectsSent
      rcases objects_of_list answered with ⟨rfl, unchanged⟩
      refine ⟨?_, engines_of_backend sent, by rw [← isAfter, unchanged]⟩
      intro observed observedMem
      simp at observedMem
      rcases observedMem with ⟨object, ⟨objectMem, place, _⟩, rfl⟩
      exact holds_of_key objectMem (key_of_inNamespace place)
  · next failure final answered =>
      -- A resource that is not served lists nothing.
      have unchanged : final.objects = kubernetes.cluster.objects :=
        (congrArg (·.2.objects) answered.symm).trans (objects_serve (fun _ => rfl) _)
      split at objectsSent
      · cases objectsSent
        exact ⟨by simp, engines_of_backend sent, by rw [← isAfter, unchanged]⟩
      · cases objectsSent

theorem recalls_list :
    Recalls router kubernetes .list id ((router.list.send kubernetes).2.engines id) := by
  have recallsRay (ray : List ObservedCluster)
      (holds : ∀ observed ∈ ray, router.Holds .ray observed.id kubernetes) :
      Recalls router kubernetes .list id
        (if ∃ observed ∈ ray, observed.id = id then some .ray else kubernetes.engines id) := by
    split
    · next found =>
        rcases found with ⟨observed, observedMem, rfl⟩
        exact .listed (holds observed observedMem) rfl
    · exact .kept (by simp [RouterCall.creates])
  rw [list, send_bind]
  rcases rayListed : (backend router.ray.list).send kubernetes with ⟨failure | ray, middle⟩
  · simp only [engines_of_backend rayListed]
    exact .kept (by simp [RouterCall.creates])
  · have rayFound := listing_ray rayListed
    simp only [send_bind, send_rememberAll, rayFound.engines]
    split
    · next dask final daskListed =>
        have daskFound := listing_dask daskListed
        simp only [send_pure, daskFound.engines]
        split
        · next found =>
            rcases found with ⟨observed, observedMem, rfl⟩
            have holds := daskFound.holds observed observedMem
            rw [Holds, Present, rayFound.objects] at holds
            exact .found holds rfl
        · exact recallsRay ray rayFound.holds
    · next failure final daskListed =>
        simp only [engines_of_backend daskListed]
        exact recallsRay ray rayFound.holds

theorem state_discard (request : Routed α) (kubernetes : Kubernetes) :
    ((discard request).send kubernetes).2 = (request.send kubernetes).2 := by
  change (send (request >>= fun _ => pure PUnit.unit) kubernetes).2 = _
  rw [send_bind]
  rcases request.send kubernetes with ⟨failure | value, after⟩ <;> rfl

theorem engines_apply (router : EngineRouter) (id : ClusterId) (spec : ClusterSpec)
    (generation : ℕ) (queue : Option QueueAssignment) (kubernetes : Kubernetes) :
    ((router.apply id spec generation queue).send kubernetes).2.engines =
      Function.update kubernetes.engines id (some spec.engine) := by
  have remembered : (remember id spec.engine).send kubernetes = (.ok (), { kubernetes with
        engines := Function.update kubernetes.engines id (some spec.engine) }) := rfl
  rw [apply, send_bind, remembered]
  cases spec.engine <;> rfl

theorem engines_reapNetworkPolicies (router : EngineRouter) (id : ClusterId)
    (kubernetes : Kubernetes) :
    ((router.reapNetworkPolicies id).send kubernetes).2.engines = kubernetes.engines := by
  rw [reapNetworkPolicies, send_bind]
  rcases reaped : (backend (router.ray.reapNetworkPolicies id)).send kubernetes with
    ⟨failure | done, middle⟩
  · exact engines_of_backend reaped
  · exact (engines_of_backend rfl).trans (engines_of_backend reaped)

/-- Everything that a call can do to what the router remembers. -/
theorem recalls_request (call : RouterCall) (kubernetes : Kubernetes) (id : ClusterId) :
    Recalls router kubernetes call id
      (((router.request call).send kubernetes).2.engines id) := by
  cases call with
  | apply wanted spec generation queue =>
    rw [request, state_discard, engines_apply]
    rcases eq_or_ne id wanted with rfl | differs
    · rw [update_self]
      exact .applied rfl
    · rw [update_of_ne differs]
      exact .kept (by simp [RouterCall.creates, differs.symm])
  | ensureNamespacePosture => exact .kept (by simp [RouterCall.creates])
  | reapNetworkPolicies wanted =>
    rw [request, engines_reapNetworkPolicies]
    exact .kept (by simp [RouterCall.creates])
  | terminate wanted =>
    refine recalls_resolved ?_ rfl rfl
    intro engine state
    cases engine <;> rfl
  | suspend wanted =>
    refine recalls_resolved ?_ rfl rfl
    intro engine state
    cases engine <;> rfl
  | resume wanted =>
    refine recalls_resolved ?_ rfl rfl
    intro engine state
    cases engine <;> rfl
  | inspect wanted read =>
    refine recalls_resolved ?_ rfl rfl
    intro engine state
    rfl
  | observe wanted =>
    rw [request, state_discard]
    exact recalls_observe wanted
  | list =>
    rw [request, state_discard]
    exact recalls_list

end EngineRouter

end Mobula
