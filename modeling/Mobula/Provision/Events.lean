import Mobula.Provision.Kubernetes
import Mobula.Registry

/-!
# The events of a cluster

The events of one cluster are those about objects that are named like it, or like it with a dash
and anything after that. The operator names every object of a cluster so, but a cluster id may
itself hold dashes.
-/

namespace Mobula

open Foundation String List

def MAX_EVENTS : ℕ := 200

structure ClusterEvent where
  eventType : String
  reason : Option String
  message : Option String
  count : ℕ
  firstSeen : Option String
  lastSeen : Option String
  object : Option String
  deriving DecidableEq

structure ClusterEvents where
  clusterId : String
  events : List ClusterEvent

namespace KubeRay

def objectBelongsToCluster (id objectName : String) : Bool :=
  objectName = id || startsWith (id ++ "-") objectName

def eventObject (event : Json) : Option (String × String) := do
  let object ← (event.get? "involvedObject").or (event.get? "regarding")
  let name ← (object.get? "name").bind (·.asStr?)
  let kind := ((object.get? "kind").bind (·.asStr?)).getD "Object"
  return (name, kind ++ "/" ++ name)

def normalizedEvent (event : Json) (object : String) : ClusterEvent :=
  let text (key : String) : Option String := (event.get? key).bind (·.asStr?)
  let number (key : String) : Option ℕ := (event.get? key).bind (·.asU64?)
  let series (key : String) : Option Json := (event.get? "series").bind (·.get? key)
  let firstSeen := (text "firstTimestamp").or (text "eventTime")
  { eventType := (text "type").getD "Normal"
    reason := text "reason"
    message := (text "message").or (text "note")
    count := ((((number "count").or (number "deprecatedCount")).or
      ((series "count").bind (·.asU64?))).getD 1) % 2 ^ 32
    firstSeen := firstSeen
    lastSeen := (((text "lastTimestamp").or ((series "lastObservedTime").bind (·.asStr?))).or
      (text "eventTime")).or firstSeen
    object := some object }

def newerFirst (first second : ClusterEvent) : Bool :=
  match first.lastSeen, second.lastSeen with
  | _, none => true
  | none, some _ => false
  | some first, some second => decide (second ≤ first)

def eventsFromK8s (clusterId : String) (rawEvents : List Json) : ClusterEvents :=
  let events := rawEvents.filterMap fun event => do
    let (name, object) ← eventObject event
    if objectBelongsToCluster clusterId name then some (normalizedEvent event object) else none
  ⟨clusterId, (events.mergeSort newerFirst).take MAX_EVENTS⟩

end KubeRay

/-- What the operator adds to the id of a cluster to name its pods and services. -/
inductive OperatorSuffix : String → Prop where
  | headPod (random : String) : OperatorSuffix ("head-" ++ random)
  | headService : OperatorSuffix "head-svc"
  | serveService : OperatorSuffix "serve-svc"
  | workerPod (group random : String) : OperatorSuffix (group ++ "-worker-" ++ random)

/-- The names that objects of a cluster have. -/
def OwnsObject (id : ClusterId) (objectName : String) : Prop :=
  objectName = id ∨ ∃ suffix, OperatorSuffix suffix ∧ objectName = id ++ "-" ++ suffix

/-- An id that goes on after a dash where another one ends. -/
def ExtendsId (id longer : ClusterId) : Prop :=
  ∃ rest, longer = id ++ "-" ++ rest

theorem objectBelongsToCluster_iff {id objectName : String} :
    KubeRay.objectBelongsToCluster id objectName = true ↔
      objectName = id ∨ ExtendsId id objectName := by
  simp [KubeRay.objectBelongsToCluster, startsWith, isPrefixOf_iff_prefix]
  refine or_congr_right ⟨?_, ?_⟩
  · rintro ⟨rest, split⟩
    refine ⟨ofList rest, toList_injective ?_⟩
    simp [← split]
  · rintro ⟨rest, rfl⟩
    simp

theorem OwnsObject.named {id : ClusterId} {objectName : String} (owned : OwnsObject id objectName) :
    objectName = id ∨ ExtendsId id objectName :=
  owned.imp_right fun ⟨suffix, _, named⟩ => ⟨suffix, named⟩

/-- A text that goes on with a dash where an id ends also does so within a longer id. -/
theorem extendsId_of_split {id longer : ClusterId} {between rest rest' : List Char}
    (differ : id ≠ longer) (long : longer.toList = id.toList ++ between)
    (split : '-' :: rest = between ++ '-' :: rest') : ExtendsId id longer := by
  rcases between with _ | ⟨c, between⟩
  · exact absurd (toList_injective (by simpa using long.symm)) differ
  simp at split
  refine ⟨ofList between, toList_injective ?_⟩
  simp [long, ← split.1]

/-- Two ids can name one object only if one of them extends the other. -/
theorem extendsId_of_common {first second : ClusterId} {objectName : String}
    (differ : first ≠ second) (named : objectName = first ∨ ExtendsId first objectName)
    (named' : objectName = second ∨ ExtendsId second objectName) :
    ExtendsId first second ∨ ExtendsId second first := by
  rcases named with rfl | ⟨rest, rfl⟩
  · exact .inr (named'.resolve_left differ)
  rcases named' with rfl | ⟨rest', same⟩
  · exact .inl ⟨rest, rfl⟩
  have texts : first.toList ++ '-' :: rest.toList = second.toList ++ '-' :: rest'.toList := by
    simpa using congrArg toList same
  rcases append_eq_append_iff.mp texts with ⟨between, long, split⟩ | ⟨between, long, split⟩
  · exact .inl (extendsId_of_split differ long split)
  · exact .inr (extendsId_of_split differ.symm long split)

/-- An id that extends another one names an object of either cluster. -/
theorem common_of_extendsId {id other : ClusterId}
    (overlap : ExtendsId id other ∨ ExtendsId other id) :
    ∃ objectName, OwnsObject other objectName ∧
      KubeRay.objectBelongsToCluster id objectName = true := by
  rcases overlap with longer | ⟨rest, rfl⟩
  · exact ⟨other, .inl rfl, objectBelongsToCluster_iff.mpr (.inr longer)⟩
  · -- a worker group of the other cluster has the rest of the id for its name
    refine ⟨other ++ "-" ++ (rest ++ "-worker-" ++ ""),
      .inr ⟨_, .workerPod rest "", rfl⟩, objectBelongsToCluster_iff.mpr (.inr ⟨"worker-", ?_⟩)⟩
    apply toList_injective
    simp

theorem mem_eventsFromK8s {id : ClusterId} {raw : List Json} {shown : ClusterEvent}
    (mem : shown ∈ (KubeRay.eventsFromK8s id raw).events) :
    ∃ event ∈ raw, ∃ name label, KubeRay.eventObject event = some (name, label) ∧
      KubeRay.objectBelongsToCluster id name = true ∧
      shown = KubeRay.normalizedEvent event label := by
  have sorted := mem_mergeSort.mp (mem_of_mem_take mem)
  rcases mem_filterMap.mp sorted with ⟨event, listed, normal⟩
  simp only [Option.bind_eq_bind, Option.bind_eq_some_iff, Option.ite_none_right_eq_some,
    Option.some.injEq] at normal
  rcases normal with ⟨⟨name, label⟩, about, belongs, rfl⟩
  exact ⟨event, listed, name, label, about, belongs, rfl⟩

def eventAbout (name : String) : Json :=
  .object [("involvedObject", .object [("name", .str name)])]

theorem eventObject_eventAbout {name : String} :
    KubeRay.eventObject (eventAbout name) = some (name, "Object/" ++ name) := rfl

/-- Every event shown for a cluster is about an object of no other managed cluster, if and only
if the id of no other managed cluster extends, or is extended by, the id of the cluster. -/
theorem events_isolated_iff (managed : Set ClusterId) (id : ClusterId) :
    (∀ raw, ∀ shown ∈ (KubeRay.eventsFromK8s id raw).events,
      ∃ event ∈ raw, ∃ name label, KubeRay.eventObject event = some (name, label) ∧
        shown = KubeRay.normalizedEvent event label ∧
        ∀ other ∈ managed, other ≠ id → ¬OwnsObject other name) ↔
      ∀ other ∈ managed, other ≠ id → ¬(ExtendsId id other ∨ ExtendsId other id) := by
  constructor
  · intro isolated other known differ overlap
    rcases common_of_extendsId overlap with ⟨objectName, owned, belongs⟩
    have shown : KubeRay.normalizedEvent (eventAbout objectName) ("Object/" ++ objectName) ∈
        (KubeRay.eventsFromK8s id [eventAbout objectName]).events := by
      simp [KubeRay.eventsFromK8s, eventObject_eventAbout, belongs, MAX_EVENTS]
    rcases isolated _ _ shown with ⟨event, listed, name, label, about, -, foreign⟩
    rw [mem_singleton.mp listed, eventObject_eventAbout] at about
    cases about
    exact foreign other known differ owned
  · intro apart raw shown mem
    rcases mem_eventsFromK8s mem with ⟨event, listed, name, label, about, belongs, normal⟩
    refine ⟨event, listed, name, label, about, normal, ?_⟩
    intro other known differ owned
    exact apart other known differ
      (extendsId_of_common differ.symm (objectBelongsToCluster_iff.mp belongs) owned.named)

/-- The cluster "team" is shown what happens to the head of the cluster "team-b". -/
theorem events_leak_to_team :
    OwnsObject "team-b" "team-b-head-x1" ∧
      ((KubeRay.eventsFromK8s "team" [eventAbout "team-b-head-x1"]).events.map (·.object)) =
        [some "Object/team-b-head-x1"] :=
  ⟨.inr ⟨_, .headPod "x1", rfl⟩, by decide +kernel⟩

end Mobula
