import Mobula.Api.Alone
import Mobula.Provision.Demo

/-!
# Reading clusters

The handlers behind `GET /api/v1/clusters` and `GET /api/v1/clusters/{id}`. A caller with
project-scoped assignments sees the clusters of those projects only; others see what their roles
and assignments permit. The list applies the first rule or the second, the single read both.
-/

namespace Mobula

open Foundation Prog List Yields

variable {Provider : Type}

def ClusterView.fromStored (prices : Option ResourceMap) (row : StoredCluster) : ClusterView :=
  let cost := prices.bind fun prices => (estimateCost prices row.spec).toOption
  { id := row.id
    generation := row.generation
    desired := row.desired.asStr
    observedState := row.observedState.map ClusterState.asStr
    observedGeneration := row.observedGeneration
    condition := row.condition.map DriftCondition.asStr
    project := row.spec.project
    engine := row.spec.engine.asStr
    rayVersion := row.spec.rayVersion
    estMinHourly := cost.map (·.minHourly)
    estMaxHourly := cost.map (·.maxHourly) }

def projectOfScope (scope : String) : Option String :=
  if "project:".toList.isPrefixOf scope.toList then
    some (String.ofList (scope.toList.drop "project:".toList.length))
  else none

/-- The projects that a caller's visibility is narrowed to; none when it is not narrowed. -/
def narrowedTo (assignments : List (Role × String)) : Option (List String) :=
  let projects := assignments.filterMap fun held => projectOfScope held.2
  if projects.isEmpty then none else some projects

/-- The caller's assignments, and the projects its visibility is narrowed to. -/
def readScope : Caller → Program (List (Role × String) × Option (List String))
  | none => return ([], none)
  | some identity =>
    if .admin ∈ identity.roles then return ([], none)
    else do
      let assignments ← effectiveAssignments identity
      return (assignments, narrowedTo assignments)

def listShows (identity : Caller) (assignments : List (Role × String)) :
    Option (List String) → String → Bool
  | some projects, project => project ∈ projects
  | none, project =>
    identity.all fun caller => caller.permitsScoped .read .cluster assignments project

/-- A caller without narrowing, without assignments and without the permission is refused. -/
def refuseList (identity : Caller) (assignments : List (Role × String))
    (narrowed : Option (List String)) : Program (Option Response) :=
  match narrowed, identity with
  | none, some caller =>
    if !caller.permits .read .cluster && assignments.isEmpty then
      authorize (some caller) .read .cluster
    else return none
  | _, _ => return none

def listClusters (seed : PolicyConfig) (identity : Caller) : Program Response := do
  let (assignments, narrowed) ← readScope identity
  match ← refuseList identity assignments narrowed with
  | some denial => return denial
  | none =>
    match ← Calls.list with
    | .error _ => return storeError
    | .ok rows =>
      match ← effectivePolicy seed with
      | .error _ => return storeError
      | .ok policy =>
        let shown := rows.filter fun row =>
          listShows identity assignments narrowed row.spec.project
        return ⟨200, .clusters
          (shown.map (ClusterView.fromStored (policy.bind (·.prices))))⟩

def getCluster (seed : PolicyConfig) (identity : Caller) (id : ClusterId) :
    Program Response := do
  match ← Calls.get id with
  | .error _ => return storeError
  | .ok none => return noSuchCluster
  | .ok (some row) =>
    let (_, narrowed) ← readScope identity
    if narrowed.any fun projects => row.spec.project ∉ projects then return noSuchCluster
    else
      match ← authorizeScoped identity .read .cluster row.spec.project with
      | some denial => return denial
      | none =>
        match ← effectivePolicy seed with
        | .error _ => return storeError
        | .ok policy =>
          return ⟨200, .cluster (ClusterView.fromStored (policy.bind (·.prices)) row)⟩

/-- What `readScope` finds when nothing changes meanwhile. -/
def Store.readScopeOf (store : Store) :
    Caller → List (Role × String) × Option (List String)
  | none => ([], none)
  | some identity =>
    if .admin ∈ identity.roles then ([], none)
    else (store.assignmentsOf identity, narrowedTo (store.assignmentsOf identity))

section Alone

variable (platform : Platform Provider) (thread : ℕ)

theorem readScope_runs (identity : Caller) (world : World Provider) :
    Runs platform thread (readScope identity) world (world.store.readScopeOf identity) world := by
  rcases identity with _ | identity
  · exact .ret
  unfold readScope Store.readScopeOf
  by_cases everything : .admin ∈ identity.roles
  · simp only [if_pos everything]
    exact .ret
  · simp only [if_neg everything]
    exact effectiveAssignments_runs.bind .ret

def Store.refusesList (store : Store) : Caller → Bool
  | none => false
  | some caller =>
    let (assignments, narrowed) := store.readScopeOf (some caller)
    narrowed.isNone && !caller.permits .read .cluster && assignments.isEmpty

variable {identity : Caller} {world : World Provider}

theorem refuseList_passes (admitted : world.store.refusesList identity = false) :
    Runs platform thread (refuseList identity (world.store.readScopeOf identity).1
      (world.store.readScopeOf identity).2) world none world := by
  unfold refuseList
  cases narrowed : (world.store.readScopeOf identity).2 with
  | some projects => exact .ret
  | none =>
    rcases identity with _ | caller
    · exact .ret
    simp only [Store.refusesList, narrowed, Option.isNone_none, Bool.true_and] at admitted
    simp only [admitted]
    exact .ret

theorem refuseList_refuses (refused : world.store.refusesList identity = true) :
    ∃ world', Runs platform thread (refuseList identity (world.store.readScopeOf identity).1
      (world.store.readScopeOf identity).2) world
      (some ⟨403, .text "insufficient permission"⟩) world' := by
  rcases identity with _ | caller
  · cases refused
  simp [Store.refusesList] at refused
  have forbidden : (some caller).all (·.permits .read .cluster) = false := by
    simpa using refused.1.2
  rcases authorize_refuses platform thread world forbidden with ⟨final, denied, _⟩
  refine ⟨final, ?_⟩
  unfold refuseList
  simp [refused.1.1, refused.1.2, refused.2, Bool.and_self]
  exact denied

def Store.listed (store : Store) (identity : Caller) : List StoredCluster :=
  store.clusters.rows.filter fun row =>
    listShows identity (store.readScopeOf identity).1 (store.readScopeOf identity).2
      row.spec.project

theorem listClusters_answers (seed : PolicyConfig)
    (admitted : world.store.refusesList identity = false) :
    ∃ final, Runs platform thread (listClusters seed identity) world
      ⟨200, .clusters ((world.store.listed identity).map (ClusterView.fromStored
        ((world.store.policyUnder seed).bind (·.prices))))⟩ final := by
  refine ⟨world.seeded seed, ?_⟩
  apply bind (readScope_runs platform thread identity world)
  apply bind (refuseList_passes platform thread admitted)
  apply invoke exec_list
  apply bind effectivePolicy_runs
  exact .ret

theorem listClusters_refuses (seed : PolicyConfig)
    (refused : world.store.refusesList identity = true) :
    ∃ final, Runs platform thread (listClusters seed identity) world
      ⟨403, .text "insufficient permission"⟩ final := by
  rcases refuseList_refuses platform thread refused with ⟨final, denied⟩
  refine ⟨final, ?_⟩
  apply bind (readScope_runs platform thread identity world)
  exact denied.bind .ret

def Store.hides (store : Store) (identity : Caller) (project : String) : Bool :=
  (store.readScopeOf identity).2.any fun projects => project ∉ projects

theorem getCluster_answers (seed : PolicyConfig) {identity : Caller}
    {world : World Provider} {row : StoredCluster}
    (stored : world.store.clusters.find? row.id = some row) :
    ∃ response final, Runs platform thread (getCluster seed identity row.id) world response
        final ∧
      (response.status = 200 ↔ world.store.hides identity row.spec.project = false ∧
        world.store.permitsScoped identity .read .cluster row.spec.project = true) := by
  by_cases hidden : world.store.hides identity row.spec.project = true
  · refine ⟨noSuchCluster, world, ?_, by simp [noSuchCluster, hidden]⟩
    apply invoke exec_get
    simp only [stored]
    apply bind (readScope_runs platform thread identity world)
    rw [Store.hides] at hidden
    simp only [hidden, if_true]
    exact .ret
  · simp at hidden
    cases permitted : world.store.permitsScoped identity .read .cluster row.spec.project with
    | true =>
      refine ⟨⟨200, .cluster (ClusterView.fromStored
        ((world.store.policyUnder seed).bind (·.prices)) row)⟩, world.seeded seed, ?_,
        by simp [hidden]⟩
      apply invoke exec_get
      simp only [stored]
      apply bind (readScope_runs platform thread identity world)
      rw [Store.hides] at hidden
      simp only [hidden]
      apply bind (authorizeScoped_passes permitted)
      apply bind effectivePolicy_runs
      exact .ret
    | false =>
      rcases authorizeScoped_refuses platform thread permitted with ⟨final, denied, _⟩
      refine ⟨⟨403, .text "insufficient permission"⟩, final, ?_, by simp⟩
      apply invoke exec_get
      simp only [stored]
      apply bind (readScope_runs platform thread identity world)
      rw [Store.hides] at hidden
      simp only [hidden]
      exact denied.bind .ret

end Alone

theorem projectOfScope_eq_some_iff {scope project : String} :
    projectOfScope scope = some project ↔ scope = "project:" ++ project := by
  unfold projectOfScope
  constructor
  · intro named
    split at named
    case isTrue starts =>
      rcases isPrefixOf_iff_prefix.mp starts with ⟨rest, split⟩
      rw [← split, drop_left, Option.some.injEq] at named
      rw [← String.toList_inj, String.toList_append, ← named, @String.toList_ofList rest, split]
    case isFalse other => cases named
  · rintro rfl
    rw [String.toList_append, if_pos (List.isPrefixOf_iff_prefix.mpr (prefix_append _ _)),
      drop_left, String.ofList_toList]

/-- The stored assignments bind the user to the project. -/
def Store.bindsTo (store : Store) (identity : Identity) (project : String) : Prop :=
  ∃ held ∈ store.assignmentsOf identity, held.2 = "project:" ++ project

theorem mem_narrowed_iff {assignments : List (Role × String)} {project : String} :
    (project ∈ assignments.filterMap fun held => projectOfScope held.2) ↔
      ∃ held ∈ assignments, held.2 = "project:" ++ project := by
  simp only [mem_filterMap, projectOfScope_eq_some_iff]

theorem grants_read_cluster_iff {role : Role} :
    role.grants .read .cluster = true ↔ role ≠ .auditor := by
  cases role <;> decide

theorem permitsScoped_read_iff {identity : Identity} {assignments : List (Role × String)}
    {project : String} : identity.permitsScoped .read .cluster assignments project = true ↔
      (∃ role ∈ identity.roles, role ≠ .auditor) ∨
        ∃ held ∈ assignments, scopeCovers held.2 project = true ∧ held.1 ≠ .auditor := by
  simp [Identity.permitsScoped, Identity.permits, grants_read_cluster_iff]

section Visibility

variable (platform : Platform Provider) (thread : ℕ) (seed : PolicyConfig)

/-- The cluster is listed to the caller. -/
def ListsCluster (identity : Caller) (world : World Provider) (id : ClusterId) : Prop :=
  ∃ views final, Runs platform thread (listClusters seed identity) world ⟨200, .clusters views⟩
    final ∧ ∃ view ∈ views, view.id = id

/-- The caller can get the cluster. -/
def GetsCluster (identity : Caller) (world : World Provider) (id : ClusterId) : Prop :=
  ∃ response final, Runs platform thread (getCluster seed identity id) world response final ∧
    response.status = 200

variable {identity : Caller} {world : World Provider} {row : StoredCluster}

theorem listsCluster_iff (stored : row ∈ world.store.clusters.rows) :
    ListsCluster platform thread seed identity world row.id ↔
      world.store.refusesList identity = false ∧
        listShows identity (world.store.readScopeOf identity).1
          (world.store.readScopeOf identity).2 row.spec.project = true := by
  cases refused : world.store.refusesList identity with
  | true =>
    rcases listClusters_refuses platform thread seed refused with ⟨final, denied⟩
    constructor
    · rintro ⟨views, _, answered, _⟩
      have same := congrArg Response.status (answered.unique denied).1
      simp at same
    · rintro ⟨admitted, _⟩
      cases admitted
  | false =>
    rcases listClusters_answers platform thread seed refused with ⟨final, answered⟩
    constructor
    · rintro ⟨views, _, ran, view, viewMem, named⟩
      have same := congrArg Response.body (ran.unique answered).1
      simp only [Body.clusters.injEq] at same
      rw [same] at viewMem
      rcases mem_map.mp viewMem with ⟨shown, shownMem, rfl⟩
      simp [Store.listed] at shownMem
      have sameRow : shown = row := Table.eq_of_mem_of_key_eq shownMem.1 stored named
      exact ⟨rfl, sameRow ▸ shownMem.2⟩
    · rintro ⟨_, shows⟩
      refine ⟨_, final, answered, _, mem_map_of_mem (a := row) ?_, rfl⟩
      exact mem_filter.mpr ⟨stored, shows⟩

theorem getsCluster_iff (stored : row ∈ world.store.clusters.rows) :
    GetsCluster platform thread seed identity world row.id ↔
      world.store.hides identity row.spec.project = false ∧
        world.store.permitsScoped identity .read .cluster row.spec.project = true := by
  rcases @getCluster_answers _ platform thread seed identity world row
    (Table.find?_of_mem stored) with ⟨response, final, answered, success⟩
  rw [← success]
  constructor
  · rintro ⟨other, _, ran, succeeded⟩
    rw [← (ran.unique answered).1, succeeded]
  · intro succeeded
    exact ⟨response, final, answered, succeeded⟩

/--
The list and the single read agree on a stored cluster, and show it only to callers
with Read on it, iff a caller that has an assignment to the cluster's project also
has a role for it other than auditor: the list looks at the project of the
assignment and not at its role.
-/
theorem list_get_agree_iff {identity : Identity} {world : World Provider} {row : StoredCluster}
    (stored : row ∈ world.store.clusters.rows) :
    ((ListsCluster platform thread seed (some identity) world row.id ↔
        GetsCluster platform thread seed (some identity) world row.id) ∧
      (ListsCluster platform thread seed (some identity) world row.id →
        identity.permits .read .cluster = true ∨
          ∃ held ∈ world.store.assignmentsOf identity,
            scopeCovers held.2 row.spec.project = true ∧
              held.1.grants .read .cluster = true)) ↔
      (world.store.bindsTo identity row.spec.project →
        (∃ role ∈ identity.roles, role ≠ .auditor) ∨
          ∃ held ∈ world.store.assignmentsOf identity,
            scopeCovers held.2 row.spec.project = true ∧ held.1 ≠ .auditor) := by
  rw [listsCluster_iff platform thread seed stored, getsCluster_iff platform thread seed stored]
  have reads : (identity.permits .read .cluster = true ∨
      ∃ held ∈ world.store.assignmentsOf identity, scopeCovers held.2 row.spec.project = true ∧
        held.1.grants .read .cluster = true) ↔
      identity.permitsScoped .read .cluster (world.store.assignmentsOf identity)
        row.spec.project = true := by
    simp [Identity.permitsScoped]
  have permits : world.store.permitsScoped (some identity) .read .cluster row.spec.project =
      identity.permitsScoped .read .cluster (world.store.assignmentsOf identity)
        row.spec.project := rfl
  rw [reads, permits, ← permitsScoped_read_iff]
  by_cases everything : .admin ∈ identity.roles
  · have scope : world.store.readScopeOf (some identity) = ([], none) := by
      simp [Store.readScopeOf, everything]
    have everywhere : identity.permits .read .cluster = true :=
      any_eq_true.mpr ⟨.admin, everything, rfl⟩
    simp [Store.refusesList, Store.hides, scope, listShows, Identity.permitsScoped, everywhere]
  · have scope : world.store.readScopeOf (some identity) =
        (world.store.assignmentsOf identity, narrowedTo (world.store.assignmentsOf identity)) := by
      simp [Store.readScopeOf, everything]
    have bound : world.store.bindsTo identity row.spec.project ↔
        row.spec.project ∈ (world.store.assignmentsOf identity).filterMap fun held =>
          projectOfScope held.2 := mem_narrowed_iff.symm
    rw [bound]
    cases projects : (world.store.assignmentsOf identity).filterMap fun held =>
        projectOfScope held.2 with
    | nil =>
      -- Without narrowing the list asks the same question as the single read.
      have narrowed : narrowedTo (world.store.assignmentsOf identity) = none := by
        simp [narrowedTo, projects]
      have answers : identity.permitsScoped .read .cluster (world.store.assignmentsOf identity)
          row.spec.project = true → world.store.refusesList (some identity) = false := by
        intro permitted
        cases held : world.store.assignmentsOf identity with
        | nil =>
          have everywhere : identity.permits .read .cluster = true := by
            simpa [Identity.permitsScoped, held] using permitted
          simp [Store.refusesList, everywhere]
        | cons first others => simp [Store.refusesList, scope, held]
      simp only [Store.hides, scope, narrowed, listShows, Option.all_some, Option.any_none,
        not_mem_nil, false_implies, iff_true, true_and]
      exact ⟨⟨And.right, fun permitted => ⟨answers permitted, permitted⟩⟩, And.right⟩
    | cons first others =>
      have narrowed : narrowedTo (world.store.assignmentsOf identity) = some (first :: others) := by
        simp [narrowedTo, projects]
      have answers : world.store.refusesList (some identity) = false := by
        simp [Store.refusesList, scope, narrowed]
      simp only [Store.hides, scope, narrowed, listShows, answers, Option.any_some,
        decide_eq_true_eq, decide_eq_false_iff_not, not_not, true_and]
      exact ⟨And.right, fun permitted => ⟨⟨fun shown => ⟨shown, permitted shown⟩, And.left⟩,
        permitted⟩⟩

end Visibility

/-- A caller with one role in project `p`, by a group mapping, and none elsewhere. -/
def projectMember (role : Role) : Identity where
  subject := "mallory"
  username := none
  roles := []
  projectRoles := [(role, "project:p")]

def readableStore : Store :=
  storeOf postedHead

/-- A viewer of a project sees its clusters in the list and one by one. -/
theorem list_get_agree_for_viewer :
    (ListsCluster demoPlatform 0 noPolicy (some (projectMember .viewer))
        (demoWorld readableStore) "c1" ↔
      GetsCluster demoPlatform 0 noPolicy (some (projectMember .viewer))
        (demoWorld readableStore) "c1") := by
  have stored : postedHead ∈
      (demoWorld readableStore).store.clusters.rows := by decide +kernel
  refine ((list_get_agree_iff demoPlatform 0 noPolicy stored).mpr ?_).1
  intro _
  exact .inr ⟨(.viewer, "project:p"), by decide +kernel, by decide +kernel, by decide⟩

/-- The list shows a project's clusters to its auditor, who may not read them. -/
theorem list_shows_cluster_to_auditor :
    ListsCluster demoPlatform 0 noPolicy (some (projectMember .auditor))
        (demoWorld readableStore) "c1" ∧
      ¬ GetsCluster demoPlatform 0 noPolicy (some (projectMember .auditor))
        (demoWorld readableStore) "c1" := by
  have stored : postedHead ∈
      (demoWorld readableStore).store.clusters.rows := by decide +kernel
  constructor
  · rw [show ("c1" : ClusterId) = postedHead.id from rfl,
      listsCluster_iff demoPlatform 0 noPolicy stored]
    decide +kernel
  · rw [show ("c1" : ClusterId) = postedHead.id from rfl,
      getsCluster_iff demoPlatform 0 noPolicy stored]
    decide +kernel

end Mobula
