import Mobula.Api.PoolResolution

/-!
# Fractional GPUs in shared pools

Creating a cluster checks the first pool of its project; giving a pool one more tenant does not
look at clusters at all.
-/

namespace Mobula

open Foundation Table Fallible

/-- Some worker group asks for part of a GPU. -/
def ClusterSpec.fractional (spec : ClusterSpec) : Bool :=
  spec.workerGroups.any fun group =>
    match gpuCount group.gpu with
    | .ok count => count.den ≠ 1
    | .error _ => false

/-- No cluster that runs on a fraction of a GPU belongs to a project in a shared pool. -/
def Store.GpuIsolated (store : Store) : Prop :=
  ∀ row ∈ store.clusters.rows, row.desired = .running → row.spec.fractional = true →
    ∀ pool ∈ store.pools.rows,
      (∃ own ∈ store.allocationsOf pool.name, own.project = row.spec.project) →
      store.SingleTenant pool.name

/-- The requests that decide who shares a GPU. -/
inductive TenancyRequest where
  | create (identity : Caller) (body : CreateCluster)
  | delete (identity : Caller) (id : ClusterId) (purge : Bool)
  | pool (request : PoolRequest)

def TenancyRequest.program (seed : PolicyConfig) : TenancyRequest → Program Unit
  | .create identity body => Actor.discard (createCluster seed identity body)
  | .delete identity id purge => Actor.discard (deleteCluster identity id purge)
  | .pool request => request.program seed

/-- One of several tenants runs a cluster on a fraction of a GPU. -/
def Store.exposes (store : Store) (tenants : List String) : Bool :=
  store.clusters.rows.any fun row =>
    row.desired = .running && row.spec.fractional && row.spec.project ∈ tenants &&
      tenants.any (· ≠ row.spec.project)

def Store.tenants (store : Store) (name : String) : List String :=
  (store.allocationsOf name).map (·.project)

/--
Whether a request creates a cluster with a fractional request for a project with
several pools, or is accepted and makes a project that runs one share a pool.
-/
def TenancyRequest.exposes (seed : PolicyConfig) (store : Store) : TenancyRequest → Bool
  | .create _ body =>
    body.spec.fractional && 1 < (store.poolsWith body.spec.project).length
  | .delete _ _ _ => false
  | .pool (.createPool identity spec) =>
    mayPool identity .write && (checkPoolSpec spec).isOk &&
      (store.pools.find? spec.name).isNone && store.exposes (store.tenants spec.name)
  | .pool (.putAllocation identity name project body) =>
    mayPool identity .write && !body.contradicts name project &&
      (body.allocation name project).validate.isOk &&
      (store.pools.find? name).any (fun pool => (checkPoolGpuIsolation pool.spec
        seed.gpuDefaultSharing (tenantsWith (store.allocationsOf name) project)).isOk) &&
      store.exposes (project :: store.tenants name)
  | .pool _ => false

variable {Provider : Type}

/-- Requests change rows, pools and allocations; the order of listings may change any time. -/
structure World.TenancyDrift (before after : World Provider) : Prop
    extends World.CatalogDrift before after where
  clusters : Table.Reordered before.store.clusters after.store.clusters

def serialTenancy (platform : Platform Provider) (seed : PolicyConfig) :
    SerialSystem Call.Res (World Provider) TenancyRequest where
  exec := exec platform 0
  behaviour := TenancyRequest.program seed
  drift := World.TenancyDrift

/-- Pools and allocations stay, and clusters that run ran before or are allowed to. -/
structure RowsTurn (allowed : ClusterSpec → Prop) (before after : Store) : Prop where
  pools : ∀ name, (after.pools.find? name).map StoredPool.wanted =
    (before.pools.find? name).map StoredPool.wanted
  allocations : after.allocations = before.allocations
  running : ∀ row ∈ after.clusters.rows, row.desired = .running →
    (∃ old ∈ before.clusters.rows, old.desired = .running ∧ old.spec = row.spec) ∨
      allowed row.spec

variable {store : Store} {thread : ℕ} {seed : PolicyConfig}

namespace RowsTurn

variable {allowed : ClusterSpec → Prop} {platform : Platform Provider}
  {world world' : World Provider}

theorem refl (allowed : ClusterSpec → Prop) (store : Store) : RowsTurn allowed store store :=
  ⟨fun _ => rfl, rfl, fun row rowMem running => .inl ⟨row, rowMem, running, rfl⟩⟩

theorem quiet (turn : RowsTurn allowed store world.store) (quiet : Quiet world world') :
    RowsTurn allowed store world'.store where
  pools := quiet.pools ▸ turn.pools
  allocations := quiet.allocations ▸ turn.allocations
  running := quiet.clusters ▸ turn.running

/-- A call that posts allowed specifications only, and starts no row, continues a turn. -/
theorem exec {call : Call} {answer : call.Res} (turn : RowsTurn allowed store world.store)
    (answered : exec platform thread call world = some (answer, world'))
    (keeps : call.keepsCatalog = true)
    (posts : ∀ id spec, call = .row (.upsertDesired id spec) → allowed spec)
    (flips : ∀ id desired, call = .row (.setDesired id desired) → desired = .terminated) :
    RowsTurn allowed store world'.store where
  pools name := (pools_exec answered keeps name).trans (turn.pools name)
  allocations := (allocations_exec answered keeps).trans turn.allocations
  running := by
    have before {previous : StoredCluster} {id : ClusterId}
        (stored : world.store.clusters.find? id = some previous)
        (runs : previous.desired = .running) :
        (∃ old ∈ store.clusters.rows, old.desired = .running ∧ old.spec = previous.spec) ∨
          allowed previous.spec :=
      turn.running previous (mem_of_find? stored) runs
    intro row rowMem runs
    have step := rowStep_exec answered (find?_of_mem rowMem)
    generalize rowId : row.id = id at step
    cases step with
    | posted spec =>
      refine .inr ?_
      rw [ClusterTable.upsertedRow_spec]
      exact posts _ spec rfl
    | flipped desired stored =>
      rw [flips _ desired rfl] at runs
      cases runs
    | observed state generation stored =>
      have ran := before stored runs
      exact ran
    | kept stored spec _ desired _ =>
      rw [spec]
      exact before stored (desired ▸ runs)

end RowsTurn

section Clusters

variable {platform : Platform Provider} {world world' : World Provider} {identity : Caller}
  {response : Response}

theorem gpuVerdict_congr {store' : Store} {spec : ClusterSpec} {pools : List StoredPool}
    (same : store'.allocations = store.allocations) :
    store'.gpuVerdict seed spec pools = store.gpuVerdict seed spec pools := by
  have listed (name : String) : store'.allocationsOf name = store.allocationsOf name := by
    simp only [Store.allocationsOf, same]
  induction pools with
  | nil => rfl
  | cons pool pools ih =>
    unfold Store.gpuVerdict
    rw [listed, ih]

/-- What a creation may post: its own specification, if the GPU check passes. -/
def CreateCluster.Posts (body : CreateCluster) (identity : Caller) (seed : PolicyConfig)
    (store : Store) (spec : ClusterSpec) : Prop :=
  spec = body.ownedSpec identity ∧ store.gpuVerdict seed spec store.pools.rows = .ok ()

theorem createCluster_turn {body : CreateCluster}
    (ran : Runs platform thread (createCluster seed identity body) world response world') :
    RowsTurn (body.Posts identity seed world.store) world.store world'.store := by
  rcases ran.of_bind with ⟨denial, authorizing, authorized, afterAuthorizing⟩
  have quiet := Quiet.of_ran
    (authorizeScoped_calls.mono fun _ => AuthorizationCall.quiet) authorized
  have start := (RowsTurn.refl (body.Posts identity seed world.store) world.store).quiet quiet
  cases denial with
  | some refusal =>
    rw [afterAuthorizing.of_ret.2]
    exact start
  | none =>
    rcases afterAuthorizing.of_bind with ⟨policy, seeded, seeding, afterSeeding⟩
    rcases effectivePolicy_runs.unique seeding with ⟨rfl, rfl⟩
    have gated : RowsTurn (body.Posts identity seed world.store) world.store
        (authorizing.seeded seed).store := ⟨start.pools, start.allocations, start.running⟩
    rcases afterSeeding.of_bind with ⟨gate, passing, gating, afterGate⟩
    have verdictEq : (authorizing.seeded seed).store.gpuVerdict seed (body.ownedSpec identity)
        (authorizing.seeded seed).store.pools.rows =
        world.store.gpuVerdict seed (body.ownedSpec identity) world.store.pools.rows := by
      rw [gpuVerdict_congr gated.allocations]
      exact congrArg _ (congrArg rows quiet.pools)
    cases verdict : world.store.gpuVerdict seed (body.ownedSpec identity)
      world.store.pools.rows with
    | error violation =>
      rcases gpuGate_refuses platform thread identity body.id (verdictEq.trans verdict) with
        ⟨refusing, refused, calm⟩
      rcases refused.unique gating with ⟨rfl, rfl⟩
      rw [afterGate.of_ret.2]
      exact gated.quiet calm
    | ok passed =>
      rcases (gpuGate_passes (verdictEq.trans verdict)).unique gating with ⟨rfl, rfl⟩
      refine Prog.Within.yields_invariant (@admitAndStore_calls identity _ seed _ _)
        (fun between => RowsTurn (body.Posts identity seed world.store) world.store
          between.store) ?_ afterGate gated
      intro call before answer after made answered turn
      refine turn.exec answered ?_ ?_ ?_
      · cases made with
        | passive passive => exact keepsCatalog_of_passive passive
        | _ => rfl
      · rintro id spec rfl
        cases made with
        | passive passive => cases passive
        | upsert => exact ⟨rfl, verdict⟩
      · rintro id desired rfl
        cases made with
        | passive passive => cases passive

theorem deleteCluster_turn {id : ClusterId} {purge : Bool}
    (ran : Runs platform thread (deleteCluster identity id purge) world response world') :
    RowsTurn (fun _ => False) world.store world'.store := by
  refine Prog.Within.yields_invariant deleteCluster_calls
    (fun between => RowsTurn (fun _ => False) world.store between.store) ?_ ran
    (RowsTurn.refl _ world.store)
  intro call before answer after made answered turn
  refine turn.exec answered ?_ ?_ ?_
  · cases made with
    | passive passive => exact keepsCatalog_of_passive passive
    | _ => rfl
  · rintro id spec rfl
    cases made with
    | passive passive => cases passive
  · rintro id desired rfl
    cases made with
    | passive passive => cases passive
    | terminate => rfl

end Clusters

section Turns

variable {store' : Store}

theorem not_fractional_of_isolated {pool : PoolSpec} {default : GpuSharing} {tenants : ℕ}
    {spec : ClusterSpec} (several : 1 < tenants)
    (isolated : checkClusterGpuIsolation pool default tenants spec = .ok ()) :
    spec.fractional = false := by
  simp only [checkClusterGpuIsolation, bind_eq_ok] at isolated
  rcases isolated with ⟨_, _, groups⟩
  rw [if_neg (by omega), forM_eq_ok] at groups
  rw [ClusterSpec.fractional, List.any_eq_false]
  intro group groupMem
  have whole := groups group groupMem
  rcases asked : group.gpu with _ | raw
  · simp [gpuCount]
  simp only [checkGroupGpu, asked, bind_eq_ok, mapError_eq_ok] at whole
  rcases whole with ⟨count, counted, integral⟩
  rw [counted]
  split at integral
  · cases integral
  · next wholeNumber => simpa using wholeNumber

/-- A checked cluster with a fractional request has its only pool for itself. -/
theorem singleTenant_of_posted {spec : ClusterSpec} {pool : StoredPool}
    (passed : store.gpuVerdict seed spec store.pools.rows = .ok ())
    (fractional : spec.fractional = true)
    (single : (store.poolsWith spec.project).length ≤ 1) (poolMem : pool ∈ store.pools.rows)
    (owned : ∃ own ∈ store.allocationsOf pool.name, own.project = spec.project) :
    store.SingleTenant pool.name := by
  have among : pool ∈ store.poolsWith spec.project := by
    rcases owned with ⟨own, ownMem, owner⟩
    exact List.mem_filter.mpr ⟨poolMem, List.any_eq_true.mpr ⟨own, ownMem, by simpa using owner⟩⟩
  have only : store.poolsWith spec.project = [pool] := by
    match listed : store.poolsWith spec.project with
    | [] => simp [listed] at among
    | [other] =>
      simp [listed] at among
      rw [among]
    | first :: second :: others => simp [listed] at single
  have checked : checkClusterGpuIsolation pool.spec seed.gpuDefaultSharing
      (store.allocationsOf pool.name).length spec = .ok () := by
    rw [Store.gpuVerdict_eq, Store.poolIn_eq_head?, only] at passed
    exact passed
  have few : (store.allocationsOf pool.name).length ≤ 1 := by
    by_contra several
    have whole := not_fractional_of_isolated (by omega) checked
    rw [fractional] at whole
    cases whole
  match listed : store.allocationsOf pool.name with
  | [] => simp [Store.SingleTenant, listed]
  | [own] => simp [Store.SingleTenant, listed]
  | first :: second :: others => simp [listed] at few

theorem tenants_of_not_exposes {tenants : List String} {row : StoredCluster}
    (hidden : store.exposes tenants = false) (rowMem : row ∈ store.clusters.rows)
    (running : row.desired = .running) (fractional : row.spec.fractional = true)
    (tenant : row.spec.project ∈ tenants) : ∀ other ∈ tenants, other = row.spec.project := by
  rw [Store.exposes, List.any_eq_false] at hidden
  have alone := hidden row rowMem
  simpa [running, fractional, tenant] using alone

/-- A request on clusters keeps the rule, if what it may post has its pools for itself. -/
theorem Store.GpuIsolated.turn {allowed : ClusterSpec → Prop} (isolated : store.GpuIsolated)
    (turn : RowsTurn allowed store store')
    (posts : ∀ spec, allowed spec → spec.fractional = true → ∀ pool ∈ store.pools.rows,
      (∃ own ∈ store.allocationsOf pool.name, own.project = spec.project) →
      store.SingleTenant pool.name) : store'.GpuIsolated := by
  intro row rowMem running fractional pool poolMem owned
  have listed (name : String) : store'.allocationsOf name = store.allocationsOf name := by
    simp only [Store.allocationsOf, turn.allocations]
  have found := turn.pools pool.name
  rw [find?_of_mem poolMem, Option.map_some, eq_comm, Option.map_eq_some_iff] at found
  rcases found with ⟨previous, stored, _⟩
  have sameName : previous.name = pool.name := key_of_find? stored
  rw [Store.SingleTenant, listed, ← sameName]
  rw [listed, ← sameName] at owned
  rcases turn.running row rowMem running with ⟨old, oldMem, ran, sameSpec⟩ | permitted
  · rw [← sameSpec] at fractional owned
    exact isolated old oldMem ran fractional previous (mem_of_find? stored) owned
  · exact posts row.spec permitted fractional previous (mem_of_find? stored) owned

/-- A request on pools keeps the rule, unless a project that runs a fraction comes to share. -/
theorem Store.GpuIsolated.does {request : PoolRequest} {catalog : Catalog}
    (isolated : store.GpuIsolated) (does : request.Does seed store catalog)
    (settled : store'.catalog = catalog) (clusters : store'.clusters = store.clusters)
    (hidden : TenancyRequest.exposes seed store (.pool request) = false) : store'.GpuIsolated := by
  have pools : store'.pools = catalog.pools := congrArg Catalog.pools settled
  have allocations : store'.allocations = catalog.allocations :=
    congrArg Catalog.allocations settled
  intro row rowMem running fractional pool poolMem owned
  rw [clusters] at rowMem
  rw [pools] at poolMem
  -- With no more allocations than before, a pool that was stored before is as it was.
  have unchanged (fewer : ∀ alloc ∈ store'.allocations.rows, alloc ∈ store.allocations.rows)
      (stored : pool ∈ store.pools.rows) : store'.SingleTenant pool.name := by
    rcases owned with ⟨own, ownMem, owner⟩
    rw [Store.mem_allocationsOf] at ownMem
    have ownedBefore : ∃ own ∈ store.allocationsOf pool.name, own.project = row.spec.project :=
      ⟨own, Store.mem_allocationsOf.mpr ⟨fewer own ownMem.1, ownMem.2⟩, owner⟩
    exact (isolated row rowMem running fractional pool stored ownedBefore).of_subset fewer
  have kept (same : store'.allocations = store.allocations) (stored : pool ∈ store.pools.rows) :
      store'.SingleTenant pool.name :=
    unchanged (fun alloc allocMem => same ▸ allocMem) stored
  -- The tenants of a pool are all the same project if one of them runs a fraction alone.
  have alone {tenants : List String} (quiet : store.exposes tenants = false)
      (among : ∀ alloc ∈ store'.allocationsOf pool.name, alloc.project ∈ tenants) :
      store'.SingleTenant pool.name := by
    rcases owned with ⟨own, ownMem, owner⟩
    have same := tenants_of_not_exposes quiet rowMem running fractional (owner ▸ among own ownMem)
    intro first firstMem second secondMem
    rw [same _ (among first firstMem), same _ (among second secondMem)]
  cases does with
  | nothing => exact kept allocations poolMem
  | @creates identity spec stamp permitted checked absent =>
    rcases mem_insert.mp poolMem with rfl | ⟨stored, _⟩
    · refine @alone (store.tenants spec.name) ?_ ?_
      · simpa [TenancyRequest.exposes, permitted, checked, absent, Except.isOk, Except.toBool]
          using hidden
      · intro alloc allocMem
        rw [Store.mem_allocationsOf, allocations] at allocMem
        exact List.mem_map.mpr ⟨alloc, Store.mem_allocationsOf.mpr allocMem, rfl⟩
    · exact kept allocations stored
  | removes => exact kept allocations (mem_erase.mp poolMem).1
  | @puts identity name project body target permitted agrees found valid isolated' =>
    by_cases here : pool.name = name
    · refine @alone (project :: store.tenants name) ?_ ?_
      · simpa [TenancyRequest.exposes, permitted, agrees, found, valid, isolated', Except.isOk,
          Except.toBool] using hidden
      · intro alloc allocMem
        rcases Store.mem_allocationsOf_insert allocations allocMem with ⟨rfl, _⟩ | before
        · exact List.mem_cons_self
        · exact List.mem_cons_of_mem _ (List.mem_map.mpr ⟨alloc, here ▸ before, rfl⟩)
    · rcases owned with ⟨own, ownMem, owner⟩
      have ownedBefore : own ∈ store.allocationsOf pool.name := by
        rcases Store.mem_allocationsOf_insert allocations ownMem with ⟨_, inside⟩ | before
        · exact absurd inside.symm here
        · exact before
      have single := isolated row rowMem running fractional pool poolMem ⟨own, ownedBefore, owner⟩
      exact single.of_insert allocations here
  | frees =>
    refine unchanged ?_ poolMem
    intro alloc allocMem
    rw [allocations] at allocMem
    exact (mem_erase.mp allocMem).1

end Turns

section Runs

variable {platform : Platform Provider} {origin final : World Provider}
  {turns : List (Turn (World Provider) TenancyRequest)}

theorem Store.GpuIsolated.drift {before after : World Provider}
    (drifted : before.TenancyDrift after) (isolated : before.store.GpuIsolated) :
    after.store.GpuIsolated := by
  rintro row rowMem running fractional pool poolMem ⟨own, ownMem, owner⟩
  have single := isolated row (drifted.clusters.mem_iff.mpr rowMem) running fractional pool
    (drifted.pools.mem_iff.mpr poolMem)
    ⟨own, drifted.toCatalogDrift.mem_allocationsOf.mp ownMem, owner⟩
  exact single.of_subset fun alloc allocMem => drifted.allocations.mem_iff.mpr allocMem

theorem gpuIsolated_of_turn {request : TenancyRequest} {before after : World Provider}
    (ran : (request.program seed).Yields (exec platform 0) before () after)
    (hidden : request.exposes seed before.store = false) (isolated : before.store.GpuIsolated) :
    after.store.GpuIsolated := by
  cases request with
  | create identity body =>
    rcases Actor.ran_of_discard ran with ⟨response, ran⟩
    refine isolated.turn (createCluster_turn ran) ?_
    rintro spec ⟨rfl, passed⟩ fractional pool poolMem owned
    have asked : body.spec.fractional = true := fractional
    have single : (before.store.poolsWith body.spec.project).length ≤ 1 := by
      simpa [TenancyRequest.exposes, asked] using hidden
    exact singleTenant_of_posted passed fractional single poolMem owned
  | delete identity id purge =>
    rcases Actor.ran_of_discard ran with ⟨response, ran⟩
    exact isolated.turn (deleteCluster_turn ran) fun spec impossible => impossible.elim
  | pool request =>
    rcases PoolRequest.does_of_ran ran with ⟨catalog, does, quiet⟩
    exact isolated.does does quiet.catalog_eq quiet.clusters hidden

/--
No cluster that runs on a fraction of a GPU belongs to a project in a shared
pool, in every sequential run in which no request creates such a cluster for a
project with several pools or makes a project that runs one share a pool.
-/
theorem fractional_clusters_isolated
    (serial : (serialTenancy platform seed).Serial origin turns final)
    (empty : origin.store.clusters.rows = [])
    (hidden : ∀ turn ∈ turns, turn.role.exposes seed turn.before.store = false) :
    ∀ row ∈ final.store.clusters.rows, row.desired = .running → row.spec.fractional = true →
      ∀ pool ∈ final.store.pools.rows,
        (∃ own ∈ final.store.allocationsOf pool.name, own.project = row.spec.project) →
        final.store.SingleTenant pool.name := by
  refine (serial.preserves (fun world => world.store.GpuIsolated) ?_ ?_ ?_).1
  · intro before after drifted isolated
    exact isolated.drift drifted
  · intro turn turnMem ran isolated
    exact gpuIsolated_of_turn ran (hidden turn turnMem) isolated
  · intro row rowMem
    rw [empty] at rowMem
    cases rowMem

end Runs

def halfGpu (project : String) : ClusterSpec :=
  { headOnly project with workerGroups := [⟨"w", "1", "1Gi", some "0.5", 1, 1, 1⟩] }

/-- A tenant of the pool runs on half a GPU. -/
def halfGpuAlone : List TenancyRequest :=
  [.pool (.createPool (some administrator) (wholePool "gpu" false)), .pool (putInto "gpu" "a"),
    .create (some administrator) ⟨"c1", halfGpu "a"⟩]

def afterTenancy (requests : List TenancyRequest) :
    Option (List (Turn (World DemoClusters) TenancyRequest) × World DemoClusters) :=
  (serialTenancy demoPlatform noPolicy).trackAll requests (demoWorld .empty)

theorem fractional_clusters_isolated_alone :
    ∃ turns final, afterTenancy halfGpuAlone = some (turns, final) ∧
      ∀ row ∈ final.store.clusters.rows, row.desired = .running → row.spec.fractional = true →
        ∀ pool ∈ final.store.pools.rows,
          (∃ own ∈ final.store.allocationsOf pool.name, own.project = row.spec.project) →
          final.store.SingleTenant pool.name := by
  have outcome : ∃ turns final, afterTenancy halfGpuAlone = some (turns, final) ∧
      ∀ turn ∈ turns, turn.role.exposes noPolicy turn.before.store = false :=
    exists_pair_of_checked (by decide +kernel)
  rcases outcome with ⟨turns, final, tracked, hidden⟩
  exact ⟨turns, final, tracked, fractional_clusters_isolated
    (SerialSystem.serial_of_trackAll tracked) rfl hidden⟩

/-- A second tenant is put into the pool, where the first still runs on half a GPU. -/
theorem put_shares_pool_of_half_gpu :
    ∃ turns final, afterTenancy (halfGpuAlone ++ [.pool (putInto "gpu" "b")]) =
        some (turns, final) ∧
      ∃ row ∈ final.store.clusters.rows, row.desired = .running ∧ row.spec.fractional = true ∧
        ∃ pool ∈ final.store.pools.rows,
          (∃ own ∈ final.store.allocationsOf pool.name, own.project = row.spec.project) ∧
          ¬final.store.SingleTenant pool.name := by
  apply exists_pair_of_checked
  decide +kernel

end Mobula
