import Mobula.Api.Alone
import Mobula.Api.Pools
import Mobula.ControlPlane

/-!
# Requests on pools, one by one and interleaved

What a request does to the stored pools and allocations when it runs alone
(`PoolRequest.Does`), and what it has read when it writes while others run (`PoolGrounded`).
-/

namespace Mobula

open Foundation Prog Actor Quiet

inductive PoolRequest where
  | createPool (identity : Caller) (spec : PoolSpec)
  | deletePool (identity : Caller) (name : String)
  | putAllocation (identity : Caller) (name project : String) (body : PutAllocation)
  | deleteAllocation (identity : Caller) (name project : String)

def PoolRequest.program (seed : PolicyConfig) : PoolRequest → Program Unit
  | .createPool identity spec => Actor.discard (Mobula.createPool identity spec)
  | .deletePool identity name => Actor.discard (Mobula.deletePool identity name)
  | .putAllocation identity name project body =>
    Actor.discard (Mobula.putAllocation seed identity name project body)
  | .deleteAllocation identity name project =>
    Actor.discard (Mobula.deleteAllocation identity name project)

def mayPool (identity : Caller) (action : PermissionType) : Bool :=
  identity.all (·.permits action .pool)

variable {Provider : Type}

def Call.quiet : Call → Bool
  | .row (.get _) => true
  | .row .list => true
  | .outbox (.getIntent _) => true
  | .control (.recordPoolObservation _ _) => false
  | .control (.recordUsageSamples _) => false
  | .control (.seedPolicy _) => false
  | .control _ => true
  | .process .nowUnix => true
  | _ => false

abbrev QuietProgram {α : Type} (program : Program α) : Prop :=
  program.Within fun call => call.quiet = true

variable {thread : ℕ} {identity : Caller} {seed : PolicyConfig} {name project : String}
  {platform : Platform Provider} {world world' : World Provider} {call : Call}
  {action : PermissionType}

theorem quiet_exec {answer : call.Res} (quiet : call.quiet = true)
    (answered : exec platform thread call world = some (answer, world')) : Quiet world world' := by
  cases call with
  | row call =>
    cases call with
    | get id =>
      simp [exec_get] at answered
      exact answered.2 ▸ refl world
    | list =>
      simp [exec_list] at answered
      exact answered.2 ▸ refl world
    | _ => cases quiet
  | outbox call =>
    cases call with
    | getIntent key =>
      cases answered
      constructor <;> rfl
    | _ => cases quiet
  | control call =>
    cases call with
    | recordPoolObservation name observed => cases quiet
    | recordUsageSamples samples => cases quiet
    | seedPolicy policy => cases quiet
    | _ =>
      cases answered
      constructor <;> rfl
  | process call =>
    cases call with
    | nowUnix =>
      cases answered
      exact ofReading world true
    | _ => cases quiet
  | _ => cases quiet

theorem Quiet.of_ran {α : Type} {program : Program α} {value : α} (quiet : QuietProgram program)
    (ran : Runs platform thread program world value world') : Quiet world world' := by
  refine Within.yields_invariant quiet (Quiet world) ?_ ran (refl world)
  intro call before answer after calm answered held
  exact held.trans (quiet_exec calm answered)

theorem AuthorizationCall.quiet (made : AuthorizationCall call) :
    call.quiet = true := by
  cases made <;> rfl

theorem authorize_quiet {target : Target} : QuietProgram (authorize identity action target) :=
  authorize_calls.mono fun _ => AuthorizationCall.quiet

theorem auditPool_quiet {decision : AuditDecision} {reason : Option String} {action : String}
    {status : ℕ} :
    QuietProgram (auditPool identity decision reason action status) :=
  Within.invoke rfl fun _ => emit_calls.mono fun _ => AuthorizationCall.quiet

theorem answerDeletion_quiet {action missing : String} {absent : Response}
    {deleted : StoreResult Unit} :
    QuietProgram (answerDeletion identity action missing absent deleted) := by
  cases deleted with
  | ok done => exact auditPool_quiet.bind fun _ => trivial
  | error failure =>
    simp only [answerDeletion]
    split <;> trivial

theorem mayPool_of_authorize
    (ran : Runs platform thread (authorize identity action .pool) world none world') :
    mayPool identity action = true := by
  rcases identity with _ | identity
  · rfl
  by_cases permitted : identity.permits action .pool = true
  · simpa [mayPool] using permitted
  · simp only [authorize, permitted] at ran
    cases (refuse_runs.unique ran).1

def World.withCatalog (world : World Provider) (catalog : Catalog) : World Provider :=
  { world with store := world.store.setCatalog catalog }

theorem Quiet.catalog_eq (quiet : Quiet world world') :
    world'.store.catalog = world.store.catalog := by
  simp only [Store.catalog, quiet.pools, quiet.allocations, quiet.quarantined]

theorem Quiet.withCatalog (quiet : Quiet world world') (catalog : Catalog) (taken : Bool) :
    Quiet (world.withCatalog catalog) ((world'.afterReading taken).withCatalog catalog) :=
  ⟨quiet.clusters, quiet.intents, rfl, rfl, rfl, quiet.usage, quiet.policy, quiet.assignments,
    quiet.provider, quiet.admitLocks⟩

section Writes

variable (platform : Platform Provider) (thread : ℕ) (world : World Provider)

theorem exec_upsertPool {spec : PoolSpec} :
    exec platform thread (.admin (.upsertPool name spec)) world =
      some (.ok (Catalog.nextGeneration (world.store.pools.find? name) spec),
        (world.afterReading true).withCatalog
          { world.store.catalog with
            pools := world.store.pools.insert
              (Catalog.upsertedPool (world.store.pools.find? name) name spec world.now) }) := rfl

theorem exec_deletePool (name : String) :
    ∃ answer, exec platform thread (.admin (.deletePool name)) world =
      some (answer, (world.afterReading false).withCatalog
        { world.store.catalog with pools := world.store.pools.erase name }) := by
  simp only [exec, execAdmin]
  cases found : world.store.catalog.pools.find? name with
  | some pool => exact ⟨_, rfl⟩
  | none =>
    refine ⟨.error ⟨"no such pool " ++ name⟩, ?_⟩
    have unchanged : world.store.pools.erase name = world.store.pools :=
      Table.erase_of_find?_eq_none found
    rw [unchanged]
    rfl

theorem exec_upsertAllocation {alloc : AllocationSpec} :
    exec platform thread (.admin (.upsertAllocation alloc)) world =
      some (.ok (), (world.afterReading false).withCatalog
        { world.store.catalog with allocations := world.store.allocations.insert alloc }) := rfl

theorem exec_deleteAllocation (pool project : String) :
    ∃ answer, exec platform thread (.admin (.deleteAllocation pool project)) world =
      some (answer, (world.afterReading false).withCatalog
        { world.store.catalog with
          allocations := world.store.allocations.erase (pool, project) }) := by
  simp only [exec, execAdmin]
  cases found : world.store.catalog.allocations.find? (pool, project) with
  | some alloc => exact ⟨_, rfl⟩
  | none =>
    refine ⟨.error ⟨"no such allocation " ++ pool ++ "/" ++ project⟩, ?_⟩
    have unchanged : world.store.allocations.erase (pool, project) = world.store.allocations :=
      Table.erase_of_find?_eq_none found
    rw [unchanged]
    rfl

end Writes

/-- What a request makes of the stored pools and allocations when it runs alone. -/
inductive PoolRequest.Does (seed : PolicyConfig) (store : Store) : PoolRequest → Catalog → Prop
  | nothing (request : PoolRequest) : Does seed store request store.catalog
  | creates {identity : Caller} {spec : PoolSpec} (stamp : ℕ)
      (permitted : mayPool identity .write = true) (checked : checkPoolSpec spec = .ok ())
      (absent : store.pools.find? spec.name = none) :
      Does seed store (.createPool identity spec)
        { store.catalog with
          pools := store.pools.insert (Catalog.upsertedPool none spec.name spec stamp) }
  | removes {identity : Caller} {name : String} {pool : StoredPool}
      (permitted : mayPool identity .delete = true) (found : store.pools.find? name = some pool) :
      Does seed store (.deletePool identity name)
        { store.catalog with pools := store.pools.erase name }
  | puts {identity : Caller} {name project : String} {body : PutAllocation}
      {pool : StoredPool} (permitted : mayPool identity .write = true)
      (agrees : body.contradicts name project = false)
      (found : store.pools.find? name = some pool)
      (valid : (body.allocation name project).validate = .ok ())
      (isolated : checkPoolGpuIsolation pool.spec seed.gpuDefaultSharing
        (tenantsWith (store.allocationsOf name) project) = .ok ()) :
      Does seed store (.putAllocation identity name project body)
        { store.catalog with
          allocations := store.allocations.insert (body.allocation name project) }
  | frees {identity : Caller} {name project : String} :
      Does seed store (.deleteAllocation identity name project)
        { store.catalog with allocations := store.allocations.erase (name, project) }

/-- The request does one of these things to the stored pools, and nothing else. -/
def PoolRequest.Leads (seed : PolicyConfig) (request : PoolRequest)
    (world world' : World Provider) : Prop :=
  ∃ catalog, request.Does seed world.store catalog ∧ Quiet (world.withCatalog catalog) world'

section Alone

variable {platform : Platform Provider} {world middle world' : World Provider} {spec : PoolSpec}
  {response : Response} {body : PutAllocation}

theorem storePool_does (permitted : mayPool identity .write = true)
    (checked : checkPoolSpec spec = .ok ()) (quiet : Quiet world middle)
    (ran : Runs platform thread (storePool identity spec) middle response world') :
    PoolRequest.Leads seed (.createPool identity spec) world world' := by
  rcases ran.of_invoke with ⟨answer, between, answered, rest⟩
  simp [exec_getPool, quiet.pools] at answered
  rcases answered with ⟨rfl, rfl⟩
  cases found : world.store.pools.find? spec.name with
  | some pool =>
    simp only [found] at rest
    rw [rest.of_ret.2]
    exact ⟨_, .nothing _, quiet⟩
  | none =>
    simp only [found] at rest
    rcases rest.of_invoke with ⟨stored, after, written, audit⟩
    simp [exec_upsertPool, quiet.catalog_eq, quiet.pools, found] at written
    rcases written with ⟨rfl, rfl⟩
    simp only at audit
    refine ⟨_, .creates middle.now permitted checked found, (quiet.withCatalog _ true).trans ?_⟩
    refine of_ran ?_ audit
    exact auditPool_quiet.bind fun _ => trivial

theorem storeAllocation_does {pool : StoredPool} (permitted : mayPool identity .write = true)
    (agrees : body.contradicts name project = false)
    (found : world.store.pools.find? name = some pool)
    (valid : (body.allocation name project).validate = .ok ()) (quiet : Quiet world middle)
    (ran : Runs platform thread (storeAllocation seed identity pool.spec
      (body.allocation name project)) middle response world') :
    PoolRequest.Leads seed (.putAllocation identity name project body) world world' := by
  have listed : middle.store.allocationsOf name = world.store.allocationsOf name := by
    simp only [Store.allocationsOf, quiet.allocations]
  rcases ran.of_invoke with ⟨answer, between, answered, rest⟩
  cases answered
  cases isolated : checkPoolGpuIsolation pool.spec seed.gpuDefaultSharing
    (tenantsWith (world.store.allocationsOf name) project) with
  | error violation =>
    have shared : checkPoolGpuIsolation pool.spec seed.gpuDefaultSharing
        (tenantsWith (middle.store.allocationsOf name) project) = .error violation := by
      rw [listed, isolated]
    simp only [PutAllocation.allocation, shared] at rest
    refine ⟨_, .nothing _, quiet.trans ?_⟩
    refine of_ran ?_ rest
    exact auditPool_quiet.bind fun _ => trivial
  | ok passed =>
    have alone : checkPoolGpuIsolation pool.spec seed.gpuDefaultSharing
        (tenantsWith (middle.store.allocationsOf name) project) = .ok passed := by
      rw [listed, isolated]
    simp only [PutAllocation.allocation, alone] at rest
    rcases rest.of_invoke with ⟨stored, after, written, audit⟩
    simp [exec_upsertAllocation, quiet.catalog_eq, quiet.allocations] at written
    rcases written with ⟨rfl, rfl⟩
    simp only at audit
    refine ⟨_, .puts permitted agrees found valid isolated,
      (quiet.withCatalog _ false).trans ?_⟩
    refine of_ran ?_ audit
    exact auditPool_quiet.bind fun _ => trivial

/-- A caller who lacks the permission is turned away; otherwise the rest of the handler runs. -/
theorem leads_of_authorized {request : PoolRequest} {rest : Program Response}
    (ran : Runs platform thread (authorize identity action .pool >>= fun denial => match denial with
      | some denial => pure denial
      | none => rest) world response world')
    (leads : ∀ middle, Quiet world middle → mayPool identity action = true →
      Runs platform thread rest middle response world' → request.Leads seed world world') :
    request.Leads seed world world' := by
  rcases ran.of_bind with ⟨denial, middle, authorized, rest⟩
  have quiet := of_ran authorize_quiet authorized
  rcases denial with _ | refusal
  · exact leads middle quiet (mayPool_of_authorize authorized) rest
  rw [rest.of_ret.2]
  exact ⟨_, .nothing _, quiet⟩

theorem createPool_does
    (ran : Runs platform thread (createPool identity spec) world response world') :
    PoolRequest.Leads seed (.createPool identity spec) world world' := by
  refine leads_of_authorized ran fun middle quiet permitted rest => ?_
  cases checked : checkPoolSpec spec with
  | error failure =>
    simp only [checked] at rest
    rw [rest.of_ret.2]
    exact ⟨_, .nothing _, quiet⟩
  | ok passed =>
    simp only [checked] at rest
    exact storePool_does permitted checked quiet rest

theorem deletePool_does
    (ran : Runs platform thread (deletePool identity name) world response world') :
    PoolRequest.Leads seed (.deletePool identity name) world world' := by
  refine leads_of_authorized ran fun middle quiet permitted rest => ?_
  rcases rest.of_invoke with ⟨deleted, after, written, answering⟩
  rcases exec_deletePool platform thread middle name with ⟨answer, erased⟩
  simp [erased, quiet.catalog_eq, quiet.pools] at written
  rcases written with ⟨rfl, rfl⟩
  have answered := of_ran answerDeletion_quiet answering
  have settled := (quiet.withCatalog _ false).trans answered
  cases found : world.store.pools.find? name with
  | some pool => exact ⟨_, .removes permitted found, settled⟩
  | none =>
    refine ⟨_, .nothing _, ?_⟩
    rwa [Table.erase_of_find?_eq_none found] at settled

theorem putAllocation_does
    (ran : Runs platform thread (putAllocation seed identity name project body) world response
      world') :
    PoolRequest.Leads seed (.putAllocation identity name project body) world world' := by
  refine leads_of_authorized ran fun middle quiet permitted rest => ?_
  split at rest
  case isTrue contradicts =>
    rw [rest.of_ret.2]
    exact ⟨_, .nothing _, quiet⟩
  case isFalse agrees =>
    rcases rest.of_invoke with ⟨answer, between, answered, rest⟩
    simp [exec_getPool, quiet.pools] at answered
    rcases answered with ⟨rfl, rfl⟩
    cases found : world.store.pools.find? name with
    | none =>
      simp only [found] at rest
      rw [rest.of_ret.2]
      exact ⟨_, .nothing _, quiet⟩
    | some pool =>
      simp only [found] at rest
      cases valid : (body.allocation name project).validate with
      | error failure =>
        simp only [valid] at rest
        rw [rest.of_ret.2]
        exact ⟨_, .nothing _, quiet⟩
      | ok passed =>
        simp only [valid] at rest
        exact storeAllocation_does permitted (Bool.eq_false_iff.mpr agrees) found valid quiet rest

theorem deleteAllocation_does
    (ran : Runs platform thread (deleteAllocation identity name project) world response world') :
    PoolRequest.Leads seed (.deleteAllocation identity name project) world world' := by
  refine leads_of_authorized ran fun middle quiet permitted rest => ?_
  rcases rest.of_invoke with ⟨deleted, after, written, answering⟩
  rcases exec_deleteAllocation platform thread middle name project with ⟨answer, erased⟩
  simp [erased, quiet.catalog_eq, quiet.allocations] at written
  rcases written with ⟨rfl, rfl⟩
  have answered := of_ran answerDeletion_quiet answering
  exact ⟨_, .frees, (quiet.withCatalog _ false).trans answered⟩

/-- A request that ran alone did one of five things. -/
theorem PoolRequest.does_of_ran {request : PoolRequest}
    (ran : Runs platform thread (request.program seed) world () world') :
    request.Leads seed world world' := by
  cases request with
  | createPool identity spec =>
    rcases ran_of_discard ran with ⟨response, ran⟩
    exact createPool_does ran
  | deletePool identity name =>
    rcases ran_of_discard ran with ⟨response, ran⟩
    exact deletePool_does ran
  | putAllocation identity name project body =>
    rcases ran_of_discard ran with ⟨response, ran⟩
    exact putAllocation_does ran
  | deleteAllocation identity name project =>
    rcases ran_of_discard ran with ⟨response, ran⟩
    exact deleteAllocation_does ran

end Alone

/-- The calls of requests on pools, with what the request has read when it makes them. -/
inductive PoolGrounded (seed : PolicyConfig) (past : EventLog) : Call → Prop
  | quiet {call : Call} (quiet : call.quiet = true) : PoolGrounded seed past call
  | upsertPool (spec : PoolSpec) : PoolGrounded seed past (.admin (.upsertPool spec.name spec))
  | deletePool (name : String) : PoolGrounded seed past (.admin (.deletePool name))
  | upsertAllocation {alloc : AllocationSpec} {pool : StoredPool} {existing : List AllocationSpec}
      {before : EventLog}
      (read : past = before ++ [⟨.control (.getPool alloc.pool), .ok (some pool)⟩,
        ⟨.control (.listAllocations alloc.pool), .ok existing⟩])
      (isolated : checkPoolGpuIsolation pool.spec seed.gpuDefaultSharing
        (tenantsWith existing alloc.project) = .ok ()) :
      PoolGrounded seed past (.admin (.upsertAllocation alloc))
  | deleteAllocation (pool project : String) :
      PoolGrounded seed past (.admin (.deleteAllocation pool project))

section Grounds

variable {past : EventLog} {assumed : EventLog → (call : Call) → call.Res → Prop} {α : Type}
  {program : Program α}

theorem poolGrounded_of_quiet (quiet : QuietProgram program) :
    program.Obeys assumed (PoolGrounded seed) (fun later _ => ∃ added, later = past ++ added)
      past := by
  refine (Within.obeys quiet fun _ _ _ calm => .quiet calm).mono ?_
  rintro later _ ⟨added, appended, _⟩
  exact ⟨added, appended⟩

theorem poolGrounded_at_end (quiet : QuietProgram program) :
    program.Obeys assumed (PoolGrounded seed) (fun _ _ => True) past :=
  (poolGrounded_of_quiet quiet).mono fun _ _ _ => trivial

theorem poolGrounded_authorized {rest : Program Response}
    (goes : ∀ past, rest.Obeys assumed (PoolGrounded seed) (fun _ _ => True) past) :
    (authorize identity action .pool >>= fun denial => match denial with
      | some denial => pure denial
      | none => rest).Obeys assumed (PoolGrounded seed) (fun _ _ => True) past := by
  refine (poolGrounded_of_quiet authorize_quiet).bind ?_
  rintro later denial _
  rcases denial with _ | refusal
  · exact goes later
  · trivial

theorem createPool_grounded {spec : PoolSpec} :
    (createPool identity spec).Obeys assumed (PoolGrounded seed) (fun _ _ => True) past := by
  refine poolGrounded_authorized fun past => ?_
  rcases checkPoolSpec spec with failure | passed
  · trivial
  refine Obeys.invoke (.quiet rfl) fun answer _ => ?_
  rcases answer with failure | _ | pool
  · trivial
  · refine Obeys.invoke (.upsertPool spec) fun stored _ => ?_
    rcases stored with failure | generation
    · trivial
    exact poolGrounded_at_end (auditPool_quiet.bind fun _ => trivial)
  · trivial

theorem deletePool_grounded :
    (deletePool identity name).Obeys assumed (PoolGrounded seed) (fun _ _ => True) past :=
  poolGrounded_authorized fun _ => Obeys.invoke (.deletePool name) fun _ _ =>
    poolGrounded_at_end answerDeletion_quiet

theorem deleteAllocation_grounded :
    (deleteAllocation identity name project).Obeys assumed (PoolGrounded seed)
      (fun _ _ => True) past :=
  poolGrounded_authorized fun _ => Obeys.invoke (.deleteAllocation name project) fun _ _ =>
    poolGrounded_at_end answerDeletion_quiet

theorem storeAllocation_grounded (pool : StoredPool) (alloc : AllocationSpec) :
    (storeAllocation seed identity pool.spec alloc).Obeys assumed (PoolGrounded seed)
      (fun _ _ => True) (past ++ [⟨.control (.getPool alloc.pool), .ok (some pool)⟩]) := by
  refine Obeys.invoke (.quiet rfl) fun answer _ => ?_
  rcases answer with failure | existing
  · trivial
  cases isolated : checkPoolGpuIsolation pool.spec seed.gpuDefaultSharing
    (tenantsWith existing alloc.project) with
  | error violation =>
    simp only [isolated]
    exact poolGrounded_at_end (auditPool_quiet.bind fun _ => trivial)
  | ok passed =>
    simp only [isolated]
    refine Obeys.invoke (.upsertAllocation (List.append_assoc ..) isolated) fun stored _ => ?_
    rcases stored with failure | done
    · trivial
    exact poolGrounded_at_end (auditPool_quiet.bind fun _ => trivial)

theorem putAllocation_grounded {body : PutAllocation} :
    (putAllocation seed identity name project body).Obeys assumed (PoolGrounded seed)
      (fun _ _ => True) past := by
  refine poolGrounded_authorized fun past => ?_
  split
  · trivial
  · refine Obeys.invoke (.quiet rfl) fun answer _ => ?_
    rcases answer with failure | _ | pool
    · trivial
    · trivial
    · rcases (body.allocation name project).validate with failure | passed
      · trivial
      · exact storeAllocation_grounded pool (body.allocation name project)

theorem PoolRequest.grounded (request : PoolRequest) :
    (request.program seed).Obeys assumed (PoolGrounded seed) (fun _ _ => True) past := by
  cases request with
  | createPool identity spec => exact discard_obeys createPool_grounded
  | deletePool identity name => exact discard_obeys deletePool_grounded
  | putAllocation identity name project body =>
    exact discard_obeys putAllocation_grounded
  | deleteAllocation identity name project =>
    exact discard_obeys deleteAllocation_grounded

end Grounds

/-- What one call of a request makes of the stored pools and allocations. -/
inductive PoolStep (store store' : Store) : Call → Prop
  | quiet {call : Call} (pools : store'.pools = store.pools)
      (allocations : store'.allocations = store.allocations) : PoolStep store store' call
  | upsertPool {spec : PoolSpec} (row : StoredPool) (rowName : row.name = spec.name)
      (rowSpec : row.spec = spec) (pools : store'.pools = store.pools.insert row)
      (allocations : store'.allocations = store.allocations) :
      PoolStep store store' (.admin (.upsertPool spec.name spec))
  | deletePool {name : String} (pools : store'.pools = store.pools.erase name)
      (allocations : store'.allocations = store.allocations) :
      PoolStep store store' (.admin (.deletePool name))
  | upsertAllocation {alloc : AllocationSpec} (pools : store'.pools = store.pools)
      (allocations : store'.allocations = store.allocations.insert alloc) :
      PoolStep store store' (.admin (.upsertAllocation alloc))
  | deleteAllocation {pool project : String} (pools : store'.pools = store.pools)
      (allocations : store'.allocations = store.allocations.erase (pool, project)) :
      PoolStep store store' (.admin (.deleteAllocation pool project))

theorem poolStep_exec {past : EventLog} {answer : call.Res}
    (grounded : PoolGrounded seed past call)
    (answered : exec platform thread call world = some (answer, world')) :
    PoolStep world.store world'.store call := by
  cases grounded with
  | quiet calm =>
    have quiet := quiet_exec calm answered
    exact .quiet quiet.pools quiet.allocations
  | upsertPool spec =>
    cases answered
    exact .upsertPool (Catalog.upsertedPool _ _ _ _) rfl rfl rfl rfl
  | deletePool name =>
    rcases exec_deletePool platform thread world name with ⟨reply, erased⟩
    simp [erased] at answered
    rw [← answered.2]
    exact .deletePool rfl rfl
  | upsertAllocation _ _ =>
    cases answered
    exact .upsertAllocation rfl rfl
  | deleteAllocation pool project =>
    rcases exec_deleteAllocation platform thread world pool project with ⟨reply, erased⟩
    simp [erased] at answered
    rw [← answered.2]
    exact .deleteAllocation rfl rfl

/-- Pools and allocations change on request only; the order of listings is that of a hash map. -/
structure World.CatalogDrift (before after : World Provider) : Prop where
  pools : Table.Reordered before.store.pools after.store.pools
  allocations : Table.Reordered before.store.allocations after.store.allocations

/-- Pool requests that interleave. -/
def poolPlane (platform : Platform Provider) (seed : PolicyConfig) :
    System Call.Res (World Provider) PoolRequest where
  exec := exec platform
  behaviour := PoolRequest.program seed
  admits := fun _ _ => True
  stoppable := fun _ => False
  drift := World.CatalogDrift

/-- Pool requests one after the other. -/
def serialPools (platform : Platform Provider) (seed : PolicyConfig) :
    SerialSystem Call.Res (World Provider) PoolRequest where
  exec := exec platform 0
  behaviour := PoolRequest.program seed
  drift := World.CatalogDrift

section Steps

variable {platform : Platform Provider} {origin : World Provider}
  {trace : List (Step Call.Res (World Provider) PoolRequest)}
  {config : Config Call.Res (World Provider) PoolRequest}
  {step : Step Call.Res (World Provider) PoolRequest}
  (run : (poolPlane platform seed).Run (.start origin) trace config)

include run

/-- Every step of a run is a quiet call or one of the four writes, on its grounds. -/
theorem poolGrounded_step {earlier later : List (Step Call.Res (World Provider) PoolRequest)}
    (split : trace = earlier ++ step :: later) :
    PoolGrounded seed (own step.thread earlier) step.op :=
  run.allowed_step (fun _ _ _ => True) (fun _ => PoolGrounded seed) (fun _ _ => trivial)
    (fun _ request _ => request.grounded) split

theorem poolStep_of_mem (stepMem : step ∈ trace) :
    PoolStep step.before.store step.after.store step.op := by
  rcases List.append_of_mem stepMem with ⟨earlier, later, split⟩
  exact poolStep_exec (poolGrounded_step run split) (run.exec_of_mem stepMem)

end Steps

section Drift

variable {before after : World Provider}

theorem World.CatalogDrift.mem_allocationsOf (drifted : before.CatalogDrift after)
    {pool : String} {alloc : AllocationSpec} :
    alloc ∈ after.store.allocationsOf pool ↔ alloc ∈ before.store.allocationsOf pool := by
  simp [Store.allocationsOf, drifted.allocations.mem_iff]

theorem World.CatalogDrift.find?_eq (drifted : before.CatalogDrift after) (name : String) :
    after.store.pools.find? name = before.store.pools.find? name :=
  (Table.find?_reordered drifted.pools name).symm

end Drift

end Mobula
