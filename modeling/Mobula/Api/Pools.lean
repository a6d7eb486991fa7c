import Mobula.Api.Clusters
import Mathlib.Data.Finset.Card

/-!
# Pool requests

The handlers behind `POST /api/v1/pools`, `DELETE /api/v1/pools/{name}` and the two requests on
an allocation, `/api/v1/pools/{name}/allocations/{project}`. Pools are created only, never
updated.
-/

namespace Mobula

open Foundation

def noSuchPool : Response := ⟨404, .text "no such pool"⟩

def noSuchAllocation : Response := ⟨404, .text "no such allocation"⟩

variable (seed : PolicyConfig) (identity : Caller)

def auditPool (decision : AuditDecision) (reason : Option String) (action : String) (status : ℕ)
    : Program Unit := do
  let now ← Calls.nowUnix
  emit { ts := now, subject := subjectOf identity, decision := decision, reason := reason,
         action := some action, status := some status }

variable (spec : PoolSpec)

def validateQuantities : Except Body Unit :=
  spec.flavors.forM fun flavor =>
    flavor.resources.forM fun (resource, quantity) => do
      let _ ← (parseQuantity quantity).mapError (.invalidFlavor flavor.name resource)

def checkPoolSpec : Except Body Unit := do
  spec.validate.mapError .invalidPool
  validateQuantities spec

def storePool : Program Response := do
  match ← Calls.getPool spec.name with
  | .error _ => return storeError
  | .ok (some _) => return ⟨409, .text ("pool " ++ spec.name ++ " already exists")⟩
  | .ok none =>
    match ← Calls.upsertPool spec.name spec with
    | .error _ => return storeError
    | .ok generation =>
      auditPool identity .allow none "create_pool" 201
      return ⟨201, .json (.object
        [("name", .str spec.name), ("generation", .nat generation)])⟩

def createPool : Program Response := do
  match ← authorize identity .write .pool with
  | some denial => return denial
  | none =>
    match checkPoolSpec spec with
    | .error failure => return ⟨400, failure⟩
    | .ok () => storePool identity spec

def answerDeletion (action missing : String) (absent : Response) :
    StoreResult Unit → Program Response
  | .ok () => do
      auditPool identity .allow none action 202
      return ⟨202, .empty⟩
  | .error failure =>
    if missing.toList.IsInfix failure.backend.toList then return absent else return storeError

def deletePool (name : String) : Program Response := do
  match ← authorize identity .delete .pool with
  | some denial => return denial
  | none =>
    let deleted ← Calls.deletePoolRow name
    answerDeletion identity "delete_pool" "no such pool" noSuchPool deleted

def deleteAllocation (identity : Caller) (name project : String) : Program Response := do
  match ← authorize identity .delete .pool with
  | some denial => return denial
  | none =>
    let deleted ← Calls.deleteAllocation name project
    answerDeletion identity "delete_allocation" "no such allocation" noSuchAllocation deleted

structure PutAllocation where
  pool : Option String
  project : Option String
  namespaceName : String
  nominal : List (String × String)
  borrowingLimit : List (String × String)
  lendingLimit : List (String × String)
  deriving DecidableEq, Repr

def PutAllocation.contradicts (body : PutAllocation) (name project : String) : Bool :=
  body.pool.any (· ≠ name) || body.project.any (· ≠ project)

def PutAllocation.allocation (body : PutAllocation) (name project : String) : AllocationSpec :=
  ⟨name, project, body.namespaceName, body.nominal, body.borrowingLimit, body.lendingLimit⟩

/-- The number of projects in a pool once one more has an allocation. -/
def tenantsWith (existing : List AllocationSpec) (project : String) : ℕ :=
  (existing.map (·.project) ++ [project]).toFinset.card

def storeAllocation (pool : PoolSpec) (alloc : AllocationSpec) : Program Response := do
  match ← Calls.listAllocations alloc.pool with
  | .error _ => return storeError
  | .ok existing =>
    match checkPoolGpuIsolation pool seed.gpuDefaultSharing
      (tenantsWith existing alloc.project) with
    | .error violation =>
      auditPool identity .deny (some "gpu_tenant_isolation") "put_allocation" 400
      return ⟨400, .gpuSharing violation⟩
    | .ok () =>
      match ← Calls.upsertAllocation alloc with
      | .error _ => return storeError
      | .ok () =>
        auditPool identity .allow none "put_allocation" 200
        return ⟨200, .json (.object
          [("pool", .str alloc.pool), ("project", .str alloc.project)])⟩

def putAllocation (name project : String) (body : PutAllocation) : Program Response := do
  match ← authorize identity .write .pool with
  | some denial => return denial
  | none =>
    if body.contradicts name project then
      return ⟨400, .text "body pool/project must match the path (or be omitted)"⟩
    else
      match ← Calls.getPool name with
      | .error _ => return storeError
      | .ok none => return noSuchPool
      | .ok (some pool) =>
        match (body.allocation name project).validate with
        | .error failure => return ⟨400, .invalidAllocation failure⟩
        | .ok () => storeAllocation seed identity pool.spec (body.allocation name project)

end Mobula
