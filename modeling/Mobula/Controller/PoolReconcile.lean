import Mobula.Controller.Reconcile

/-!
# The pool reconcile loop

The loop that converges the queue objects of capacity pools. An applied intent
for the same desired state makes a pass skip the provider; pools that vanished
from the store are torn down. Nothing is actuated while the store is
quarantined.
-/

namespace Mobula

open Foundation

def GpuSharing.asStr : GpuSharing → String
  | .wholeGpu => "whole-gpu"
  | .mig => "mig"
  | .timeSlice => "time-slice"

def stringMap (entries : List (String × String)) : Json :=
  .object (entries.map fun entry => (entry.1, .str entry.2))

def TaintSpec.toJson (taint : TaintSpec) : Json :=
  .object [("key", .str taint.key), ("value", .str taint.value), ("effect", .str taint.effect)]

def FlavorSpec.toJson (flavor : FlavorSpec) : Json :=
  .object
    [("name", .str flavor.name), ("resources", stringMap flavor.resources),
      ("node_labels", stringMap flavor.nodeLabels), ("taints", .arr (flavor.taints.map (·.toJson)))]

def PoolSpec.toJson (weightText : ℚ → Numeral) (spec : PoolSpec) : Json :=
  let sharing := match spec.gpuSharing with
    | none => []
    | some mode => [("gpu_sharing", Json.str mode.asStr)]
  .object
    ([("name", .str spec.name), ("flavors", .arr (spec.flavors.map (·.toJson))),
      ("cohort", .str spec.cohort),
      ("fair_sharing_weight", .num (weightText spec.fairSharingWeight)),
      ("elastic", .bool spec.elastic)] ++ sharing)

def AllocationSpec.toJson (allocation : AllocationSpec) : Json :=
  .object
    [("pool", .str allocation.pool), ("project", .str allocation.project),
      ("namespace", .str allocation.namespaceName), ("nominal", stringMap allocation.nominal),
      ("borrowing_limit", stringMap allocation.borrowingLimit),
      ("lending_limit", stringMap allocation.lendingLimit)]

variable (weightText : ℚ → Numeral)

/-- The canonical text of a pool's desired state, with its allocations sorted by project. -/
def desiredFingerprint (spec : PoolSpec) (allocations : List AllocationSpec) : String :=
  let sorted := allocations.insertionSort fun first second => first.project ≤ second.project
  Json.compress (.object
    [("spec", spec.toJson weightText), ("allocations", .arr (sorted.map (·.toJson)))])

/-- FNV-1a over the bytes of a text. -/
def digest (text : String) : String :=
  let hash := text.toUTF8.data.toList.foldl
    (fun (hash : UInt64) byte => (hash ^^^ byte.toUInt64) * 0x100000001b3) 0xcbf29ce484222325
  let digits := Nat.toDigits 16 hash.toNat
  String.ofList (List.replicate (16 - digits.length) '0' ++ digits)

variable (pool : StoredPool)

def poolIntentKey (fingerprint : String) : String :=
  "pool:" ++ pool.name ++ "/" ++ toString pool.generation ++ ":" ++ digest fingerprint

inductive PoolAction where
  | noOp
  | applied
  | deleted
  deriving DecidableEq, Repr

def observePoolRow : Program (ReconcileResult Unit) := do
  match ← Calls.observePool pool.name with
  | .error failure => return .error (.provision failure)
  | .ok none => return .ok ()
  | .ok (some observed) =>
    match ← Calls.recordPoolObservation pool.name observed.toJson.compress with
    | .error failure => return .error (.store failure)
    | .ok () => return .ok ()

def actuatePool : Program (ReconcileResult PoolAction) := do
  match ← Calls.listAllocations pool.name with
  | .error failure => return .error (.store failure)
  | .ok allocations =>
    let fingerprint := desiredFingerprint weightText pool.spec allocations
    let key := poolIntentKey pool fingerprint
    match ← Calls.getIntent key with
    | .error failure => return .error (.store failure)
    | .ok record =>
      if record.any fun intent =>
          intent.status = .applied && intent.paramsFingerprint = fingerprint then
        Calls.convergedInsert pool.name
        return .ok .noOp
      else
        match ← Calls.beginIntent key fingerprint with
        | .error failure => return .error (.store failure)
        | .ok .paramMismatch => return .error (.staleIntent key)
        | .ok (.proceed _) =>
          match ← Calls.applyPool pool.spec allocations with
          | .error failure => return .error (.provision failure)
          | .ok () =>
            match ← Calls.completeIntent key "\x7b\x7d" with
            | .error failure => return .error (.store failure)
            | .ok () =>
              Calls.convergedInsert pool.name
              return .ok .applied

def reconcilePool : Program (ReconcileResult PoolAction) := do
  match ← observePoolRow pool with
  | .error failure => return .error failure
  | .ok () =>
    match ← Calls.isQuarantined with
    | .error failure => return .error (.store failure)
    | .ok true => return .ok .noOp
    | .ok false => actuatePool weightText pool

abbrev PoolReport := List (String × ReconcileResult PoolAction)

def reconcilePoolRows (weightText : ℚ → Numeral) : List StoredPool → Program PoolReport
  | [] => return []
  | pool :: pools => do
      let result ← reconcilePool weightText pool
      let others ← reconcilePoolRows weightText pools
      return (pool.name, result) :: others

def deleteVanished : List String → Program PoolReport
  | [] => return []
  | name :: names => do
      match ← Calls.deletePool name with
      | .error failure =>
        let others ← deleteVanished names
        return (name, .error (.provision failure)) :: others
      | .ok () =>
        Calls.convergedRemove name
        let others ← deleteVanished names
        return (name, .ok .deleted) :: others

/-- One pass over all pools; inert when the queueing system is absent. -/
def reconcilePools : Program PoolReport := do
  match ← Calls.kueuePresent with
  | false => return []
  | true =>
    match ← Calls.listPools with
    | .error failure => return [("<list>", .error (.store failure))]
    | .ok pools =>
      let report ← reconcilePoolRows weightText pools
      match ← Calls.isQuarantined with
      | .error failure => return report ++ [("<quarantine>", .error (.store failure))]
      | .ok true => return report
      | .ok false =>
        let vanished ← Calls.convergedDifference (pools.map (·.name))
        let deleted ← deleteVanished vanished
        return report ++ deleted

end Mobula
