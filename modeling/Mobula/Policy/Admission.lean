import Mobula.Policy.Demand
import Mathlib.Data.List.Sort

/-!
# Admission checks

The pure checks that stand between a posted specification and the store: the quota on concurrent
demand, the budget on consumption over a trailing window, and the isolation of tenants on shared
GPUs.
-/

namespace Mobula

open Foundation List

structure QuotaExceeded where
  project : String
  requested : ResourceMap
  inUse : ResourceMap
  limit : ResourceMap

def admitQuota (project : String) (limit inUse requested : ResourceMap) :
    Except QuotaExceeded Unit :=
  if (inUse.add requested).fitsWithin limit then .ok ()
  else .error ⟨project, requested, inUse, limit⟩

theorem admitQuota_eq_ok {project : String} {limit inUse requested : ResourceMap} :
    admitQuota project limit inUse requested = .ok () ↔
      (inUse.add requested).fitsWithin limit = true := by
  unfold admitQuota
  split
  · next fits => simp [fits]
  · next exceeds => simp [exceeds]

namespace Demand

variable {others : List ClusterSpec} {spec : ClusterSpec} {project : String}
  {limit inUse : ResourceMap} {demand : ResourceMap × ResourceMap}
  (summed : sumMaxDemand others = .ok inUse) (computed : clusterDemand spec = .ok demand)

include summed computed

/-- An admitted cluster fits together with those it was summed with. -/
theorem fits_of_admitQuota (admitted : admitQuota project limit inUse demand.2 = .ok ()) :
    Fits (others ++ [spec]) limit := by
  apply sum_fits_iff.mp
  refine ⟨inUse.add demand.2, ?_, admitQuota_eq_ok.mp admitted⟩
  have summed' : others.foldlM addMaxDemand .empty = .ok inUse := summed
  simp only [sumMaxDemand, foldlM_append, Fallible.bind_eq_ok]
  refine ⟨inUse, summed', ?_⟩
  simp only [foldlM_cons, foldlM_nil, Fallible.bind_eq_ok]
  exact ⟨_, addMaxDemand_eq_ok.mpr ⟨demand, computed, rfl⟩, rfl⟩

/-- A refused cluster does not fit together with those it was summed with. -/
theorem admitQuota_of_fits (fits : Fits (others ++ [spec]) limit) :
    admitQuota project limit inUse demand.2 = .ok () := by
  rcases sum_fits_iff.mpr fits with ⟨total, totalSum, within⟩
  rw [admitQuota_eq_ok]
  simp only [sumMaxDemand, foldlM_append, Fallible.bind_eq_ok, foldlM_cons, foldlM_nil] at totalSum
  rcases totalSum with ⟨middle, middleSum, last, lastStep, lastEq⟩
  rcases addMaxDemand_eq_ok.mp lastStep with ⟨demand', computed', rfl⟩
  have middleEq : middle = inUse := by
    have both := middleSum.symm.trans summed
    simpa using both
  have demandEq : demand' = demand := by
    have both := computed'.symm.trans computed
    simpa using both
  cases lastEq
  rw [← middleEq, ← demandEq]
  exact within

end Demand

structure Budget where
  windowSecs : ℕ
  limits : ResourceMap

structure BudgetExceeded where
  project : String
  consumed : ResourceMap
  limit : ResourceMap
  windowSecs : ℕ

def admitBudget (project : String) (budget : Budget) (consumed : ResourceMap) :
    Except BudgetExceeded Unit :=
  if budget.limits.rows.any fun entry => entry.2 ≤ consumed.get entry.1 then
    .error ⟨project, consumed, budget.limits, budget.windowSecs⟩
  else .ok ()

/-- The state of the integration of a step function: level, cursor, accrued seconds. -/
structure Accrual where
  level : ℚ
  cursor : ℕ
  seconds : ℚ

def accrue (start stop : ℕ) : List (ℕ × ℚ) → Accrual → Accrual
  | [], state => state
  | (time, quantity) :: later, state =>
    if time ≤ start then accrue start stop later { state with level := quantity }
    else if stop ≤ time then state
    else accrue start stop later
      ⟨quantity, time, state.seconds + state.level * (time - state.cursor : ℕ)⟩

def resourceHours (samples : List (ℕ × ℚ)) (start stop : ℕ) : ℚ :=
  if stop ≤ start then 0
  else
    let points := samples.insertionSort fun first second => first.1 ≤ second.1
    let final := accrue start stop points ⟨0, start, 0⟩
    (final.seconds + final.level * (stop - final.cursor : ℕ)) / 3600

abbrev SeriesTable := Table (fun series : (String × String) × List (ℕ × ℚ) => series.1)

def windowedResourceHours (series : SeriesTable) (start stop : ℕ) : ResourceMap :=
  series.rows.foldl
    (fun hours entry => hours.bump (entry.1.2, resourceHours entry.2 start stop)) .empty

inductive GpuSharingViolation where
  | crossTenantTimeSlice (pool : String) (tenants : ℕ)
  | crossTenantFractionalGpu (pool group requested : String) (tenants : ℕ)
  | quantity (error : QuantityError)
  deriving DecidableEq, Repr

variable (pool : PoolSpec) (platformDefault : GpuSharing)

def effectiveGpuSharing : GpuSharing :=
  pool.gpuSharing.getD platformDefault

variable (tenants : ℕ)

/-- A pool shared by more than one project may not be time-sliced. -/
def checkPoolGpuIsolation : Except GpuSharingViolation Unit :=
  if tenants > 1 ∧ effectiveGpuSharing pool platformDefault = .timeSlice then
    .error (.crossTenantTimeSlice pool.name tenants)
  else .ok ()

def checkGroupGpu (group : WorkerGroup) : Except GpuSharingViolation Unit :=
  match group.gpu with
  | none => .ok ()
  | some raw => do
      let count ← (gpuCount (some raw)).mapError .quantity
      if count.den ≠ 1 then .error (.crossTenantFractionalGpu pool.name group.name raw tenants)
      else .ok ()

def checkClusterGpuIsolation (spec : ClusterSpec) : Except GpuSharingViolation Unit := do
  checkPoolGpuIsolation pool platformDefault tenants
  if tenants ≤ 1 then return ()
  spec.workerGroups.forM (checkGroupGpu pool tenants)

abbrev QuotaTable := Table (fun quota : String × ResourceMap => quota.1)

abbrev BudgetTable := Table (fun budget : String × Budget => budget.1)

/-- The policy as it is configured at boot. -/
structure PolicyConfig where
  prices : Option ResourceMap
  quotas : QuotaTable
  budgets : BudgetTable
  gpuDefaultSharing : GpuSharing

structure StoredPolicy where
  prices : Option ResourceMap
  quotas : QuotaTable
  budgets : BudgetTable
  fromFileSeed : Bool

def seedFromConfig (config : PolicyConfig) : Option StoredPolicy :=
  if config.prices.isNone && config.quotas.rows.isEmpty && config.budgets.rows.isEmpty then none
  else some ⟨config.prices, config.quotas, config.budgets, true⟩

def quotaFor (policy : Option StoredPolicy) (project : String) : Option ResourceMap :=
  policy.bind fun stored => (stored.quotas.find? project).map Prod.snd

def budgetFor (policy : Option StoredPolicy) (project : String) : Option Budget :=
  policy.bind fun stored => (stored.budgets.find? project).map Prod.snd

structure CostEstimate where
  minHourly : ℚ
  maxHourly : ℚ

/-- The price of an amount of resources; one without a price is free. -/
def priceOf (prices amounts : ResourceMap) : ℚ :=
  (amounts.rows.map fun entry => entry.2 * prices.get entry.1).sum

def estimateCost (prices : ResourceMap) (spec : ClusterSpec) : Except PolicyError CostEstimate := do
  let (minimum, maximum) ← clusterDemand spec
  return ⟨priceOf prices minimum, priceOf prices maximum⟩

end Mobula
