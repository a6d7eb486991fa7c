import Mobula.Api.PoolRequests
import Mobula.Api.Usage

/-!
# The usage report

The report groups the stored samples by project and pool, budget admission by pool
and resource for one project. Both integrate the same series, so that the groups of
a project add up to what its budget is charged with.
-/

namespace Mobula

open Foundation List Table Store

structure UsageQuery where
  project : Option String := none
  pool : Option String := none
  start : Option ℕ := none
  stop : Option ℕ := none

structure UsageGroup where
  project : String
  pool : String
  resourceHours : ResourceMap
  costUsd : Option ℚ

structure BudgetStatus where
  project : String
  windowSecs : ℕ
  limit : ResourceMap
  consumed : ResourceMap
  remaining : ResourceMap
  exhausted : Bool

structure UsageReport where
  start : ℕ
  stop : ℕ
  groups : List UsageGroup
  budgets : List BudgetStatus

abbrev ResourceSeries := Table (fun series : String × List (ℕ × ℚ) => series.1)

def groupUsage (samples : List UsageSample) :
    Table (fun group : (String × String) × ResourceSeries => group.1) :=
  samples.foldl
    (fun groups sample =>
      let key := (sample.project, sample.pool)
      let series := groups.collected .empty key
      let readings := series.collected [] sample.resource
      groups.insert
        (key, series.insert (sample.resource, readings ++ [(sample.ts, sample.quantity)])))
    .empty

def amountsOf {β : Type} (entries : Table (fun entry : String × β => entry.1))
    (amount : String × β → ℚ) : ResourceMap where
  rows := entries.rows.map fun entry => (entry.1, amount entry)
  nodup := by simpa [Function.comp_def] using entries.nodup

def usageGroup (prices : Option ResourceMap) (start stop : ℕ)
    (group : (String × String) × ResourceSeries) : UsageGroup :=
  let hours := amountsOf group.2 fun series => resourceHours series.2 start stop
  ⟨group.1.1, group.1.2, hours, prices.map fun sheet => priceOf sheet hours⟩

def budgetStatus (project : String) (budget : Budget) (consumed : ResourceMap) : BudgetStatus :=
  ⟨project, budget.windowSecs, budget.limits, consumed,
    amountsOf budget.limits fun cap => max (cap.2 - consumed.get cap.1) 0,
    !(admitBudget project budget consumed).isOk⟩

def budgetStatuses (filter : Option String) (stop : ℕ) :
    List (String × Budget) → Program (StoreResult (List BudgetStatus))
  | [] => return .ok []
  | (project, budget) :: budgets =>
    if filter.any (· ≠ project) then budgetStatuses filter stop budgets
    else do
      match ← windowedConsumption project (stop - budget.windowSecs) stop with
      | .error failure => return .error failure
      | .ok consumed =>
        let later ← budgetStatuses filter stop budgets
        return later.map (budgetStatus project budget consumed :: ·)

def sortedBudgets (policy : Option StoredPolicy) : List (String × Budget) :=
  ((policy.map fun stored => stored.budgets.rows).getD []).insertionSort
    fun first second => first.1 ≤ second.1

def UsageQuery.windowEnd (query : UsageQuery) : Program ℕ :=
  match query.stop with
  | some stop => return stop
  | none => Calls.nowUnix

def usageReport (seed : PolicyConfig) (identity : Caller) (query : UsageQuery) :
    Program (Except Response UsageReport) := do
  match ← authorize identity .read .cluster with
  | some denied => return .error denied
  | none =>
    let stop ← query.windowEnd
    let start := query.start.getD (stop - 86400)
    if stop ≤ start then return .error ⟨400, .text "from must be before to"⟩
    else
      match ← Calls.usageSamples query.project query.pool 0 stop with
      | .error _ => return .error storeError
      | .ok samples =>
        match ← effectivePolicy seed with
        | .error _ => return .error storeError
        | .ok policy =>
          let prices := policy.bind (·.prices)
          let groups := (groupUsage samples).rows.map (usageGroup prices start stop)
          match ← budgetStatuses query.project stop (sortedBudgets policy) with
          | .error _ => return .error storeError
          | .ok budgets => return .ok ⟨start, stop, groups, budgets⟩

section Groups

variable {samples : List UsageSample} {prices : Option ResourceMap} {start stop : ℕ}
  {project resource : String}

theorem readings_groupUsage {pool : String} :
    ((groupUsage samples).collected .empty (project, pool)).collected [] resource =
      groupOf (samples.filter (·.project = project)) (pool, resource) := by
  have grouped := collected_foldl (fun sample : UsageSample => (sample.project, sample.pool))
    (fun (series : ResourceSeries) sample => series.insert
      (sample.resource, series.collected [] sample.resource ++ [sample.reading]))
    .empty .empty samples (project, pool)
  refine (congrArg (fun series : ResourceSeries => series.collected [] resource) grouped).trans ?_
  refine (collected_foldl UsageSample.resource
    (fun readings sample => readings ++ [sample.reading]) [] .empty _ resource).trans ?_
  refine (foldl_readings _).trans (congrArg (map _) ?_)
  rw [filter_filter, filter_filter]
  refine filter_congr fun sample _ => ?_
  rw [Bool.eq_iff_iff]
  simp [UsageSample.inGroup]
  tauto

theorem get_hours {series : ResourceSeries} :
    (amountsOf series fun series => resourceHours series.2 start stop).get resource =
      resourceHours (series.collected [] resource) start stop := by
  have found : (amountsOf series fun series => resourceHours series.2 start stop).find? resource =
      (series.find? resource).map fun entry => (entry.1, resourceHours entry.2 start stop) := by
    rw [Table.find?, amountsOf, find?_map]
    rfl
  rw [ResourceMap.get, found, collected]
  cases series.find? resource with
  | none => exact (resourceHours_nil start stop).symm
  | some entry => rfl

/-- The groups of a project add up to the hours of its own samples. -/
theorem sum_groups : ((((groupUsage samples).rows.map (usageGroup prices start stop)).filter
        (·.project = project)).map (·.resourceHours.get resource)).sum =
      (windowedResourceHours (groupSamples (samples.filter (·.project = project))) start
        stop).get resource := by
  let amount (key : String × String) (series : ResourceSeries) : ℚ :=
    if key.1 = project then resourceHours (series.collected [] resource) start stop else 0
  let pools := (samples.map (·.pool)).toFinset
  have reported : ((((groupUsage samples).rows.map (usageGroup prices start stop)).filter
      (·.project = project)).map (·.resourceHours.get resource)).sum =
      ((groupUsage samples).rows.map fun group => amount group.1 group.2).sum := by
    rw [sum_map_ite]
    simp only [filter_map, map_map, Function.comp_def, usageGroup, get_hours]
    simp
    rfl
  rw [reported, @sum_entries _ _ _ _ amount .empty (by simp [amount, collected,
      resourceHours_nil]) (pools.image (project, ·)),
    Finset.sum_image fun _ _ _ _ same => (Prod.mk.inj same).2,
    @get_windowedResourceHours_groupSamples _ _ _ _ pools]
  · refine Finset.sum_congr rfl fun pool _ => ?_
    simp [amount, readings_groupUsage]
  · intro sample sampleMem _
    exact mem_toFinset.mpr (mem_map_of_mem (mem_filter.mp sampleMem).1)
  · intro group groupMem counted
    have own : group.1.1 = project := by
      by_contra other
      simp [amount, other] at counted
    simp only [amount, if_pos own, ← collected_of_mem groupMem .empty] at counted
    rw [readings_groupUsage] at counted
    rcases exists_of_resourceHours counted with ⟨sample, sampleMem, key⟩
    refine Finset.mem_image.mpr ⟨sample.pool, mem_toFinset.mpr (mem_map_of_mem
      (mem_filter.mp sampleMem).1), Prod.ext own.symm (congrArg Prod.fst key)⟩

end Groups

section Report

variable {Provider : Type} {platform : Platform Provider} {thread : ℕ}
  {world world' : World Provider} {seed : PolicyConfig} {identity : Caller}
  {query : UsageQuery} {report : UsageReport}

theorem usageSamples_of_project {store : Store} {filter : Option String} {project : String}
    (about : ∀ other ∈ filter, other = project) {stop : ℕ} :
    (store.usageSamples filter none 0 stop).filter (·.project = project) =
      store.usageSamples (some project) none 0 stop := by
  rw [usageSamples, usageSamples, StepSeries.filter_insertionSort, filter_filter]
  refine congrArg _ (filter_congr fun sample _ => ?_)
  rcases filter with _ | other
  · simp [Bool.and_comm]
  · rw [about other rfl]
    simp [Bool.and_comm]

theorem budgetStatuses_ran {filter : Option String} {stop : ℕ} {budgets : List (String × Budget)}
    {statuses : List BudgetStatus}
    (ran : Runs platform thread (budgetStatuses filter stop budgets) world (.ok statuses) world') :
    statuses = (budgets.filter fun entry => !filter.any (· ≠ entry.1)).map fun entry =>
      budgetStatus entry.1 entry.2
        (world.store.consumed entry.1 (stop - entry.2.windowSecs) stop) := by
  induction budgets generalizing statuses with
  | nil =>
    cases ran.of_ret.1
    rfl
  | cons entry budgets ih =>
    rcases entry with ⟨project, budget⟩
    unfold budgetStatuses at ran
    split at ran
    · next skipped => rw [filter_cons_of_neg (by simpa using skipped), ih ran]
    · next wanted =>
        rcases ran.of_bind with ⟨answer, middle, consulted, continued⟩
        rcases consulted.unique windowedConsumption_runs with ⟨rfl, rfl⟩
        rcases continued.of_bind with ⟨later, final, swept, returned⟩
        rcases later with failure | later
        · cases returned.of_ret.1
        rcases returned.of_ret with ⟨same, rfl⟩
        cases same
        rw [filter_cons_of_pos (by simpa using wanted), map_cons, ← ih swept]
        rfl

theorem mem_sortedBudgets {policy : Option StoredPolicy} {project : String} {budget : Budget} :
    (project, budget) ∈ sortedBudgets policy ↔ budgetFor policy project = some budget := by
  rw [sortedBudgets, mem_insertionSort]
  rcases policy with _ | stored
  · simp [budgetFor]
  · simp [budgetFor, find?_eq_some_iff]

theorem exhausted_budgetStatus {project : String} {budget : Budget} {consumed : ResourceMap} :
    (budgetStatus project budget consumed).exhausted = true ↔
      ∃ exceeded, admitBudget project budget consumed = .error exceeded := by
  unfold budgetStatus
  rcases admitBudget project budget consumed with exceeded | _ <;>
    simp [Except.isOk, Except.toBool]

/-- What a report says of the store it was made from. -/
theorem usageReport_ran
    (ran : Runs platform thread (usageReport seed identity query) world (.ok report) world') :
    report.stop = query.stop.getD world.now ∧
    report.start = query.start.getD (report.stop - 86400) ∧
    (∃ prices, report.groups = (groupUsage (world.store.usageSamples query.project query.pool 0
      report.stop)).rows.map (usageGroup prices report.start report.stop)) ∧
    report.budgets = ((sortedBudgets (world.store.policyUnder seed)).filter fun entry =>
      !query.project.any (· ≠ entry.1)).map fun entry => budgetStatus entry.1 entry.2
        (world.store.consumed entry.1 (report.stop - entry.2.windowSecs) report.stop) := by
  rcases ran.of_bind with ⟨denied, authorized, checked, continued⟩
  rcases denied with _ | denied
  · have unchanged : authorized = world := by
      cases permitted : identity.all (·.permits .read .cluster) with
      | true => exact (checked.unique (authorize_passes permitted)).2
      | false =>
        rcases authorize_refuses platform thread world permitted with ⟨_, refused, _⟩
        cases (checked.unique refused).1
    subst unchanged
    rcases continued.of_bind with ⟨stop, timed, read, continued⟩
    have still : stop = query.stop.getD authorized.now ∧ timed.store = authorized.store := by
      unfold UsageQuery.windowEnd at read
      split at read
      · next given =>
          rcases read.of_ret with ⟨rfl, rfl⟩
          simp [given]
      · next absent =>
          rcases read.unique nowUnix_runs with ⟨rfl, rfl⟩
          simp [absent, World.afterReading_store]
    dsimp only at continued
    split at continued
    · cases continued.of_ret.1
    rcases continued.of_invoke with ⟨_, _, answered, continued⟩
    rw [exec_usageSamples] at answered
    cases answered
    rcases continued.of_bind with ⟨_, _, found, continued⟩
    rcases found.unique effectivePolicy_runs with ⟨rfl, rfl⟩
    rcases continued.of_bind with ⟨statuses, final, judged, returned⟩
    rcases statuses with failure | statuses
    · cases returned.of_ret.1
    cases returned.of_ret.1
    refine ⟨still.1, rfl, ⟨_, by rw [← still.2]⟩, ?_⟩
    rw [budgetStatuses_ran judged]
    simp only [policyUnder, still.2, consumed, usageSamples, World.seeded]
  · cases continued.of_ret.1

/--
The groups of a project add up to what budget admission charges it with over the window
of the report, every configured budget has a status, and a budget is marked as exhausted
exactly when its own window is refused.
-/
theorem usage_report_agrees
    (ran : Runs platform thread (usageReport seed identity query) world (.ok report) world') :
    (report.stop = query.stop.getD world.now ∧
      report.start = query.start.getD (report.stop - 86400)) ∧
    (query.pool = none → ∀ project, (∀ filter ∈ query.project, filter = project) →
      ∃ consumed, Runs platform thread (windowedConsumption project report.start report.stop) world
          (.ok consumed) world ∧
        ∀ resource, ((report.groups.filter (·.project = project)).map
          (·.resourceHours.get resource)).sum = consumed.get resource) ∧
    (∀ project, (budgetFor (world.store.policyUnder seed) project).isSome = true →
      (∀ filter ∈ query.project, filter = project) →
      ∃ status ∈ report.budgets, status.project = project) ∧
    ∀ status ∈ report.budgets, ∃ budget consumed,
      budgetFor (world.store.policyUnder seed) status.project = some budget ∧
      Runs platform thread (windowedConsumption status.project (report.stop - budget.windowSecs)
        report.stop) world (.ok consumed) world ∧
      (status.exhausted = true ↔
        ∃ exceeded, admitBudget status.project budget consumed = .error exceeded) := by
  rcases usageReport_ran ran with ⟨stop, start, ⟨prices, groups⟩, budgets⟩
  refine ⟨⟨stop, start⟩, ?_, ?_, ?_⟩
  · intro unfiltered project about
    refine ⟨_, windowedConsumption_runs, fun resource => ?_⟩
    rw [groups, unfiltered, sum_groups, usageSamples_of_project about]
  · intro project configured about
    rcases Option.isSome_iff_exists.mp configured with ⟨budget, found⟩
    refine ⟨_, budgets ▸ mem_map_of_mem (mem_filter.mpr ⟨mem_sortedBudgets.mpr found, ?_⟩), rfl⟩
    cases named : query.project with
    | none => rfl
    | some filter => simp [about filter named]
  · intro status statusMem
    rw [budgets] at statusMem
    rcases mem_map.mp statusMem with ⟨⟨project, budget⟩, entryMem, rfl⟩
    exact ⟨budget, _, mem_sortedBudgets.mp (mem_filter.mp entryMem).1, windowedConsumption_runs,
      exhausted_budgetStatus⟩

end Report

def meteredWorld : World DemoClusters :=
  demoWorld { Store.empty with
    usage := [⟨0, "p", "a", CPU, 2, .kueueLedger⟩, ⟨9, "p", "b", CPU, 1, .kueueLedger⟩,
      ⟨0, "q", "a", CPU, 5, .kueueLedger⟩]
    policy := some ⟨none, .empty, Table.empty.insert ("p", ⟨3600, oneHead⟩), false⟩ }

/-- The project has used up its budget, in two pools. -/
theorem usage_report_agrees_on_two_pools :
    ∃ report world' consumed status,
      Runs demoPlatform 0 (usageReport noPolicy none { start := some 0, stop := some 3600 })
        meteredWorld (.ok report) world' ∧
      Runs demoPlatform 0 (windowedConsumption "p" 0 3600) meteredWorld (.ok consumed)
        meteredWorld ∧
      ((report.groups.filter (·.project = "p")).map (·.resourceHours.get CPU)).sum =
        consumed.get CPU ∧
      status ∈ report.budgets ∧ status.project = "p" ∧ status.exhausted = true := by
  have ran : ∃ report world', Runs demoPlatform 0
      (usageReport noPolicy none { start := some 0, stop := some 3600 }) meteredWorld
      (.ok report) world' := ⟨_, _, _, rfl⟩
  rcases ran with ⟨report, world', ran⟩
  rcases usage_report_agrees ran with ⟨⟨stop, start⟩, hours, configured, judged⟩
  rcases hours rfl "p" (by simp) with ⟨consumed, charged, same⟩
  rcases configured "p" rfl (by simp) with ⟨status, statusMem, about⟩
  rcases judged status statusMem with ⟨budget, spent, found, measured, exhausted⟩
  rw [stop, start] at charged
  refine ⟨report, world', consumed, status, ran, charged, same CPU, statusMem, about,
    exhausted.mpr ?_⟩
  rw [about] at found measured ⊢
  cases found
  rw [stop] at measured
  cases (measured.unique windowedConsumption_runs).1
  exact exhausted_budgetStatus.mp (by decide +kernel)

end Mobula
