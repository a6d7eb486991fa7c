import Mobula.Api.Alone
import Mobula.Controller.MeteringRuns
import Mobula.Policy.Usage

/-!
# Consumption as metered

The consumption of a project is read back from the recorded samples: they are grouped by pool
and resource, and each group is integrated as one step series. Samples of one tick carry one
time, so within a group the last of them replaces the others.
-/

namespace Mobula

open Foundation Foundation.StepSeries List Table UsageSample

namespace UsageSample

def reading (sample : UsageSample) : ℕ × ℚ := (sample.ts, sample.quantity)

def inGroup (pool resource : String) (sample : UsageSample) : Bool :=
  sample.pool = pool ∧ sample.resource = resource

end UsageSample

def groupOf (samples : List UsageSample) (key : String × String) : List (ℕ × ℚ) :=
  (samples.filter (inGroup key.1 key.2)).map reading

def SeriesTable.readings (series : SeriesTable) (key : String × String) : List (ℕ × ℚ) :=
  ((series.find? key).map Prod.snd).getD []

theorem foldl_readings (samples : List UsageSample) :
    samples.foldl (fun readings sample => readings ++ [sample.reading]) [] =
      samples.map reading := by
  rw [foldl_append_eq_append, ← flatMap_def, ← map_eq_flatMap, nil_append]

variable {samples : List UsageSample} {key : String × String}

theorem readings_groupSamples :
    SeriesTable.readings (groupSamples samples) key = groupOf samples key := by
  refine (collected_foldl (fun sample : UsageSample => (sample.pool, sample.resource))
    (fun readings sample => readings ++ [sample.reading]) [] .empty samples key).trans ?_
  refine (foldl_readings _).trans ?_
  refine congrArg (map _) (filter_congr fun sample _ => ?_)
  simp [inGroup, Prod.ext_iff]

theorem row_groupSamples {row : (String × String) × List (ℕ × ℚ)}
    (rowMem : row ∈ (groupSamples samples).rows) :
    row.2 = groupOf samples row.1 := by
  rw [← readings_groupSamples, SeriesTable.readings, find?_of_mem rowMem]
  rfl

theorem resourceHours_nil (start stop : ℕ) : resourceHours [] start stop = 0 := by
  simp [resourceHours_eq_total, inTimeOrder, total]

theorem exists_of_resourceHours {start stop : ℕ}
    (counted : resourceHours (groupOf samples key) start stop ≠ 0) :
    ∃ sample ∈ samples, (sample.pool, sample.resource) = key := by
  rcases grouped : samples.filter (inGroup key.1 key.2) with _ | ⟨sample, others⟩
  · simp [groupOf, grouped, resourceHours_nil] at counted
  · have found := mem_filter.mp (grouped ▸ mem_cons_self : sample ∈ samples.filter _)
    exact ⟨sample, found.1, Prod.ext_iff.mpr (of_decide_eq_true found.2)⟩

/-- A sum over the entries of a table, over any keys that cover what is not zero. -/
theorem sum_entries {κ β : Type} [DecidableEq κ] (table : Table (fun entry : κ × β => entry.1))
    (amount : κ → β → ℚ) {nothing : β} (zero : ∀ key, amount key nothing = 0) {keys : Finset κ}
    (covers : ∀ entry ∈ table.rows, amount entry.1 entry.2 ≠ 0 → entry.1 ∈ keys) :
    (table.rows.map fun entry => amount entry.1 entry.2).sum =
      ∑ key ∈ keys, amount key (table.collected nothing key) := by
  have listed : (table.rows.map fun entry => amount entry.1 entry.2).sum =
      ∑ key ∈ (table.rows.map Prod.fst).toFinset, amount key (table.collected nothing key) := by
    simp [sum_toFinset _ table.nodup]
    refine congrArg sum (map_congr_left fun entry entryMem => ?_)
    simp [collected_of_mem entryMem]
  rw [listed]
  refine Finset.sum_congr_of_eq_on_inter ?_ ?_ fun _ _ _ => rfl
  · intro key keyMem outside
    rcases mem_map.mp (mem_toFinset.mp keyMem) with ⟨entry, entryMem, rfl⟩
    rw [collected_of_mem entryMem]
    exact not_imp_comm.mp (covers entry entryMem) outside
  · intro key _ unlisted
    have missing : table.find? key = none := by
      rw [find?_eq_none_iff]
      intro entry entryMem same
      exact unlisted (mem_toFinset.mpr (mem_map.mpr ⟨entry, entryMem, same⟩))
    rw [collected, missing]
    exact zero key

theorem get_windowedResourceHours_groupSamples (samples : List UsageSample) (resource : String)
    (start stop : ℕ) {pools : Finset String}
    (covers : ∀ sample ∈ samples, sample.resource = resource → sample.pool ∈ pools) :
    (windowedResourceHours (groupSamples samples) start stop).get resource =
      ∑ pool ∈ pools, resourceHours (groupOf samples (pool, resource)) start stop := by
  rw [get_windowedResourceHours, @sum_entries _ _ _ (groupSamples samples) (fun key series =>
    if key.2 = resource then resourceHours series start stop else 0) []
    (by simp [resourceHours_nil]) (pools.image (·, resource)),
    Finset.sum_image fun _ _ _ _ same => (Prod.mk.inj same).1]
  · refine Finset.sum_congr rfl fun pool _ => ?_
    rw [if_pos rfl, ← readings_groupSamples]
    rfl
  · intro entry entryMem counted
    have same : entry.1.2 = resource := by
      by_contra other
      simp [other] at counted
    rw [if_pos same, row_groupSamples entryMem] at counted
    rcases exists_of_resourceHours counted with ⟨sample, sampleMem, key⟩
    rw [← key] at same ⊢
    exact Finset.mem_image.mpr ⟨sample.pool, covers sample sampleMem same, Prod.ext rfl same.symm⟩

namespace Store

variable (store : Store) (project : String)

/-- What `windowedConsumption` computes from the stored samples. -/
def consumed (start stop : ℕ) : ResourceMap :=
  windowedResourceHours (groupSamples (store.usageSamples (some project) none 0 stop)) start stop

def readings (pool resource : String) : List (ℕ × ℚ) :=
  (store.usage.filter fun sample =>
    sample.project = project && sample.inGroup pool resource).map reading

theorem groupOf_usageSamples (pool resource : String) (stop : ℕ) :
    groupOf (store.usageSamples (some project) none 0 stop) (pool, resource) =
      (inTimeOrder (store.readings project pool resource)).filter (·.1 ≤ stop) := by
  let before (first second : UsageSample) : Prop := first.ts ≤ second.ts
  have selected (samples : List UsageSample) :
      (samples.filter fun sample => 0 ≤ sample.ts ∧ sample.ts ≤ stop ∧
        (some project).all (sample.project = ·) ∧
        (none : Option String).all (sample.pool = ·)).filter (inGroup pool resource) =
      (samples.filter fun sample =>
        sample.project = project && sample.inGroup pool resource).filter (·.ts ≤ stop) := by
    rw [filter_filter, filter_filter]
    congr 1
    funext sample
    simp [zero_le, Bool.decide_and]
    cases decide (sample.ts ≤ stop) <;> cases sample.inGroup pool resource <;> simp
  have projected (samples : List UsageSample) :
      (samples.insertionSort before).map reading =
        inTimeOrder (samples.map reading) :=
    map_insertionSort before _ reading samples fun _ _ _ _ => Iff.rfl
  rw [groupOf, Store.usageSamples, filter_insertionSort, selected, projected, readings,
    inTimeOrder, inTimeOrder, filter_insertionSort, filter_map]
  rfl

theorem resourceHours_groupOf (pool resource : String) (start stop : ℕ) :
    resourceHours (groupOf (store.usageSamples (some project) none 0 stop) (pool, resource))
        start stop =
      total 0 (inTimeOrder (store.readings project pool resource)) start stop / 3600 := by
  have sorted : ((inTimeOrder (store.readings project pool resource)).filter
      (·.1 ≤ stop)).Pairwise fun first second => first.1 ≤ second.1 :=
    (pairwise_insertionSort _ _).filter _
  rw [resourceHours_eq_total, groupOf_usageSamples, inTimeOrder, sorted.insertionSort_eq]
  congr 1
  apply total_congr
  intro time _ inside
  apply levelAt_filter
  intro reading _ taken
  simpa using taken.trans inside.le

theorem get_consumed (resource : String) (start stop : ℕ) {pools : Finset String}
    (covers : ∀ sample ∈ store.usage, sample.project = project → sample.resource = resource →
      sample.pool ∈ pools) :
    (store.consumed project start stop).get resource =
      ∑ pool ∈ pools,
        total 0 (inTimeOrder (store.readings project pool resource)) start stop / 3600 := by
  rw [consumed, get_windowedResourceHours_groupSamples]
  · exact Finset.sum_congr rfl fun pool _ =>
      store.resourceHours_groupOf project pool resource start stop
  · intro sample sampleMem
    rw [Store.usageSamples, mem_insertionSort, mem_filter] at sampleMem
    have owned : sample.project = project := by
      simpa using (decide_eq_true_iff.mp sampleMem.2).2.2.1
    exact covers sample sampleMem.1 owned

end Store

end Mobula
