import Mobula.Controller.World

/-!
# The load of a project

The clusters of a project that are wanted running make up its load, a partial function from ids
to specifications. Quotas bound the summed maximum demand of the load.
-/

namespace Mobula

open Foundation List Prod ClusterTable

def StoredCluster.counts (project : String) (row : StoredCluster) : Bool :=
  row.spec.project = project && row.desired = .running

/-- The specification under which an id counts against the quota of a project. -/
def load (project : String) (rows : ClusterTable) (id : ClusterId) : Option ClusterSpec :=
  ((rows.find? id).filter (·.counts project)).map (·.spec)

/-- The summed maximum demand of the project's running clusters fits the limit. -/
def ProjectFits (project : String) (limit : ResourceMap) (rows : ClusterTable) : Prop :=
  ∃ total, sumMaxDemand ((rows.rows.filter (·.counts project)).map (·.spec)) = .ok total ∧
    total.fitsWithin limit = true

instance (project : String) (limit : ResourceMap) (rows : ClusterTable) :
    Decidable (ProjectFits project limit rows) :=
  match summed : sumMaxDemand ((rows.rows.filter (·.counts project)).map (·.spec)) with
  | .ok total =>
    decidable_of_iff (total.fitsWithin limit = true) (by simp [ProjectFits, summed])
  | .error _ => isFalse (by simp [ProjectFits, summed])

variable {project : String} {rows rows' : ClusterTable} {id wanted : ClusterId} {spec : ClusterSpec}
  {limit : ResourceMap} {call : RowCall} {now : ℕ} {row : StoredCluster}

theorem load_eq_some_iff : load project rows id = some spec ↔
      ∃ row, rows.find? id = some row ∧ row.counts project = true ∧ row.spec = spec := by
  simp [load, Option.map_eq_some_iff, Option.filter_eq_some_iff, and_assoc]

theorem projectFits_iff : ProjectFits project limit rows ↔
      Demand.Fits ((rows.rows.filter (·.counts project)).map (·.spec)) limit :=
  Demand.sum_fits_iff

theorem projectFits_of_covered {cover : List (ClusterId × ClusterSpec)}
    (covered : ∀ id spec, load project rows id = some spec → (id, spec) ∈ cover)
    (fits : Demand.Fits (cover.map snd) limit) : ProjectFits project limit rows := by
  rw [projectFits_iff]
  let counted := rows.rows.filter (·.counts project)
  have distinct : (counted.map fun row => (row.id, row.spec)).Nodup := by
    have ids : (counted.map StoredCluster.id).Nodup :=
      (filter_sublist.map StoredCluster.id).nodup rows.nodup
    apply Nodup.of_map fst
    simpa [Function.comp_def] using ids
  have subset : counted.map (fun row => (row.id, row.spec)) ⊆ cover := by
    intro pair pairMem
    rcases mem_map.mp pairMem with ⟨row, rowMem, rfl⟩
    rcases mem_filter.mp rowMem with ⟨stored, counts⟩
    apply covered
    rw [load_eq_some_iff]
    exact ⟨row, Table.find?_of_mem stored, counts, rfl⟩
  rcases subperm_of_subset distinct subset with ⟨between, perm, sublist⟩
  have subperm : (counted.map StoredCluster.spec).Subperm (cover.map snd) := by
    refine ⟨between.map snd, ?_, sublist.map snd⟩
    simpa [Function.comp_def] using perm.map snd
  exact Demand.Fits.of_subperm subperm fits

theorem ProjectFits.of_load (fits : ProjectFits project limit rows)
    (shrunk : ∀ id spec, load project rows' id = some spec → load project rows id = some spec) :
    ProjectFits project limit rows' := by
  let counted := rows.rows.filter (·.counts project)
  have covers : ∀ id spec, load project rows' id = some spec →
      (id, spec) ∈ counted.map fun row => (row.id, row.spec) := by
    intro id spec loaded
    rcases load_eq_some_iff.mp (shrunk id spec loaded) with ⟨row, found, counts, specEq⟩
    rcases Table.find?_eq_some_iff.mp found with ⟨rowMem, rowId⟩
    refine mem_map.mpr ⟨row, mem_filter.mpr ⟨rowMem, counts⟩, ?_⟩
    rw [← specEq, ← rowId]
  apply projectFits_of_covered covers
  simp
  exact projectFits_iff.mp fits

theorem ProjectFits.of_loaded {part : List (ClusterId × ClusterSpec)}
    (fits : ProjectFits project limit rows) (distinct : (part.map fst).Nodup)
    (loaded : ∀ entry ∈ part, load project rows entry.1 = some entry.2) :
    Demand.Fits (part.map snd) limit := by
  let counted := rows.rows.filter (·.counts project)
  have subset : part ⊆ counted.map fun row => (row.id, row.spec) := by
    intro entry entryMem
    rcases load_eq_some_iff.mp (loaded entry entryMem) with ⟨row, found, counts, specEq⟩
    rcases Table.find?_eq_some_iff.mp found with ⟨rowMem, rowId⟩
    refine mem_map.mpr ⟨row, mem_filter.mpr ⟨rowMem, counts⟩, ?_⟩
    rw [rowId, specEq]
  rcases subperm_of_subset (Nodup.of_map fst distinct) subset with
    ⟨between, perm, sublist⟩
  have subperm : (part.map snd).Subperm (counted.map StoredCluster.spec) := by
    refine ⟨between.map snd, perm.map snd, ?_⟩
    simpa [Function.comp_def] using sublist.map snd
  exact Demand.Fits.of_subperm subperm (projectFits_iff.mp fits)

theorem load_congr (same : rows'.find? id = rows.find? id) :
    load project rows' id = load project rows id := by
  rw [load, load, same]

theorem load_reordered (reordered : rows.Reordered rows') :
    load project rows' id = load project rows id :=
  load_congr (Table.find?_reordered reordered id).symm

def Call.raises (project : String) : Call → Bool
  | .row (.upsertDesired _ spec) => spec.project = project
  | .row (.setDesired _ desired) => desired = .running
  | _ => false

theorem RowCall.effect_counts {current : Option StoredCluster}
    (harmless : (Call.row call).raises project = false) (left : call.effect now current = some row)
    (counts : row.counts project = true) :
    ∃ old, current = some old ∧ old.counts project = true ∧ row.spec = old.spec := by
  cases call with
  | upsertDesired id spec =>
    simp [RowCall.effect] at left
    simp [Call.raises] at harmless
    subst left
    simp [StoredCluster.counts, harmless] at counts
  | setDesired id desired =>
    simp [RowCall.effect] at left
    simp [Call.raises] at harmless
    rcases left with ⟨old, found, rfl⟩
    simp [StoredCluster.counts, withDesired, harmless] at counts
  | removeCluster id => cases left
  | get id => exact ⟨row, left, counts, rfl⟩
  | list => exact ⟨row, left, counts, rfl⟩
  | _ =>
    simp [RowCall.effect] at left
    rcases left with ⟨old, found, rfl⟩
    exact ⟨old, found, counts, rfl⟩

theorem load_execRow (harmless : (Call.row call).raises project = false)
    (loaded : load project (execRow call rows now).2 id = some spec) :
    load project rows id = some spec := by
  have lookup := find?_execRow call rows now id
  split at lookup
  · rcases load_eq_some_iff.mp loaded with ⟨row, found, counts, specEq⟩
    rw [lookup] at found
    rcases RowCall.effect_counts harmless found counts with ⟨old, oldFound, oldCounts, same⟩
    exact load_eq_some_iff.mpr ⟨old, oldFound, oldCounts, same.symm.trans specEq⟩
  · rwa [load_congr lookup] at loaded

/-- Only an upsert into the project or a wish to run can add to its load. -/
theorem load_exec {Provider : Type} {platform : Platform Provider} {thread : ℕ} {call : Call}
    {world world' : World Provider} {answer : call.Res}
    (answered : exec platform thread call world = some (answer, world'))
    (harmless : call.raises project = false)
    (loaded : load project world'.store.clusters id = some spec) :
    load project world.store.clusters id = some spec := by
  rw [clusters_exec answered] at loaded
  cases call with
  | row call => exact load_execRow harmless loaded
  | _ => exact loaded

theorem load_upsertDesired {posted : ClusterSpec}
    (loaded : load project (upsertDesired rows id posted now) wanted = some spec) :
    if wanted = id then spec = posted else load project rows wanted = some spec := by
  have lookup := find?_upsertDesired rows id wanted posted now
  split
  · next same =>
      rw [if_pos same] at lookup
      rcases load_eq_some_iff.mp loaded with ⟨row, found, counts, specEq⟩
      simp [lookup] at found
      rw [← specEq, ← found, upsertedRow_spec]
  · next differs =>
      rw [if_neg differs] at lookup
      rwa [load_congr lookup] at loaded

theorem load_setDesired {desired : DesiredState} (found : rows.find? id = some row)
    (loaded : load project (setDesired rows id desired now) wanted = some spec) :
    if wanted = id then spec = row.spec ∧ row.spec.project = project
    else load project rows wanted = some spec := by
  have lookup := find?_setDesired rows id wanted desired now
  split
  · next same =>
      rw [if_pos same, same, found] at lookup
      rw [same] at loaded
      rcases load_eq_some_iff.mp loaded with ⟨changed, changedFound, counts, specEq⟩
      simp [lookup] at changedFound
      subst changedFound
      simp [StoredCluster.counts] at counts
      exact ⟨specEq.symm, counts.1⟩
  · next differs =>
      rw [if_neg differs] at lookup
      rwa [load_congr lookup] at loaded

end Mobula
