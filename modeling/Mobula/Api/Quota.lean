import Mobula.Api.Alone
import Mobula.Controller.Load
import Mobula.Controller.Reach

/-!
# What the quota check says about the load

The check of a creation sums the listed clusters of the project, its own id
aside. When the listing covers the load, an admitted specification keeps the
project within its limit, and one that is within the limit is admitted.
-/

namespace Mobula

open Foundation List

variable {rows : List StoredCluster} {limit : ResourceMap} {id : ClusterId} {spec : ClusterSpec}
  {project : String} {rows' : ClusterTable}

theorem fits_of_quotaAdmits (admitted : quotaAdmits rows limit id spec = true) :
    Demand.Fits (otherLive spec.project id rows ++ [spec]) limit := by
  unfold quotaAdmits at admitted
  split at admitted
  · next demand inUse computed summed =>
      exact Demand.fits_of_admitQuota summed computed
        (@admitQuota_eq_ok spec.project _ _ _ |>.mpr admitted)
  · cases admitted

theorem quotaAdmits_of_fits (fits : Demand.Fits (otherLive spec.project id rows ++ [spec]) limit) :
    quotaAdmits rows limit id spec = true := by
  have othersKnown : ∀ other ∈ otherLive spec.project id rows, Demand.Known other := by
    intro other otherMem
    exact fits.known other (mem_append_left _ otherMem)
  rcases fits.known spec (by simp) with ⟨demand, computed⟩
  rcases Demand.foldlM_addMaxDemand_ok .empty othersKnown with ⟨inUse, summed⟩
  have admitted : admitQuota spec.project limit inUse demand.2 = .ok () :=
    Demand.admitQuota_of_fits summed computed fits
  have sum : sumMaxDemand (otherLive spec.project id rows) = .ok inUse := summed
  simp only [quotaAdmits, computed, sum]
  exact admitQuota_eq_ok.mp admitted

theorem not_raises_of_passive {call : Call} (passive : call.passive = true) :
    call.raises project = false := by
  cases call with
  | row call => cases call <;> simp_all [Call.raises, Call.passive]
  | _ => rfl

/-- The listed rows account for the load of the project, one id aside. -/
def Covers (project : String) (id : ClusterId) (listed : List StoredCluster)
    (rows : ClusterTable) : Prop :=
  ∀ other posted, other ≠ id → load project rows other = some posted →
    ∃ row ∈ listed, row.id = other ∧ row.counts project = true ∧ row.spec = posted

theorem covers_self (project : String) (id : ClusterId) (rows : ClusterTable) :
    Covers project id rows.rows rows := by
  intro other posted _ loaded
  rcases load_eq_some_iff.mp loaded with ⟨row, found, counts, specEq⟩
  rcases Table.find?_eq_some_iff.mp found with ⟨rowMem, rowId⟩
  exact ⟨row, rowMem, rowId, counts, specEq⟩

theorem Covers.fits_of_change {listed : List StoredCluster} {rows : ClusterTable}
    (covered : Covers project id listed rows) (admitted : quotaAdmits listed limit id spec = true)
    (targets : spec.project = project)
    (changed : ∀ other posted, load project rows' other = some posted →
      if other = id then posted = spec else load project rows other = some posted) :
    ProjectFits project limit rows' := by
  let others := listed.filter fun row =>
    row.spec.project = spec.project && row.id ≠ id && row.desired = .running
  have fits : Demand.Fits (((others.map fun row => (row.id, row.spec)) ++ [(id, spec)]).map
      Prod.snd) limit := by
    simp
    exact fits_of_quotaAdmits admitted
  refine projectFits_of_covered ?_ fits
  intro other posted loaded
  have before := changed other posted loaded
  by_cases same : other = id
  · rw [if_pos same] at before
    simp [same, before]
  · rw [if_neg same] at before
    rcases covered other posted same before with ⟨row, rowMem, rowId, counts, specEq⟩
    simp [StoredCluster.counts] at counts
    apply mem_append_left
    refine mem_map.mpr ⟨row, mem_filter.mpr ⟨rowMem, ?_⟩, ?_⟩
    · simp [counts.1, counts.2, targets, rowId, same]
    · rw [rowId, specEq]

theorem quotaAdmits_of_projectFits {rows : ClusterTable} (fits : ProjectFits project limit rows')
    (targets : spec.project = project) (counted : load project rows' id = some spec)
    (kept : ∀ other, other ≠ id → load project rows' other = load project rows other) :
    quotaAdmits rows.rows limit id spec = true := by
  apply quotaAdmits_of_fits
  let others := rows.rows.filter fun row =>
    row.spec.project = spec.project && row.id ≠ id && row.desired = .running
  let part := (others.map fun row => (row.id, row.spec)) ++ [(id, spec)]
  have othersMem : ∀ row ∈ others, row ∈ rows.rows ∧ row.counts project = true ∧ row.id ≠ id := by
    intro row rowMem
    rcases mem_filter.mp rowMem with ⟨stored, selected⟩
    simp at selected
    refine ⟨stored, ?_, selected.1.2⟩
    simp [StoredCluster.counts, selected.1.1, selected.2, targets]
  have distinct : (part.map Prod.fst).Nodup := by
    have ids : (others.map StoredCluster.id).Nodup :=
      (filter_sublist.map StoredCluster.id).nodup rows.nodup
    have partIds : part.map Prod.fst = others.map StoredCluster.id ++ [id] := by
      simp [part, Function.comp_def]
    rw [partIds, nodup_append]
    refine ⟨ids, by simp, ?_⟩
    intro first firstMem second secondMem
    rcases mem_map.mp firstMem with ⟨row, rowMem, rfl⟩
    rw [mem_singleton.mp secondMem]
    exact (othersMem row rowMem).2.2
  have loaded : ∀ entry ∈ part, load project rows' entry.1 = some entry.2 := by
    intro entry entryMem
    rcases mem_append.mp entryMem with other | last
    · rcases mem_map.mp other with ⟨row, rowMem, rfl⟩
      rcases othersMem row rowMem with ⟨stored, counts, differs⟩
      rw [kept row.id differs]
      exact load_eq_some_iff.mpr ⟨row, Table.find?_of_mem stored, counts, rfl⟩
    · rw [mem_singleton.mp last]
      exact counted
  have together := fits.of_loaded distinct loaded
  rwa [map_append, map_map] at together

end Mobula
