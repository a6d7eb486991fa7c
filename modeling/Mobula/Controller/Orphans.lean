import Mobula.Grounds

/-!
# No orphaned backing clusters

A purge trusts the observation recorded in the row, and a pass trusts the row it listed. A pass
that listed a row before it was purged still applies it, and a cluster that was applied but not
yet recorded does not keep its row from being purged.
-/

namespace Mobula

open Foundation

variable {Provider : Type}

/-- What a provider holds changes through calls only, and only an apply adds to it. -/
structure Platform.Accounts (platform : Platform Provider)
    (holds : Provider → ClusterId → Prop) : Prop where
  apply : ∀ {id spec generation key queue provider wanted},
    holds (platform.apply id spec generation key queue provider).2 wanted →
      wanted = id ∨ holds provider wanted
  posture : ∀ {provider wanted},
    holds (platform.ensureNamespacePosture provider).2 wanted → holds provider wanted
  terminate : ∀ {id provider wanted},
    holds (platform.terminate id provider).2 wanted → holds provider wanted
  reapNetworkPolicies : ∀ {id provider wanted},
    holds (platform.reapNetworkPolicies id provider).2 wanted → holds provider wanted
  suspend : ∀ {id provider wanted},
    holds (platform.suspend id provider).2 wanted → holds provider wanted
  resume : ∀ {id provider wanted},
    holds (platform.resume id provider).2 wanted → holds provider wanted
  applyPool : ∀ {spec allocations provider wanted},
    holds (platform.applyPool spec allocations provider).2 wanted → holds provider wanted
  deletePool : ∀ {name provider wanted},
    holds (platform.deletePool name provider).2 wanted → holds provider wanted

/-- No row is removed between the last reading and the apply of a pass on it. -/
abbrev AppliesUnremoved (id : ClusterId) (trace : PlaneTrace Provider) : Prop :=
  Foundation.Undisturbed (Call.readsRow id) (Call.applies id) (·.op.removes id) trace

/-- No cluster is applied between the last reading and the removal of its row. -/
abbrev RemovesUnapplied (id : ClusterId) (trace : PlaneTrace Provider) : Prop :=
  Foundation.Undisturbed (Call.readsRow id) (Call.removes id) (·.op.applies id) trace

/-- A row is read as a tombstone only while the provider holds nothing for it. -/
abbrev ReadsRecorded (holds : Provider → ClusterId → Prop) (id : ClusterId)
    (trace : PlaneTrace Provider) : Prop :=
  ∀ step ∈ trace, step.op.readsRow id = true → ∀ row ∈ step.before.store.clusters.find? id,
    row.isTombstone = true → ¬holds step.before.provider id

/-- The cluster has a row. -/
def Stored (id : ClusterId) (world : World Provider) : Prop :=
  (world.store.clusters.find? id).isSome = true

section Runs

variable {platform : Platform Provider} {holds : Provider → ClusterId → Prop} {id : ClusterId}
  {seed : PolicyConfig} {origin : World Provider}
  {admits : PlaneConfig Provider → Actor → Prop}
  {trace earlier later : PlaneTrace Provider}
  {config : PlaneConfig Provider} {step : PlaneStep Provider}

theorem held_or_applied {thread : ℕ} {call : Call} {before after : World Provider}
    {answer : call.Res} (accounts : platform.Accounts holds)
    (answered : exec platform thread call before = some (answer, after))
    (held : holds after.provider id) : holds before.provider id ∨ call.applies id = true := by
  by_cases harmless : call.mutates = false
  · rw [provider_exec answered harmless] at held
    exact .inl held
  · cases call with
    | backend call =>
      cases answered
      cases call with
      | apply wanted spec generation key queue =>
        rcases accounts.apply held with same | old
        · exact .inr (by simp [Call.applies, same])
        · exact .inl old
      | ensureNamespacePosture => exact .inl (accounts.posture held)
      | terminate wanted => exact .inl (accounts.terminate held)
      | reapNetworkPolicies wanted => exact .inl (accounts.reapNetworkPolicies held)
      | suspend wanted => exact .inl (accounts.suspend held)
      | resume wanted => exact .inl (accounts.resume held)
      | observe wanted => exact .inl held
    | pool call =>
      cases answered
      cases call with
      | kueuePresent => exact .inl held
      | applyPool spec allocations => exact .inl (accounts.applyPool held)
      | deletePool name => exact .inl (accounts.deletePool held)
      | observePool name => exact .inl held
    | _ => exact absurd rfl harmless

theorem stored_when_applied
    (run : (controlPlane platform seed admits).Run (.start origin) trace config)
    (current : AppliesUnremoved id trace) (split : trace = earlier ++ step :: later)
    (applying : step.op.applies id = true) : Stored id step.before := by
  have grounds := grounded_step run split
  have sees : ∃ row, Sees (own step.thread earlier) id row := by
    unfold Call.applies at applying
    split at applying
    · next wanted spec generation key queue opEq =>
        rw [opEq] at grounds
        rcases grounds with ⟨row, sees, _⟩
        have same : wanted = id := by simpa using applying
        exact ⟨row, same ▸ sees⟩
    · cases applying
  rcases sees with ⟨row, sees⟩
  refine holds_since_reading run split sees current applying (Stored id) ?_ ?_ ?_
  · intro before after drifted stored
    rwa [Stored, drifted.find?_eq id]
  · intro inner unremoved answered stored
    exact stored_exec answered stored (ne_removeCluster unremoved)
  · intro reading _ _ found
    rw [Stored, found]
    rfl

/-- Only a row read as a tombstone is removed, so the provider still holds nothing for it. -/
theorem released_of_guard
    (run : (controlPlane platform seed admits).Run (.start origin) trace config)
    (accounts : platform.Accounts holds) (recorded : ReadsRecorded holds id trace)
    (unapplied : RemovesUnapplied id trace) :
    ∀ step ∈ trace, step.op.removes id = true → ¬holds step.before.provider id := by
  intro step stepMem removing
  rcases List.append_of_mem stepMem with ⟨earlier, later, split⟩
  have grounds := grounded_step run split
  have sees : ∃ row, Sees (own step.thread earlier) id row ∧ row.isTombstone = true := by
    unfold Call.removes at removing
    split at removing
    · next wanted opEq =>
        rw [opEq] at grounds
        exact of_decide_eq_true removing ▸ grounds
    · cases removing
  rcases sees with ⟨row, sees, dead⟩
  refine holds_since_reading run split sees unapplied removing
    (fun world => ¬holds world.provider id) ?_ ?_ ?_
  · intro before after drifted unheld
    rwa [drifted.provider]
  · intro inner spared answered unheld held
    rcases held_or_applied accounts answered held with old | applying
    · exact unheld old
    · simp [spared] at applying
  · intro reading readingMem reads found
    exact recorded reading readingMem reads row found dead

/--
Every backing cluster has a row, in every run in which rows are removed only
while the provider holds nothing for them, and not under a pass that is about to
apply them.
-/
theorem no_orphans
    (run : (controlPlane platform seed admits).Run (.start origin) trace config)
    (accounts : platform.Accounts holds) (unheld : ¬holds origin.provider id)
    (released : ∀ step ∈ trace, step.op.removes id = true → ¬holds step.before.provider id)
    (current : AppliesUnremoved id trace) :
    holds config.state.provider id → Stored id config.state := by
  refine run.preserves (fun world => holds world.provider id → Stored id world) ?_ ?_
    fun held => absurd held unheld
  · intro before after drifted backed held
    rw [drifted.provider] at held
    rw [Stored, drifted.find?_eq id]
    exact backed held
  · intro front step back split answered backed held
    have stored : Stored id step.before := by
      rcases held_or_applied accounts answered held with old | applying
      · exact backed old
      · exact stored_when_applied run current split applying
    refine stored_exec answered stored ?_
    intro removing
    have harmless : step.op.mutates = false := by rw [removing]; rfl
    rw [provider_exec answered harmless] at held
    exact released step (by simp [split]) (by simp [removing, Call.removes]) held

end Runs

def DemoClusters.holds (clusters : DemoClusters) (id : ClusterId) : Prop :=
  (clusters.find? id).isSome = true

instance (clusters : DemoClusters) (id : ClusterId) : Decidable (clusters.holds id) :=
  inferInstanceAs (Decidable (_ = true))

theorem DemoClusters.holds_of_modify {clusters : DemoClusters} {id wanted : ClusterId}
    {change : DemoCluster → DemoCluster} (keeps : ∀ cluster, (change cluster).id = cluster.id)
    (held : DemoClusters.holds (clusters.modify id change) wanted) : clusters.holds wanted := by
  rw [holds, Table.find?_modify clusters id wanted keeps] at held
  split at held
  · rwa [Option.isSome_map] at held
  · exact held

theorem accounts_forgettingPlatform : forgettingPlatform.Accounts DemoClusters.holds where
  apply := by
    intro id spec generation key queue clusters wanted held
    have inserted : ((clusters.insert ⟨id, .running, generation,
      KubeRay.ownedSpecFingerprint spec⟩).find? wanted).isSome = true := held
    rw [Table.find?_insert] at inserted
    split at inserted
    · next same => exact .inl same
    · exact .inr inserted
  posture := id
  terminate := by
    intro id clusters wanted held
    have erased : ((clusters.erase id).find? wanted).isSome = true := held
    rw [Table.find?_erase] at erased
    split at erased
    · cases erased
    · exact erased
  reapNetworkPolicies := id
  suspend := DemoClusters.holds_of_modify DemoProvisioner.suspendState_id
  resume := DemoClusters.holds_of_modify DemoProvisioner.resumeState_id
  applyPool := id
  deletePool := id

/-- A cluster goes through its whole life twice, without overlap of requests and passes. -/
def twoLives : List (Move Actor) :=
  inTurn [(.create none ⟨"c1", headOnly "p"⟩, 6), (.reconcileAll 0, 11),
    (.delete none "c1" false, 4), (.reconcileAll 0, 7), (.delete none "c1" true, 4),
    (.create none ⟨"c1", headOnly "p"⟩, 6), (.reconcileAll 0, 11)]

/-- A pass has listed the row when the cluster is deleted and purged. -/
def purgeUnderPass : List (Move Actor) :=
  [.spawn 0 (.create none ⟨"c1", headOnly "p"⟩)] ++ List.replicate 6 (.call 0) ++
    [.spawn 1 (.reconcileAll 0), .call 1, .spawn 2 (.delete none "c1" false)] ++
    List.replicate 4 (.call 2) ++ [.spawn 3 (.delete none "c1" true)] ++
    List.replicate 4 (.call 3) ++ List.replicate 10 (.call 1)

theorem no_orphans_without_overlap :
    ∃ progress, demoTraffic forgettingPlatform twoLives .empty = some progress ∧
      progress.config.state.provider.holds "c1" ∧ Stored "c1" progress.config.state := by
  have outcome : ∃ progress, demoTraffic forgettingPlatform twoLives .empty = some progress ∧
      AppliesUnremoved "c1" progress.trace ∧ RemovesUnapplied "c1" progress.trace ∧
      ReadsRecorded DemoClusters.holds "c1" progress.trace ∧
      progress.config.state.provider.holds "c1" :=
    Fallible.exists_of_checked (by decide +kernel)
  rcases outcome with ⟨progress, executed, current, unapplied, recorded, held⟩
  have run := System.execute_run (fun _ _ _ => trivial) executed
  have released := released_of_guard run accounts_forgettingPlatform recorded unapplied
  exact ⟨progress, executed, held, no_orphans run accounts_forgettingPlatform (by decide) released
    current held⟩

def hasReturned : Program Unit → Bool
  | .ret () => true
  | _ => false

/-- The only pass of the run has ended, and its cluster has no row. -/
theorem purge_under_pass_orphans :
    ∃ progress, demoTraffic forgettingPlatform purgeUnderPass .empty = some progress ∧
      (∀ step ∈ progress.trace, step.role.isPass = true → step.thread = 1) ∧
      (∃ role, progress.config.threads 1 = some ⟨role, .ret ()⟩) ∧
      progress.config.state.provider.holds "c1" ∧ ¬Stored "c1" progress.config.state := by
  have outcome : ∃ progress, demoTraffic forgettingPlatform purgeUnderPass .empty = some progress ∧
      (∀ step ∈ progress.trace, step.role.isPass = true → step.thread = 1) ∧
      (progress.config.threads 1).any (hasReturned ·.program) = true ∧
      progress.config.state.provider.holds "c1" ∧
      (progress.config.state.store.clusters.find? "c1").isNone :=
    Fallible.exists_of_checked (by decide +kernel)
  rcases outcome with ⟨progress, executed, onePass, ended, held, unstored⟩
  refine ⟨progress, executed, onePass, ?_, held, ?_⟩
  · rcases (Option.any_eq_true _ _).mp ended with ⟨⟨role, _ | _⟩, threadEq, returned⟩
    · exact ⟨role, threadEq⟩
    · cases returned
  · rw [Stored, Option.isNone_iff_eq_none.mp unstored]
    simp

end Mobula
