import Mobula.Controller.IntentKeys

/-!
# Re-creation after removal

The outbox outlives the rows it was written for, and a cluster that is created anew starts at
generation 1 again. Its keys may then still hold the parameters of the removed cluster, and its
passes are refused until those intents are reaped, which pending ones never are.
-/

namespace Mobula

open Foundation List

variable {Provider : Type}

/-- A specification is stored under a key that holds no other parameters. -/
def unclaimedKey (id : ClusterId) (call : Call) (world : World Provider) : Bool :=
  match call with
  | .row (.upsertDesired wanted spec) =>
    let generation := ClusterTable.nextGeneration (world.store.clusters.find? id) spec
    wanted ≠ id ||
      (IntentTable.fingerprintAt world.store.intents (intentKeyOf id generation)).all
        (· = paramsFingerprint spec)
  | _ => true

/-- Whether a call opens an intent of the cluster: its key is the id, a slash and digits. -/
def Call.opensIntent (id : ClusterId) : Call → Bool
  | .outbox (.beginIntent key _) => key.toList.rdropWhile Char.isDigit = id.toList ++ ['/']
  | _ => false

/-- No row is removed between the last reading of a pass and its opening of an intent for it. -/
abbrev OpensUnremoved (id : ClusterId) (trace : PlaneTrace Provider) : Prop :=
  Foundation.Undisturbed (Call.readsRow id) (Call.opensIntent id) (·.op.removes id) trace

theorem opensIntent_intentKeyOf {id : ClusterId} {generation : ℕ} {fingerprint : String} :
    (Call.outbox (.beginIntent (intentKeyOf id generation) fingerprint)).opensIntent id = true := by
  have digits : ∀ c ∈ (Nat.toDigits 10 generation).reverse, c.isDigit = true := by
    intro c digit
    exact Nat.isDigit_of_mem_toDigits (by decide) (by decide) (mem_reverse.mp digit)
  simp only [Call.opensIntent, intentKeyOf_toList, rdropWhile, reverse_append, reverse_cons,
    append_assoc, cons_append, nil_append, dropWhile_append_of_pos digits]
  simp

section Runs

variable {platform : Platform Provider} {seed : PolicyConfig} {origin : World Provider}
  {admits : PlaneConfig Provider → Actor → Prop} {trace earlier later : PlaneTrace Provider}
  {config : PlaneConfig Provider} {step : PlaneStep Provider} {id : ClusterId}
  {start : PlaneConfig Provider} {front middle back : PlaneTrace Provider}
  {reading acting : PlaneStep Provider} {row : StoredCluster}

theorem follows_since {first second : PlaneStep Provider}
    (run : (controlPlane platform seed admits).Run start
      (front ++ first :: (middle ++ second :: back)) config)
    (kept : ∀ step ∈ front ++ first :: (middle ++ second :: back),
      keepsEngineAndOwner id step.op step.before = true)
    (unremoved : ∀ step ∈ first :: middle, step.op.removes id = false) :
    Follows id first.before second.before := by
  rcases run.window with ⟨begun, reached, window, begunEq, reachedEq⟩
  rw [← begunEq, ← reachedEq]
  refine window.preserves (Follows id begun.state) ?_ ?_ (.of_find? rfl)
  · intro before after drifted follows
    exact follows.trans (.of_find? (drifted.find?_eq id))
  · intro before inner after split answered follows
    have innerMem : inner ∈ first :: middle := by simp [split]
    refine follows.trans (follows_exec answered (kept inner ?_)
      (ne_removeCluster (unremoved inner innerMem)))
    simp at innerMem ⊢
    tauto

theorem spec_eq_of_readings {other : PlaneStep Provider} {row' : StoredCluster}
    {before after : PlaneTrace Provider}
    (run : (controlPlane platform seed admits).Run start
      (front ++ reading :: (middle ++ acting :: back)) config)
    (kept : ∀ step ∈ front ++ reading :: (middle ++ acting :: back),
      keepsEngineAndOwner id step.op step.before = true)
    (unremoved : ∀ step ∈ reading :: middle, step.op.removes id = false)
    (otherSplit : front ++ reading :: middle = before ++ other :: after)
    (otherUnremoved : ∀ step ∈ other :: after, step.op.removes id = false)
    (found : reading.before.store.clusters.find? id = some row)
    (found' : other.before.store.clusters.find? id = some row')
    (sameGeneration : row.generation = row'.generation) : row.spec = row'.spec := by
  rcases append_eq_append_iff.mp otherSplit with
    ⟨_ | ⟨_, between⟩, rfl, rest⟩ | ⟨_ | ⟨_, between⟩, rfl, rest⟩ <;>
    simp only [nil_append, cons_append, cons.injEq] at rest <;>
    rcases rest with ⟨rfl, rfl⟩
  · simp [found] at found'
    rw [found']
  · rw [append_assoc, cons_append] at run kept
    refine (follows_since run kept ?_).spec_eq found found' sameGeneration
    intro step stepMem
    exact unremoved step (mem_append_left (_ :: _) stepMem)
  · simp [found] at found'
    rw [found']
  · rw [append_assoc, cons_append] at run kept
    refine ((follows_since run kept ?_).spec_eq found' found sameGeneration.symm).symm
    intro step stepMem
    exact otherUnremoved step (mem_append_left (_ :: _) stepMem)

theorem read_when_begun (run : (controlPlane platform seed admits).Run (.start origin) trace config)
    (current : OpensUnremoved id trace) (split : trace = earlier ++ step :: later)
    {generation : ℕ} {fingerprint : String}
    (beginning : step.op = .outbox (.beginIntent (intentKeyOf id generation) fingerprint)) :
    ∃ before reading after row, earlier = before ++ reading :: after ∧
      reading.before.store.clusters.find? id = some row ∧ reading.after = reading.before ∧
      row.generation = generation ∧ row.intentKey = intentKeyOf id generation ∧
      fingerprint = paramsFingerprint row.spec ∧
      ∀ inner ∈ reading :: after, inner.op.removes id = false := by
  rcases stored_when_begun run split beginning with
    ⟨before, reading, after, row, rfl, mine, reads, last, found, same, keyEq, fingerprintEq⟩
  rcases intentKeyOf_injective keyEq with ⟨rowId, rowGeneration⟩
  rw [← rowId] at found reads last
  refine ⟨before, reading, after, row, rfl, found, same, rowGeneration.symm, keyEq.symm,
    fingerprintEq, forall_mem_cons.mpr ⟨not_removes_of_readsRow reads, ?_⟩⟩
  subst split
  rw [append_assoc, cons_append] at current
  exact current.window mine reads last (by rw [beginning, opensIntent_intentKeyOf])

variable (run : (controlPlane platform seed admits).Run (.start origin) trace config)
  (agreed : ∀ row, origin.store.clusters.find? id = some row → Agrees row origin)
  (kept : ∀ step ∈ trace, keepsEngineAndOwner id step.op step.before = true)
  (unclaimed : ∀ step ∈ trace, unclaimedKey id step.op step.before = true)
  (current : OpensUnremoved id trace)

include run agreed kept unclaimed current

/-- In every state reached, the outbox holds nothing against the stored row. -/
theorem agrees_of_run (found : config.state.store.clusters.find? id = some row) :
    Agrees row config.state := by
  revert row
  refine run.preserves (fun world => ∀ {row : StoredCluster},
    world.store.clusters.find? id = some row → Agrees row world) ?_ ?_ (agreed _)
  · intro before after drifted agrees row found recorded held
    rw [drifted.find?_eq id] at found
    rw [drifted.intents] at held
    exact agrees found recorded held
  · intro front step back split answered agrees row found
    have stepMem : step ∈ trace := by simp [split]
    rcases posted_or_kept answered found with ⟨spec, posting, rfl⟩ | ⟨previous, stored, gen, same⟩
    · intro recorded held
      have claim := unclaimed step stepMem
      rw [intents_exec answered] at held
      rw [posting] at held claim
      have recordedBefore : IntentTable.fingerprintAt step.before.store.intents
        (intentKeyOf id (ClusterTable.nextGeneration (step.before.store.clusters.find? id) spec)) =
          some recorded := held
      simpa [unclaimedKey, recordedBefore] using claim
    · have rowId : row.id = id := Table.key_of_find? found
      have previousId : previous.id = id := Table.key_of_find? stored
      have sameKey : row.intentKey = previous.intentKey := by
        rw [StoredCluster.intentKey, StoredCluster.intentKey, rowId, previousId, gen]
      have agreesBefore : Agrees row step.before := by
        intro recorded held
        rw [sameKey] at held
        rw [← same]
        exact agrees stored recorded held
      refine agreesBefore.exec answered ?_
      intro fingerprint beginning
      have key : row.intentKey = intentKeyOf id row.generation := by
        rw [StoredCluster.intentKey, rowId]
      rw [key] at beginning
      rcases read_when_begun run current split beginning with
        ⟨_, reading, _, seen, rfl, foundSeen, _, seenGeneration, _, fingerprintEq, unremoved⟩
      subst split
      rw [append_assoc, cons_append] at run kept
      have follows := follows_since run kept unremoved
      rw [fingerprintEq, follows.spec_eq foundSeen stored (seenGeneration.trans gen.symm), same]

theorem agrees_since_reading (split : trace = front ++ reading :: (middle ++ acting :: back))
    (unremoved : ∀ step ∈ reading :: middle, step.op.removes id = false)
    (found : reading.before.store.clusters.find? id = some row)
    (sameState : reading.after = reading.before) : Agrees row acting.before := by
  subst split
  refine run.between (Agrees row) ?_ ?_ ?_
  · intro before after drifted agrees recorded held
    rw [drifted.intents] at held
    exact agrees recorded held
  · intro before inner after window answered agrees
    subst window
    rw [append_assoc, cons_append] at run kept current
    refine agrees.exec answered ?_
    intro fingerprint beginning
    have key : row.intentKey = intentKeyOf id row.generation := by
      rw [StoredCluster.intentKey, Table.key_of_find? found]
    rw [key] at beginning
    have split : front ++ reading :: (before ++ inner :: (after ++ acting :: back)) =
        (front ++ reading :: before) ++ inner :: (after ++ acting :: back) := by simp
    rcases read_when_begun run current split beginning with
      ⟨_, other, _, seen, otherSplit, foundSeen, _, seenGeneration, _, fingerprintEq,
        otherUnremoved⟩
    rw [fingerprintEq, spec_eq_of_readings run kept ?_ otherSplit otherUnremoved found foundSeen
      seenGeneration.symm]
    intro step stepMem
    apply unremoved
    rw [← cons_append]
    exact mem_append_left _ stepMem
  · rw [sameState]
    rcases run.at_step rfl with ⟨prior, _, reached, priorEq, _, _, _⟩
    rw [← priorEq] at found ⊢
    exact agrees_of_run reached agreed (fun step stepMem => kept step (by simp [stepMem]))
      (fun step stepMem => unclaimed step (by simp [stepMem]))
      current.of_append found

/--
While engine and owner are kept under a generation, every specification is
stored under a key that holds no other parameters, and no pass opens an intent
for a removed row, no intent of the cluster is refused.
-/
theorem recreation_actuated :
    ∀ step ∈ trace, ∀ generation,
      refusedKey ⟨step.op, step.answer⟩ ≠ some (intentKeyOf id generation) := by
  intro step stepMem generation refused
  rcases recorded_of_refused run stepMem refused with
    ⟨fingerprint, recorded, begun, held, differs⟩
  rcases append_of_mem stepMem with ⟨earlier, later, split⟩
  rcases read_when_begun run current split begun with
    ⟨front, reading, middle, row, rfl, found, sameState, rowGeneration, keyEq, fingerprintEq,
      unremoved⟩
  rw [append_assoc, cons_append] at split
  have agrees :=
    agrees_since_reading run agreed kept unclaimed current split unremoved found sameState
  rw [← keyEq] at held
  exact differs ((agrees recorded held).trans fingerprintEq.symm)

end Runs

def otherImage : ClusterSpec :=
  { headOnly "p" with image := "rayproject/ray:nightly" }

/-- A cluster is created, deleted and purged; then something happens before it is created anew. -/
def recreatedAfter (meanwhile : List (Actor × ℕ)) (calls : ℕ) : List (Move Actor) :=
  inTurn ([(.create none ⟨"c1", headOnly "p"⟩, 6), (.reconcileAll 0, 11),
    (.delete none "c1" false, 4), (.reconcileAll 0, 7), (.delete none "c1" true, 4)] ++ meanwhile ++
    [(.create none ⟨"c1", otherImage⟩, 6), (.reconcileAll 0, calls)])

def afterRecreation (meanwhile : List (Actor × ℕ)) (calls : ℕ) :
    Option (Progress Call.Res (World DemoClusters) Actor) :=
  demoTraffic forgettingPlatform (recreatedAfter meanwhile calls) .empty

/-- Once the old intent is reaped, the new cluster is actuated. -/
theorem recreation_actuated_after_reaping :
    ∃ progress, afterRecreation [(.reapIntents 100, 1)] 11 = some progress ∧
      ∀ step ∈ progress.trace, ∀ generation,
        refusedKey ⟨step.op, step.answer⟩ ≠ some (intentKeyOf "c1" generation) := by
  have outcome : ∃ progress, afterRecreation [(.reapIntents 100, 1)] 11 = some progress ∧
      OpensUnremoved "c1" progress.trace ∧
      (∀ step ∈ progress.trace, keepsEngineAndOwner "c1" step.op step.before = true) ∧
      ∀ step ∈ progress.trace, unclaimedKey "c1" step.op step.before = true :=
    Fallible.exists_of_checked (by decide +kernel)
  rcases outcome with ⟨progress, executed, unremoved, kept, unclaimed⟩
  have run := System.execute_run (fun _ _ _ => trivial) executed
  refine ⟨progress, executed, recreation_actuated run ?_ kept unclaimed unremoved⟩
  intro row found
  cases found

/--
Without reaping, the pass that finds no backing cluster for the new row is
refused, although engine and owner are the same in both specifications.
-/
theorem recreation_refused :
    otherImage.engine = (headOnly "p").engine ∧ otherImage.owner = (headOnly "p").owner ∧
    ∃ progress, afterRecreation [] 6 = some progress ∧
      ∃ step ∈ progress.trace, refusedKey ⟨step.op, step.answer⟩ = some (intentKeyOf "c1" 1) ∧
        forgettingPlatform.observe "c1" step.before.provider = .error (.notFound "c1") := by
  refine ⟨rfl, rfl, ?_⟩
  apply Fallible.exists_of_checked
  decide +kernel

end Mobula
