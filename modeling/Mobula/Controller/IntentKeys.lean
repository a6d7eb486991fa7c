import Mobula.Grounds

/-!
# One intent key, one actuation

The outbox assumes that a cluster id and a generation determine what is actuated. A posted
specification keeps the generation when it agrees with the stored one on the compared fields.
The engine and the owner are not compared, although they are part of the fingerprint and of the
manifests.
-/

namespace Mobula

open Foundation List IntentTable ClusterTable

variable {first second : ClusterSpec} {id : ClusterId} {generation : ℕ}

theorem eq_of_not_specChanged (unchanged : specChanged first second = false) :
    second = { first with engine := second.engine, owner := second.owner } := by
  have groupsEq : ∀ (left right : List WorkerGroup), left.length = right.length →
      ((left.zip right).any fun pair => groupChanged pair.1 pair.2) = false → right = left := by
    intro left
    induction left with
    | nil =>
      intro right sameLength _
      exact (length_eq_zero_iff.mp sameLength.symm)
    | cons group groups ih =>
      rintro (_ | ⟨other, others⟩) sameLength same
      · cases sameLength
      simp only [zip_cons_cons, any_cons, Bool.or_eq_false_iff] at same
      simp only [length_cons, Nat.add_right_cancel_iff] at sameLength
      have headEq : other = group := by
        cases group
        cases other
        simp only [groupChanged, Bool.or_eq_false_iff, bne_eq_false_iff_eq] at same
        simp [same.1]
      rw [headEq, ih others sameLength same.2]
  cases first
  cases second
  simp only [specChanged, Bool.or_eq_false_iff, bne_eq_false_iff_eq] at unchanged
  have workers := groupsEq _ _ unchanged.1.2 unchanged.2
  simp [unchanged.1, workers]

theorem engine_owner_of_paramsFingerprint
    (same : paramsFingerprint first = paramsFingerprint second) :
    first.engine = second.engine ∧ first.owner = second.owner := by
  have values := Json.compress_injective same
  simp [ClusterSpec.toJson, Json.obj.injEq] at values
  exact ⟨Engine.asStr_injective values.2.2.1, Json.option_str_inj.mp (by tauto)⟩

/-- The same parameters, and the same manifest for every id, generation and queue. -/
def SameActuation (first second : ClusterSpec) : Prop :=
  paramsFingerprint first = paramsFingerprint second ∧
    ∀ id autoscaling generation queue,
      renderManifest id first autoscaling generation queue =
        renderManifest id second autoscaling generation queue

/-- A specification that keeps the generation is actuated alike iff engine and owner are kept. -/
theorem sameActuation_iff (unchanged : specChanged first second = false) :
    SameActuation first second ↔ first.engine = second.engine ∧ first.owner = second.owner := by
  constructor
  · intro same
    exact engine_owner_of_paramsFingerprint same.1
  · rintro ⟨engine, owner⟩
    have specEq : second = first := by
      rw [eq_of_not_specChanged unchanged, ← engine, ← owner]
    rw [specEq]
    exact ⟨rfl, fun _ _ _ _ => rfl⟩

theorem eq_of_append_separator {first second rest rest' : List Char} {separator : Char}
    (firstFree : separator ∉ first) (secondFree : separator ∉ second)
    (same : first ++ separator :: rest = second ++ separator :: rest') :
    first = second ∧ rest = rest' := by
  induction first generalizing second with
  | nil =>
    rcases second with _ | ⟨c, second⟩
    · simpa using same
    simp at same
    simp [same.1] at secondFree
  | cons c first ih =>
    cases second with
    | nil =>
      simp at same
      simp [same.1] at firstFree
    | cons d second =>
      simp at same
      simp [not_or] at firstFree secondFree
      rcases ih firstFree.2 secondFree.2 same.2 with ⟨firstEq, restEq⟩
      exact ⟨by rw [same.1, firstEq], restEq⟩

theorem slash_notMem_toDigits {n : ℕ} : '/' ∉ Nat.toDigits 10 n := by
  intro slash
  have isDigit : '/'.isDigit = true := Nat.isDigit_of_mem_toDigits (by decide) (by decide) slash
  exact absurd isDigit (by decide)

theorem intentKeyOf_toList :
    (intentKeyOf id generation).toList = id.toList ++ '/' :: Nat.toDigits 10 generation := by
  simp [intentKeyOf]

/-- A key names one generation of one cluster, whatever characters the id contains. -/
theorem intentKeyOf_injective {id' : ClusterId} {generation' : ℕ}
    (same : intentKeyOf id generation = intentKeyOf id' generation') :
    id = id' ∧ generation = generation' := by
  have chars := congrArg (fun key : String => key.toList.reverse) same
  simp [intentKeyOf_toList] at chars
  rcases eq_of_append_separator (by simpa using slash_notMem_toDigits)
    (by simpa using slash_notMem_toDigits) chars with ⟨digits, ids⟩
  refine ⟨String.toList_injective (reverse_injective ids), ?_⟩
  apply Numeral.ofNat_injective
  exact Numeral.ext (reverse_injective digits)

variable {Provider : Type}

/-- The row under an id moves to later generations only, each of them with one specification. -/
def Follows (id : ClusterId) (before after : World Provider) : Prop :=
  ∀ row, before.store.clusters.find? id = some row →
    ∃ row', after.store.clusters.find? id = some row' ∧ row.generation ≤ row'.generation ∧
      (row.generation = row'.generation → row.spec = row'.spec)

namespace Follows

variable {id : ClusterId} {first second third : World Provider}

theorem of_find? (same : second.store.clusters.find? id = first.store.clusters.find? id) :
    Follows id first second := by
  intro row found
  exact ⟨row, same.trans found, le_refl _, fun _ => rfl⟩

theorem trans (early : Follows id first second) (late : Follows id second third) :
    Follows id first third := by
  intro row found
  rcases early row found with ⟨middle, middleFound, middleLe, middleSame⟩
  rcases late middle middleFound with ⟨last, lastFound, lastLe, lastSame⟩
  refine ⟨last, lastFound, le_trans middleLe lastLe, ?_⟩
  intro same
  exact (middleSame (by omega)).trans (lastSame (by omega))

theorem spec_eq {row row' : StoredCluster} (follows : Follows id first second)
    (found : first.store.clusters.find? id = some row)
    (found' : second.store.clusters.find? id = some row')
    (sameGeneration : row.generation = row'.generation) : row.spec = row'.spec := by
  rcases follows row found with ⟨_, foundLater, _, same⟩
  simp [found'] at foundLater
  subst foundLater
  exact same sameGeneration

end Follows

/-- An upsert that keeps the generation keeps engine and owner as well. -/
def keepsEngineAndOwner (id : ClusterId) (call : Call) (world : World Provider) : Bool :=
  match call with
  | .row (.upsertDesired wanted spec) =>
    wanted ≠ id || (world.store.clusters.find? id).all fun row =>
      specChanged row.spec spec || row.spec.engine = spec.engine && row.spec.owner = spec.owner
  | _ => true

variable {call : Call}

theorem follows_exec {platform : Platform Provider} {thread : ℕ} {before after : World Provider}
    {answer : call.Res} (answered : exec platform thread call before = some (answer, after))
    (kept : keepsEngineAndOwner id call before = true) (stays : call ≠ .row (.removeCluster id)) :
    Follows id before after := by
  intro previous stored
  have stillStored := stored_exec answered (by rw [stored]; rfl) stays
  rcases Option.isSome_iff_exists.mp stillStored with ⟨row, found⟩
  refine ⟨row, found, ?_⟩
  rcases posted_or_kept answered found with ⟨spec, rfl, rfl⟩ | ⟨same, sameStored, gen, specEq⟩
  · cases changed : specChanged previous.spec spec with
    | true =>
      have bumped : previous.generation <
          (upsertedRow (before.store.clusters.find? id) id spec
            before.now).generation := by
        simp [upsertedRow, nextGeneration, stored, changed]
      exact ⟨le_of_lt bumped, fun unbumped => absurd unbumped (ne_of_lt bumped)⟩
    | false =>
      have agree : previous.spec.engine = spec.engine ∧ previous.spec.owner = spec.owner := by
        simpa [keepsEngineAndOwner, stored, changed] using kept
      have specSame : previous.spec = spec := by
        rw [eq_of_not_specChanged changed, ← agree.1, ← agree.2]
      refine ⟨?_, fun _ => specSame⟩
      simp [upsertedRow, nextGeneration, stored, changed]
  · simp [stored] at sameStored
    subst sameStored
    exact ⟨le_of_eq gen, fun _ => specEq⟩

def intentTraffic : Actor → Bool
  | .delete _ _ purge => !purge
  | .reapTerminated _ _ => false
  | .tick _ => false
  | _ => true

/-- The control plane without what removes rows. -/
abbrev intentSystem (platform : Platform Provider) (seed : PolicyConfig) :
    System Call.Res (World Provider) Actor :=
  controlPlane platform seed fun _ actor => intentTraffic actor = true

theorem passive_ne_removeCluster (passive : call.passive = true) :
    call ≠ .row (.removeCluster id) := by
  rintro rfl
  cases passive

theorem not_removeCluster_of_calls {seed : PolicyConfig} {actor : Actor}
    (made : actor.calls seed call) (admitted : intentTraffic actor = true) :
    call ≠ .row (.removeCluster id) := by
  rintro rfl
  cases actor with
  | delete identity wanted purge =>
    cases made with
    | passive passive => exact passive_ne_removeCluster passive rfl
    | remove purging => simp [intentTraffic, purging] at admitted
  | reapTerminated now retention => cases admitted
  | tick retention => cases admitted
  | reapIntents appliedBefore => cases made
  | reconcileAll now =>
    cases made with
    | passive passive => exact passive_ne_removeCluster passive rfl
    | reconcile row made =>
      cases made with
      | passive passive => exact passive_ne_removeCluster passive rfl
  | _ =>
    cases made with
    | passive passive => exact passive_ne_removeCluster passive rfl

theorem recorded_of_paramMismatch {intents : IntentTable} {key fingerprint : String} {now : ℕ}
    (refused : (beginIntent intents key fingerprint now).1 = .paramMismatch) :
    ∃ recorded, fingerprintAt intents key = some recorded ∧ recorded ≠ fingerprint := by
  unfold beginIntent at refused
  rcases found : intents.find? key with _ | existing
  · simp [found] at refused
  refine ⟨existing.paramsFingerprint, by simp [fingerprintAt, found], ?_⟩
  intro same
  simp [found, same] at refused

section Runs

variable {platform : Platform Provider} {seed : PolicyConfig} {origin : World Provider}
  {admits : PlaneConfig Provider → Actor → Prop}
  {trace earlier later : PlaneTrace Provider}
  {config : PlaneConfig Provider} {step : PlaneStep Provider}
  {id : ClusterId}

section

variable (run : (controlPlane platform seed admits).Run (.start origin) trace config)

include run

/-- Whatever the outbox holds was there at the start or was opened during the run. -/
theorem intent_opened {key fingerprint : String}
    (held : fingerprintAt config.state.store.intents key = some fingerprint) :
    fingerprintAt origin.store.intents key = some fingerprint ∨
      ∃ step ∈ trace, step.op = .outbox (.beginIntent key fingerprint) := by
  revert held
  refine run.preserves (fun world =>
    fingerprintAt world.store.intents key = some fingerprint → _) ?_ ?_ .inl
  · intro before after drifted known held
    rw [drifted.intents] at held
    exact known held
  · intro front inner back split answered known held
    rw [intents_exec answered] at held
    rcases fingerprintAt_intentsAfter held with old | opened
    · exact known old
    · exact .inr ⟨inner, by simp [split], opened⟩

theorem stored_when_begun (split : trace = earlier ++ step :: later) {key fingerprint : String}
    (beginning : step.op = .outbox (.beginIntent key fingerprint)) :
    ∃ front reading middle row, earlier = front ++ reading :: middle ∧
      reading.thread = step.thread ∧ reading.op.readsRow row.id = true ∧
      (∀ event ∈ own step.thread middle, event.op.readsRow row.id = false) ∧
      reading.before.store.clusters.find? row.id = some row ∧ reading.after = reading.before ∧
      key = row.intentKey ∧ fingerprint = paramsFingerprint row.spec := by
  have grounds := grounded_step run split
  rw [beginning] at grounds
  rcases grounds with ⟨row, sees, keyEq, fingerprintEq⟩
  rcases stored_of_sees run split sees with
    ⟨front, reading, middle, read, mine, reads, last, found, same⟩
  exact ⟨front, reading, middle, row, read, mine, reads, last, found, same, keyEq, fingerprintEq⟩

/-- The key under which a call was refused for its parameters. -/
def refusedKey : Event Call.Res → Option String
  | ⟨.outbox (.beginIntent key _), .ok .paramMismatch⟩ => some key
  | _ => none

theorem recorded_of_refused (stepMem : step ∈ trace) {key : String}
    (refused : refusedKey ⟨step.op, step.answer⟩ = some key) :
    ∃ fingerprint recorded, step.op = .outbox (.beginIntent key fingerprint) ∧
      fingerprintAt step.before.store.intents key = some recorded ∧
      recorded ≠ fingerprint := by
  have answered := run.exec_of_mem stepMem
  rcases step with ⟨thread, role, before, call, answer, after⟩
  unfold refusedKey at refused
  split at refused
  · next refusedEvent _ fingerprint eventEq =>
      cases eventEq
      cases refused
      simp [controlPlane, exec, execOutbox] at answered
      rcases recorded_of_paramMismatch answered.1 with ⟨recorded, held, differs⟩
      exact ⟨fingerprint, recorded, rfl, held, differs⟩
  · cases refused

end

/-- While the row is not removed, a generation is stored with one specification. -/
theorem spec_eq_of_generation_eq {start : PlaneConfig Provider}
    (run : (controlPlane platform seed admits).Run start trace config)
    (kept : ∀ step ∈ trace, keepsEngineAndOwner id step.op step.before = true)
    (unremoved : ∀ step ∈ trace, step.op ≠ .row (.removeCluster id))
    {first second : PlaneStep Provider} {row row' : StoredCluster}
    (firstMem : first ∈ trace) (secondMem : second ∈ trace)
    (found : first.before.store.clusters.find? id = some row)
    (found' : second.before.store.clusters.find? id = some row')
    (sameGeneration : row.generation = row'.generation) : row.spec = row'.spec := by
  have ordered := run.comparable (Follows id) (fun _ => .of_find? rfl) Follows.trans
    (fun _ _ drifted => .of_find? (drifted.find?_eq id))
    (fun inner innerMem => follows_exec (run.exec_of_mem innerMem) (kept inner innerMem)
      (unremoved inner innerMem)) firstMem secondMem
  rcases ordered with forward | backward
  · exact forward.spec_eq found found' sameGeneration
  · exact (backward.spec_eq found' found sameGeneration.symm).symm

theorem not_removed_of_step (run : (intentSystem platform seed).Run (.start origin) trace config)
    (stepMem : step ∈ trace) : step.op ≠ .row (.removeCluster id) := by
  rcases append_of_mem stepMem with ⟨front, back, split⟩
  refine run.permitted_step (fun _ call => call ≠ .row (.removeCluster id)) ?_ split
  intro _ actor admitted
  exact (actor.program_calls seed).mono fun call made => not_removeCluster_of_calls made admitted

/--
Engine and owner decide whether a specification that keeps the generation is
actuated alike. As long as no upsert that keeps the generation of a row changes
them, no intent of that row is ever refused for its parameters.
-/
theorem one_key_one_actuation
    (run : (intentSystem platform seed).Run (.start origin) trace config)
    (unopened : ∀ generation,
      IntentTable.fingerprintAt origin.store.intents (intentKeyOf id generation) = none)
    (kept : ∀ step ∈ trace, keepsEngineAndOwner id step.op step.before = true) :
    (∀ first second, specChanged first second = false →
      (SameActuation first second ↔
        first.engine = second.engine ∧ first.owner = second.owner)) ∧
    ∀ step ∈ trace, ∀ generation,
      refusedKey ⟨step.op, step.answer⟩ ≠ some (intentKeyOf id generation) := by
  refine ⟨fun _ _ => sameActuation_iff, ?_⟩
  intro step stepMem generation refused
  rcases recorded_of_refused run stepMem refused with
    ⟨fingerprint, recorded, begun, held, differs⟩
  rcases append_of_mem stepMem with ⟨front, back, split⟩
  rcases run.at_step split with ⟨prior, _, reached, stateEq, _, _, _⟩
  rw [← stateEq] at held
  rcases intent_opened reached held with atStart | ⟨opening, openingMem, opened⟩
  · rw [unopened generation] at atStart
    cases atStart
  · rcases append_of_mem openingMem with ⟨front', back', split'⟩
    have splitOpening : trace = front' ++ opening :: (back' ++ step :: back) := by
      simp [split, split']
    rcases stored_when_begun run split begun with
      ⟨_, listing, _, row, rfl, _, _, _, found, _, keyEq, fingerprintEq⟩
    rcases stored_when_begun run splitOpening opened with
      ⟨_, listing', _, row', rfl, _, _, _, found', _, keyEq', fingerprintEq'⟩
    rcases intentKeyOf_injective keyEq with ⟨rowId, rowGeneration⟩
    rcases intentKeyOf_injective keyEq' with ⟨rowId', rowGeneration'⟩
    rw [← rowId] at found
    rw [← rowId'] at found'
    have sameSpec := spec_eq_of_generation_eq run kept (fun _ => not_removed_of_step run)
      (by simp [split]) (by simp [splitOpening]) found found'
      (rowGeneration.symm.trans rowGeneration')
    exact differs (by rw [fingerprintEq, fingerprintEq', sameSpec])

end Runs

def unavailablePlatform : Platform DemoClusters :=
  { demoPlatform with
    apply := fun _ _ _ _ _ clusters => (.error (.backend "unavailable"), clusters) }

def operatorNamed (name : String) : Identity :=
  ⟨name, none, [.operator], []⟩

def repostedBy (first second : String) : List (Move Actor) :=
  inTurn [(.create (some (operatorNamed first)) ⟨"c1", headOnly "p"⟩, 6), (.reconcileAll 0, 8),
    (.create (some (operatorNamed second)) ⟨"c1", headOnly "p"⟩, 6), (.reconcileAll 0, 6)]

def afterReposting (first second : String) :
    Option (Progress Call.Res (World DemoClusters) Actor) :=
  (intentSystem unavailablePlatform noPolicy).execute intentTraffic
    (repostedBy first second) (demoWorld .empty)

/-- The retry of the owner's own request is not refused. -/
theorem one_key_one_actuation_for_one_owner :
    ∃ progress, afterReposting "alice" "alice" = some progress ∧
      ∀ step ∈ progress.trace, ∀ generation,
        refusedKey ⟨step.op, step.answer⟩ ≠ some (intentKeyOf "c1" generation) := by
  have outcome : ∃ progress, afterReposting "alice" "alice" = some progress ∧
      ∀ step ∈ progress.trace, keepsEngineAndOwner "c1" step.op step.before = true :=
    Fallible.exists_of_checked (by decide +kernel)
  rcases outcome with ⟨progress, executed, kept⟩
  have run := System.execute_run (fun _ _ permitted => permitted) executed
  exact ⟨progress, executed, (one_key_one_actuation run (fun _ => rfl) kept).2⟩

/-- Another owner keeps the generation but is refused under its key. -/
theorem change_of_owner_refused :
    (let posted owner := { headOnly "p" with owner := some owner }
     specChanged (posted "alice") (posted "bob") = false ∧
       ¬ SameActuation (posted "alice") (posted "bob")) ∧
    ∃ progress, afterReposting "alice" "bob" = some progress ∧ ∃ step ∈ progress.trace,
        refusedKey ⟨step.op, step.answer⟩ = some (intentKeyOf "c1" 1) := by
  refine ⟨⟨by decide +kernel, ?_⟩, ?_⟩
  · intro same
    have owners := (engine_owner_of_paramsFingerprint same.1).2
    simp at owners
  · apply Fallible.exists_of_checked
    decide +kernel

end Mobula
