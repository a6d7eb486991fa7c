import Mobula.Controller.PoolTruth

/-!
# Pools that are torn down

The loop keeps in memory the names of the pools whose passes ended well, and deletes the objects
of those that are no longer stored. A pass that fails after it called the provider leaves the
name out, and the objects of the pool are never deleted once the pool is removed.
-/

namespace Mobula

open Foundation Option Prog Prod

variable {Provider : Type}

/-- A store that can fail to complete an intent. -/
structure FailingStore (Provider : Type) where
  world : World Provider
  failsCompletion : Bool

def execFailing (platform : Platform Provider) (thread : ℕ) (call : Call)
    (failing : FailingStore Provider) : Option (call.Res × FailingStore Provider) :=
  match call with
  | .outbox (.completeIntent key response) =>
    if failing.failsCompletion then
      some (.error ⟨"injected complete_intent failure"⟩, failing)
    else
      (exec platform thread (.outbox (.completeIntent key response)) failing.world).map
        fun after => (after.1, { failing with world := after.2 })
  | call =>
    (exec platform thread call failing.world).map
      fun after => (after.1, { failing with world := after.2 })

def LoopAlone (before seen : FailingStore Provider) : Prop :=
  seen.world.converged = before.world.converged

variable {thread : ℕ} {call : Call} {answer : call.Res} {name : String}
  {past events : EventLog}

section Calls

variable {platform : Platform Provider} {failing after : FailingStore Provider}

theorem world_of_execFailing
    (answered : execFailing platform thread call failing = some (answer, after)) :
    (∃ key response, call = .outbox (.completeIntent key response)) ∧ after = failing ∨
      exec platform thread call failing.world = some (answer, after.world) := by
  unfold execFailing at answered
  split at answered
  · next key response =>
      split at answered
      · rw [some.injEq, mk.injEq] at answered
        exact .inl ⟨⟨key, response, rfl⟩, answered.2.symm⟩
      · rw [map_eq_some_iff] at answered
        rcases answered with ⟨⟨given, world⟩, executed, same⟩
        rw [mk.injEq] at same
        rw [executed, ← same.1, ← same.2]
        exact .inr rfl
  · rw [map_eq_some_iff] at answered
    rcases answered with ⟨⟨given, world⟩, executed, same⟩
    rw [mk.injEq] at same
    rw [executed, ← same.1, ← same.2]
    exact .inr rfl

end Calls

/-- What the store and the provider have answered about the pool of a name. -/
structure PoolAnswers (name : String) where
  /-- The row of the name in the last listing. -/
  listed : Option StoredPool
  named : ∀ pool, listed = some pool → pool.name = name
  /-- The allocations that were read last. -/
  allocations : List AllocationSpec
  /-- The last apply was one of the listed spec, and succeeded. -/
  applied : Bool
  /-- Since its objects were last deleted, a pass over the pool ended well. -/
  endedWell : Bool

namespace PoolAnswers

def start (name : String) : PoolAnswers name := ⟨none, by simp, [], false, false⟩

/-- The key and the fingerprint of the intent that stands for what was read. -/
def intent (weightText : ℚ → Numeral) (answers : PoolAnswers name) : Option (String × String) :=
  answers.listed.map fun pool =>
    let fingerprint := desiredFingerprint weightText pool.spec answers.allocations
    (poolIntentKey pool fingerprint, fingerprint)

/-- A pass ends well that finds its intent applied, or whose apply and completion succeed. -/
def note (weightText : ℚ → Numeral) (answers : PoolAnswers name) :
    Event Call.Res → PoolAnswers name
  | ⟨.control .listPools, .ok pools⟩ =>
    { answers with
      listed := pools.find? fun pool => pool.name == name
      named := fun _ found => by simpa using List.find?_some found }
  | ⟨.control (.listAllocations pool), .ok allocations⟩ =>
    if pool = name then { answers with allocations := allocations } else answers
  | ⟨.outbox (.getIntent key), .ok (some record)⟩ =>
    { answers with
      endedWell := answers.endedWell || record.status = .applied &&
        answers.intent weightText = some (key, record.paramsFingerprint) }
  | ⟨.pool (.applyPool spec _), answer⟩ =>
    { answers with applied := answer.isOk && answers.listed.any (·.spec = spec) }
  | ⟨.outbox (.completeIntent key _), .ok ()⟩ =>
    { answers with
      endedWell := answers.endedWell ||
        answers.applied && (answers.intent weightText).any (·.1 = key) }
  | ⟨.pool (.deletePool deleted), .ok ()⟩ =>
    { answers with endedWell := answers.endedWell && deleted ≠ name }
  | _ => answers

end PoolAnswers

variable {weightText : ℚ → Numeral}

def answersOf (weightText : ℚ → Numeral) (name : String) (past : EventLog) : PoolAnswers name :=
  past.foldl (·.note weightText) (.start name)

/--
Since the objects of the pool were last deleted, a pass over it found the applied
intent, or had its apply and its completion succeed.
-/
def EndedWell (weightText : ℚ → Numeral) (name : String) (past : EventLog) : Prop :=
  (answersOf weightText name past).endedWell = true

/-- The provider was asked to apply the pool, and not to delete it since. -/
def Outstanding (name : String) (past : EventLog) : Prop :=
  ∃ spec allocations, latest (poolMark name) past = some (.applied spec allocations)

/-- The memory of the loop agrees with what it was answered, and more is known of the answers. -/
structure Remembers (weightText : ℚ → Numeral) (name : String) (told : PoolAnswers name → Prop)
    (past : EventLog) (failing : FailingStore Provider) : Prop where
  distinct : failing.world.converged.Nodup
  known : name ∈ failing.world.converged ↔ EndedWell weightText name past
  told : told (answersOf weightText name past)

abbrev Recalls (weightText : ℚ → Numeral) (name : String) :
    Assertion Call.Res (FailingStore Provider) :=
  Remembers weightText name fun _ => True

/-- With its memory to itself, the program keeps it in step with the answers. -/
abbrev Retains (platform : Platform Provider) (thread : ℕ) (weightText : ℚ → Numeral)
    (name : String) (told : PoolAnswers name → Prop) {α : Type} (program : Program α) : Prop :=
  program.Ensures (execFailing platform thread) LoopAlone (Remembers weightText name told)
    fun _ => Remembers weightText name told

theorem answersOf_snoc {event : Event Call.Res} :
    answersOf weightText name (past ++ [event]) =
      (answersOf weightText name past).note weightText event := by
  simp [answersOf]

/-- What a call makes of the names that the loop keeps in memory. -/
def memoryAfter (names : List String) : Call → List String
  | .process (.convergedInsert name) => names.insert name
  | .process (.convergedRemove name) => names.erase name
  | _ => names

theorem nodup_memoryAfter {names : List String} (distinct : names.Nodup) :
    (memoryAfter names call).Nodup := by
  unfold memoryAfter
  split
  · exact distinct.insert
  · exact distinct.erase _
  · exact distinct

section Memory

variable {platform : Platform Provider}

theorem converged_exec {world world' : World Provider}
    (answered : exec platform thread call world = some (answer, world')) :
    world'.converged = memoryAfter world.converged call := by
  cases call with
  | process call =>
    cases call with
    | lockAdmit project =>
      cases held : world.admitLocks project with
      | none =>
        simp only [exec, execProcess, held, Option.some.injEq, mk.injEq, true_and] at answered
        rw [← answered]
        rfl
      | some holder => simp [exec, execProcess, held] at answered
    | takeToken now =>
      cases bucket : world.tokens <;>
      · simp only [exec, execProcess, bucket, Option.some.injEq, mk.injEq] at answered
        rw [← answered.2]
        rfl
    | _ =>
      cases answered
      rfl
  | _ =>
    cases answered
    rfl

variable {failing seen after : FailingStore Provider} {pool : StoredPool}
  {told further : PoolAnswers name → Prop}

section Step

variable (alone : LoopAlone failing seen)
  (answered : execFailing platform thread call seen = some (answer, after))

include alone answered

theorem converged_of_execFailing :
    after.world.converged = memoryAfter failing.world.converged call := by
  rw [← alone]
  rcases world_of_execFailing answered with ⟨⟨key, response, rfl⟩, rfl⟩ | executed
  · rfl
  · exact converged_exec executed

theorem remembers_exec (distinct : failing.world.converged.Nodup)
    (known : name ∈ memoryAfter failing.world.converged call ↔
      ((answersOf weightText name past).note weightText ⟨call, answer⟩).endedWell = true)
    (tells : told ((answersOf weightText name past).note weightText ⟨call, answer⟩)) :
    Remembers weightText name told (past ++ [⟨call, answer⟩]) after where
  distinct := by
    rw [converged_of_execFailing alone answered]
    exact nodup_memoryAfter distinct
  known := by rw [converged_of_execFailing alone answered, EndedWell, answersOf_snoc, known]
  told := by rwa [answersOf_snoc]

/-- A call may neither change what is remembered of the pool nor tell how its passes ended. -/
theorem Remembers.kept (remembers : Remembers weightText name told past failing)
    (unwritten : name ∈ memoryAfter failing.world.converged call ↔ name ∈ failing.world.converged)
    (tells : ∀ answers, told answers →
      (answers.note weightText ⟨call, answer⟩).endedWell = answers.endedWell ∧
        further (answers.note weightText ⟨call, answer⟩)) :
    Remembers weightText name further (past ++ [⟨call, answer⟩]) after := by
  rcases tells _ remembers.told with ⟨untold, more⟩
  refine remembers_exec alone answered remembers.distinct ?_ more
  rw [unwritten, remembers.known, EndedWell, untold]

end Step

/-- A question whose answer is not about pools. -/
theorem Retains.asks {α : Type} {rest : call.Res → Program α}
    (unwritten : ∀ names, memoryAfter names call = names)
    (untold : ∀ (answers : PoolAnswers name) answer,
      answers.note weightText ⟨call, answer⟩ = answers)
    (next : ∀ answer, Retains platform thread weightText name told (rest answer)) :
    Retains platform thread weightText name told (invoke call >>= rest) := by
  refine Ensures.invoke (fun _ => Remembers weightText name told) ?_ next
  intro past failing seen answer after remembers alone answered
  refine remembers.kept alone answered (by rw [unwritten]) fun answers known => ?_
  rw [untold]
  exact ⟨rfl, known⟩

/-- The calls about one pool tell nothing of another. -/
theorem PoolRowCall.untold (made : PoolRowCall pool call) (differs : pool.name ≠ name)
    (answers : PoolAnswers name) (answer : call.Res) :
    (answers.note weightText ⟨call, answer⟩).endedWell = answers.endedWell ∧
      (answers.note weightText ⟨call, answer⟩).listed = answers.listed := by
  have foreign (key text fingerprint : String)
      (standing : answers.intent weightText = some (key, text)) :
      key ≠ poolIntentKey pool fingerprint := by
    intro same
    rcases map_eq_some_iff.mp standing with ⟨own, listed, ⟨⟩⟩
    exact differs ((name_eq_of_poolIntentKey same).symm.trans (answers.named own listed))
  cases made with
  | observe made => cases made <;> exact ⟨rfl, rfl⟩
  | listAllocations =>
    cases answer with
    | error failure => exact ⟨rfl, rfl⟩
    | ok allocations => simp [PoolAnswers.note, differs]
  | getIntent fingerprint =>
    rcases answer with failure | _ | record
    · exact ⟨rfl, rfl⟩
    · exact ⟨rfl, rfl⟩
    · simpa [PoolAnswers.note] using fun _ standing =>
        absurd rfl (foreign _ _ fingerprint standing)
  | completeIntent fingerprint response =>
    cases answer with
    | error failure => exact ⟨rfl, rfl⟩
    | ok done =>
      have unkeyed : (answers.intent weightText).any
          (·.1 = poolIntentKey pool fingerprint) = false := by
        simpa [any_eq_false] using fun key text standing => foreign key text fingerprint standing
      simp [PoolAnswers.note, unkeyed]
  | _ => exact ⟨rfl, rfl⟩

theorem PoolRowCall.unwritten (made : PoolRowCall pool call) (differs : pool.name ≠ name)
    (names : List String) : name ∈ memoryAfter names call ↔ name ∈ names := by
  cases made with
  | observe made => cases made <;> rfl
  | convergedInsert => simp [memoryAfter, Ne.symm differs]
  | _ => rfl

/-- An actuation leaves its pool in memory exactly when its answers say that it ended well. -/
theorem actuatePool_remembers : Retains platform thread weightText pool.name
    (·.listed = some pool) (actuatePool weightText pool) := by
  let informed (allocations : List AllocationSpec) (answers : PoolAnswers pool.name) : Prop :=
    answers.listed = some pool ∧ answers.allocations = allocations
  have intent {allocations answers} (known : informed allocations answers) :
      answers.intent weightText =
        some (poolIntentKey pool (desiredFingerprint weightText pool.spec allocations),
          desiredFingerprint weightText pool.spec allocations) := by
    rw [PoolAnswers.intent, known.1, known.2]
    rfl
  refine actuatePool_ensures
    (fun allocations => Remembers weightText pool.name (informed allocations))
    (fun allocations => Remembers weightText pool.name (informed allocations))
    (fun allocations => Remembers weightText pool.name fun answers =>
      informed allocations answers ∧ answers.applied = true)
    (fun _ past failing => failing.world.converged.Nodup ∧ EndedWell weightText pool.name past ∧
      (answersOf weightText pool.name past).listed = some pool)
    ?_ (fun allocations => ?_) (fun allocations => ?_) (fun allocations => ?_)
    (fun allocations => ?_) fun action => ?_
  · refine ensures_invoke @fun _ _ _ answer _ remembers alone answered => ?_
    cases answer with
    | error failure => exact remembers.kept alone answered Iff.rfl fun _ known => ⟨rfl, known⟩
    | ok allocations =>
      refine remembers.kept alone answered Iff.rfl fun _ known => ?_
      simp [informed, PoolAnswers.note, known]
  · refine ensures_invoke @fun past _ _ answer _ remembers alone answered => ?_
    rcases answer with failure | _ | record
    · exact remembers.kept alone answered Iff.rfl fun _ known => ⟨rfl, known.1⟩
    · exact remembers.kept alone answered Iff.rfl fun _ known => ⟨rfl, known⟩
    · simp only [any_some]
      split
      · next found =>
          rw [Bool.and_eq_true, decide_eq_true_iff, decide_eq_true_iff] at found
          refine ⟨converged_of_execFailing alone answered ▸ remembers.distinct, ?_⟩
          simp [EndedWell, answersOf_snoc, PoolAnswers.note, intent remembers.told, found,
            remembers.told.1]
      · next missing =>
          refine remembers.kept alone answered Iff.rfl fun _ known => ⟨?_, known⟩
          simp only [Bool.and_eq_true, decide_eq_true_iff, not_and] at missing
          simpa [PoolAnswers.note, intent known] using fun applied same =>
            absurd (Eq.symm same) (missing applied)
  · refine ensures_invoke @fun _ _ _ answer _ remembers alone answered => ?_
    rcases answer with failure | _ | _
    · exact remembers.kept alone answered Iff.rfl fun _ known => ⟨rfl, known.1⟩
    · exact remembers.kept alone answered Iff.rfl fun _ known => ⟨rfl, known⟩
    · exact remembers.kept alone answered Iff.rfl fun _ known => ⟨rfl, known.1⟩
  · refine ensures_invoke @fun _ _ _ answer _ remembers alone answered => ?_
    cases answer with
    | error failure => exact remembers.kept alone answered Iff.rfl fun _ known => ⟨rfl, known.1⟩
    | ok done =>
      refine remembers.kept alone answered Iff.rfl fun _ known => ⟨rfl, known, ?_⟩
      simp [PoolAnswers.note, known.1, Except.isOk, Except.toBool]
  · refine ensures_invoke @fun _ _ _ answer _ remembers alone answered => ?_
    cases answer with
    | error failure => exact remembers.kept alone answered Iff.rfl fun _ known => ⟨rfl, known.1.1⟩
    | ok done =>
      refine ⟨converged_of_execFailing alone answered ▸ remembers.distinct, ?_⟩
      rcases remembers.told with ⟨known, applied⟩
      simp [EndedWell, answersOf_snoc, PoolAnswers.note, intent known, applied, known.1]
  · refine ensures_invoke fun ⟨distinct, endedWell, listed⟩ alone answered => ?_
    refine remembers_exec alone answered distinct ?_ listed
    rw [EndedWell] at endedWell
    simp [memoryAfter, PoolAnswers.note, endedWell]

theorem reconcilePool_remembers : Retains platform thread weightText pool.name
    (·.listed = some pool) (reconcilePool weightText pool) := by
  have observed : Retains platform thread weightText pool.name (·.listed = some pool)
      (observePoolRow pool) := by
    refine (observePoolRow_observes pool).ensures fun made remembers alone answered => ?_
    cases made <;> exact remembers.kept alone answered Iff.rfl fun _ known => ⟨rfl, known⟩
  refine observed.bind fun outcome => ?_
  cases outcome with
  | error failure => exact .done
  | ok done =>
    refine Retains.asks (fun _ => rfl) (fun _ _ => rfl) ?_
    rintro (failure | _ | _)
    · exact .done
    · exact actuatePool_remembers
    · exact .done

theorem reconcilePoolRows_remembers {rows : List StoredPool} {listed : Option StoredPool}
    (own : ∀ pool ∈ rows, pool.name = name → listed = some pool) :
    Retains platform thread weightText name (·.listed = listed)
      (reconcilePoolRows weightText rows) := by
  induction rows with
  | nil => exact .done
  | cons pool rows ih =>
    rw [List.forall_mem_cons] at own
    have first : Retains platform thread weightText name (·.listed = listed)
        (reconcilePool weightText pool) := by
      by_cases isOwn : pool.name = name
      · subst isOwn
        rw [own.1 rfl]
        exact reconcilePool_remembers
      · refine (reconcilePool_calls weightText pool).ensures fun made remembers alone answered => ?_
        refine remembers.kept alone answered (made.unwritten isOwn _) fun answers known => ?_
        rw [← known]
        exact made.untold isOwn answers _
    exact first.bind fun _ => (ih own.2).bind fun _ => .done

theorem deleteVanished_remembers {names : List String} :
    Retains platform thread weightText name (fun _ => True) (deleteVanished names) := by
  induction names with
  | nil => exact .done
  | cons gone names ih =>
    have rest (result : ReconcileResult PoolAction) :
        Retains platform thread weightText name (fun _ => True) do
          let others ← deleteVanished names
          return (gone, result) :: others :=
      ih.bind fun _ => .done
    -- Between the deletion and the removal, the memory is as after the removal.
    refine Ensures.invoke (fun answer past failing => match answer with
      | .error _ => Recalls weightText name past failing
      | .ok () => failing.world.converged.Nodup ∧
        (name ∈ failing.world.converged.erase gone ↔ EndedWell weightText name past)) ?_ ?_
    · intro past failing seen answer after remembers alone answered
      cases answer with
      | error failure => exact remembers.kept alone answered Iff.rfl fun _ known => ⟨rfl, known⟩
      | ok done =>
        have same : after.world.converged = failing.world.converged :=
          converged_of_execFailing alone answered
        refine ⟨by rw [same]; exact remembers.distinct, ?_⟩
        rw [same, remembers.distinct.mem_erase_iff, remembers.known, EndedWell, EndedWell,
          answersOf_snoc, PoolAnswers.note, Bool.and_eq_true, decide_eq_true_iff, and_comm, ne_comm]
    · intro answer
      cases answer with
      | error failure => exact rest _
      | ok done =>
        refine Ensures.invoke (fun _ => Recalls weightText name) ?_ fun _ => rest _
        rintro past failing seen answer after ⟨distinct, known⟩ alone answered
        exact remembers_exec alone answered distinct known trivial

end Memory

section Teardown

variable {platform : Platform Provider} {before after : FailingStore Provider} {names : List String}
  {report : PoolReport}

/-- Every pool that vanished is deleted, whether or not the others could be. -/
theorem deletes_of_vanished
    (ran : (deleteVanished names).Amid (execFailing platform thread) LoopAlone before events
      report after) (vanished : name ∈ names) :
    ∃ answer, ⟨.pool (.deletePool name), answer⟩ ∈ events := by
  induction names generalizing before events report after with
  | nil => cases vanished
  | cons first names ih =>
    rcases ran.of_invoke with ⟨_, answer, middle, later, _, _, rfl, continued⟩
    rcases List.mem_cons.mp vanished with rfl | others
    · exact ⟨answer, List.mem_cons_self⟩
    · cases answer with
      | error failure =>
        rcases Amid.of_bind continued with ⟨_, _, _, _, rfl, deleted, _⟩
        rcases ih deleted others with ⟨given, called⟩
        exact ⟨given, by simp [called]⟩
      | ok done =>
        rcases continued.of_invoke with ⟨_, _, _, _, _, _, rfl, forgotten⟩
        rcases Amid.of_bind forgotten with ⟨_, _, _, _, rfl, deleted, _⟩
        rcases ih deleted others with ⟨given, called⟩
        exact ⟨given, by simp [called]⟩

theorem latest_of_deleteVanished
    (ran : (deleteVanished names).Amid (execFailing platform thread) LoopAlone before events
      report after) :
    latest (poolMark name) (past ++ events) =
      if name ∈ names then some .deleted else latest (poolMark name) past := by
  by_cases vanished : name ∈ names
  · rw [if_pos vanished, latest_append]
    cases last : latest (poolMark name) events with
    | none =>
      rcases deletes_of_vanished ran vanished with ⟨answer, called⟩
      have marked := latest_eq_none_iff.mp last _ called
      simp [poolMark] at marked
    | some mark =>
      rcases mem_of_latest last with ⟨⟨call, answer⟩, eventMem, marked⟩
      have made := (deleteVanished_tearsDown names).amid ran _ eventMem
      simp only at made
      cases made with
      | deletePool _ =>
        rw [poolMark] at marked
        split at marked
        · rw [← marked, some_or]
        · cases marked
      | convergedRemove gone => cases marked
  · rw [if_neg vanished]
    refine latest_append_of_unmarked ?_
    intro event eventMem
    exact ((deleteVanished_spares vanished).amid ran event eventMem).unmarked event.answer

/-- An event that tells nothing of the pool. -/
def Silent (weightText : ℚ → Numeral) (name : String) (event : Event Call.Res) : Prop :=
  poolMark name event = none ∧ ∀ answers : PoolAnswers name,
    (answers.note weightText event).endedWell = answers.endedWell

theorem silent_of_reconcilePoolRows {rows : List StoredPool}
    (named : ∀ pool ∈ rows, pool.spec.name = pool.name) (unlisted : name ∉ rows.map (·.name))
    (ran : (reconcilePoolRows platform.weightText rows).Amid (execFailing platform thread)
      LoopAlone before events report after) :
    ∀ event ∈ events, Silent platform.weightText name event := by
  rintro ⟨call, answer⟩ eventMem
  rcases (reconcilePoolRows_rowCalls platform.weightText rows).amid ran _ eventMem with
    ⟨pool, poolMem, made⟩
  have differs : pool.name ≠ name := by
    rintro rfl
    exact unlisted (List.mem_map_of_mem poolMem)
  exact ⟨(made.spares differs (named pool poolMem)).unmarked answer,
    fun answers => (made.untold differs answers answer).1⟩

theorem EndedWell.append_silent (silent : ∀ event ∈ events, Silent weightText name event) :
    EndedWell weightText name (past ++ events) ↔ EndedWell weightText name past := by
  induction events generalizing past with
  | nil => simp
  | cons event events ih =>
    rw [List.forall_mem_cons] at silent
    rw [List.append_cons, ih silent.2, EndedWell, answersOf_snoc, silent.1.2, ← EndedWell]

theorem Outstanding.append_unmarked (unmarked : ∀ event ∈ events, poolMark name event = none) :
    Outstanding name (past ++ events) ↔ Outstanding name past := by
  rw [Outstanding, Outstanding, latest_append_of_unmarked unmarked]

end Teardown

section Pass

variable {platform : Platform Provider} {before after : FailingStore Provider}

theorem listed_of_execFailing {answer : StoreResult (List StoredPool)}
    (answered : execFailing platform thread (.control .listPools) before = some (answer, after)) :
    answer = .ok before.world.store.pools.rows := by
  rcases world_of_execFailing answered with ⟨⟨_, _, impossible⟩, _⟩ | executed
  · cases impossible
  · rw [exec_listPools, some.injEq, mk.injEq] at executed
    exact executed.1.symm

theorem listPools_remembered {told : PoolAnswers name → Prop} {pools : List StoredPool}
    {failing : FailingStore Provider} (remembers : Remembers weightText name told past failing)
    (alone : LoopAlone failing before)
    (answered : execFailing platform thread (.control .listPools) before =
      some (.ok pools, after)) :
    Remembers weightText name (·.listed = pools.find? fun pool => pool.name == name)
        (past ++ [⟨.control .listPools, .ok pools⟩]) after ∧
      (pools.map (·.name)).Nodup := by
  refine ⟨remembers.kept alone answered Iff.rfl fun _ _ => ⟨rfl, rfl⟩, ?_⟩
  rw [Except.ok.inj (listed_of_execFailing answered)]
  exact before.world.store.pools.nodup

theorem listedRows_remembered {pools : List StoredPool} (distinct : (pools.map (·.name)).Nodup) :
    (reconcilePoolRows weightText pools).Ensures (execFailing platform thread) LoopAlone
      (Remembers weightText name (·.listed = pools.find? fun pool => pool.name == name))
      fun _ => Recalls weightText name := by
  have own : ∀ pool ∈ pools, pool.name = name →
      (pools.find? fun pool => pool.name == name) = some pool := by
    rintro pool poolMem rfl
    have found : (⟨pools, distinct⟩ : Table StoredPool.name).find? pool.name = some pool :=
      Table.find?_of_mem poolMem
    exact found
  exact (reconcilePoolRows_remembers own).mono (fun _ _ remembers => remembers)
    fun _ _ _ remembers => { remembers with told := trivial }

theorem reconcilePools_remembers :
    Retains platform thread weightText name (fun _ => True) (reconcilePools weightText) := by
  refine Retains.asks (fun _ => rfl) (fun _ _ => rfl) ?_
  rintro (_ | _)
  · exact .done
  refine Ensures.invoke (fun answer past failing => match answer with
    | .error _ => Recalls weightText name past failing
    | .ok pools => Remembers weightText name
      (·.listed = pools.find? fun pool => pool.name == name) past failing ∧
        (pools.map (·.name)).Nodup) ?_ ?_
  · intro past failing seen answer after remembers alone answered
    cases answer with
    | error failure => exact remembers.kept alone answered Iff.rfl fun _ known => ⟨rfl, known⟩
    | ok pools => exact listPools_remembered remembers alone answered
  rintro (failure | pools)
  · exact .done
  refine Ensures.given (fun _ _ reached => reached.2) fun distinct => ?_
  refine ((listedRows_remembered distinct).mono (fun _ _ reached => reached.1)
    fun _ _ _ remembers => remembers).bind fun _ => ?_
  refine Retains.asks (fun _ => rfl) (fun _ _ => rfl) ?_
  rintro (failure | _ | _)
  · exact .done
  · refine Retains.asks (fun _ => rfl) (fun _ _ => rfl) fun vanished => ?_
    exact deleteVanished_remembers.bind fun _ => .done
  · exact .done

theorem quarantined_of_execFailing {answer : StoreResult Bool}
    (answered : execFailing platform thread (.control .isQuarantined) before =
      some (answer, after)) :
    answer = .ok before.world.store.quarantined := by
  rcases world_of_execFailing answered with ⟨⟨_, _, impossible⟩, _⟩ | executed
  · cases impossible
  · rw [exec_isQuarantined, some.injEq, mk.injEq] at executed
    exact executed.1.symm

theorem vanished_of_execFailing {current vanished : List String}
    (answered : execFailing platform thread (.process (.convergedDifference current)) before =
      some (vanished, after)) :
    name ∈ vanished ↔ name ∈ before.world.converged ∧ name ∉ current := by
  rcases world_of_execFailing answered with ⟨⟨_, _, impossible⟩, _⟩ | executed
  · cases impossible
  · rw [exec, execProcess, some.injEq, mk.injEq] at executed
    rw [← executed.1, List.mem_filter, decide_eq_true_iff]

theorem outstanding_of_deleteVanished {names : List String} {report : PoolReport}
    (ran : (deleteVanished names).Amid (execFailing platform thread) LoopAlone before events
      report after) :
    Outstanding name (past ++ events) ↔ Outstanding name past ∧ name ∉ names := by
  rw [Outstanding, latest_of_deleteVanished ran]
  by_cases vanished : name ∈ names
  · simp [vanished]
  · simp [vanished, Outstanding]

/-- A pass tears a pool down that is not stored exactly when the loop remembers it. -/
theorem outstanding_of_reconcilePools {report : PoolReport}
    (remembers : Recalls platform.weightText name past before)
    (unfenced : ⟨.control .isQuarantined, .ok true⟩ ∉ events)
    (named : ∀ pools, ⟨.control .listPools, .ok pools⟩ ∈ events →
      ∀ pool ∈ pools, pool.spec.name = pool.name)
    (absent : ∀ pools, ⟨.control .listPools, .ok pools⟩ ∈ events → name ∉ pools.map (·.name))
    (ran : (reconcilePools platform.weightText).Amid (execFailing platform thread) LoopAlone
      before events report after) :
    Outstanding name (past ++ events) ↔
      Outstanding name past ∧ ¬(⟨.pool .kueuePresent, true⟩ ∈ events ∧
        EndedWell platform.weightText name past) := by
  rcases ran.of_invoke with ⟨_, present, probed, afterProbe, alone, answered, rfl, inspected⟩
  have remembered : Recalls platform.weightText name _ probed :=
    remembers.kept alone answered Iff.rfl fun _ known => ⟨rfl, known⟩
  cases present with
  | false =>
    cases inspected
    rw [Outstanding.append_unmarked (by simp [poolMark])]
    simp
  | true =>
    rcases inspected.of_invoke with ⟨stored, listed, _, afterList, alone, answered, rfl, rowsRan⟩
    have listedRows := listed_of_execFailing answered
    subst listedRows
    rcases listPools_remembered remembered alone answered with ⟨rememberedListed, distinct⟩
    have unlisted : name ∉ stored.world.store.pools.rows.map (·.name) := absent _ (by simp)
    have rowsNamed := named stored.world.store.pools.rows (by simp)
    rcases Amid.of_bind rowsRan with ⟨rowEvents, _, _, afterRows, rfl, reconciled, fenceRan⟩
    have rememberedRows := listedRows_remembered distinct _ _ _ _ _ rememberedListed reconciled
    have silentRows := silent_of_reconcilePoolRows rowsNamed unlisted reconciled
    rcases fenceRan.of_invoke with ⟨seen, fence, held, afterFence, alone, answered, rfl, teardown⟩
    have rememberedFenced : Recalls platform.weightText name _ held :=
      rememberedRows.kept alone answered Iff.rfl fun _ known => ⟨rfl, known⟩
    have fence := quarantined_of_execFailing answered
    subst fence
    -- Quarantine would have been seen; without it the vanished pools are deleted.
    cases quarantined : seen.world.store.quarantined with
    | true => simp [quarantined] at unfenced
    | false =>
      simp only [quarantined] at teardown rememberedFenced
      rcases teardown.of_invoke with ⟨_, vanished, _, _, alone, answered, rfl, deletion⟩
      rcases Amid.of_bind deletion with ⟨deleteEvents, _, _, _, rfl, deleted, ended⟩
      cases ended
      let leading : EventLog := ⟨.pool .kueuePresent, true⟩ ::
        ⟨.control .listPools, .ok stored.world.store.pools.rows⟩ :: rowEvents ++
          [⟨.control .isQuarantined, .ok false⟩]
      let surveyed : Event Call.Res := ⟨.process (.convergedDifference _), vanished⟩
      have silent : ∀ event ∈ leading, Silent platform.weightText name event := by
        simpa [leading, Silent, poolMark, PoolAnswers.note, or_imp, forall_and] using silentRows
      have fenced : Recalls platform.weightText name (past ++ leading) held := by
        simpa [leading] using rememberedFenced
      have known : name ∈ vanished ↔ EndedWell platform.weightText name past := by
        rw [vanished_of_execFailing answered, alone, fenced.known, EndedWell.append_silent silent]
        exact and_iff_left unlisted
      calc Outstanding name _
        _ ↔ Outstanding name ((past ++ leading ++ [surveyed]) ++ deleteEvents) := by
            simp [leading, surveyed]
        _ ↔ Outstanding name (past ++ leading ++ [surveyed]) ∧ name ∉ vanished :=
            outstanding_of_deleteVanished deleted
        _ ↔ Outstanding name past ∧ ¬EndedWell platform.weightText name past := by
            rw [Outstanding.append_unmarked (by simp [surveyed, poolMark]),
              Outstanding.append_unmarked fun event eventMem => (silent event eventMem).1, known]
        _ ↔ _ := by simp

end Pass

abbrev LoopRound (Provider : Type) := Round Call.Res (FailingStore Provider) Unit PoolReport

abbrev PoolRun (platform : Platform Provider) (thread : ℕ) (origin : FailingStore Provider) :=
  Rounds (execFailing platform thread) LoopAlone
    (fun _ : Unit => reconcilePools platform.weightText) origin

/--
A pool that is not stored when an unquarantined pass lists the pools has been torn
down by the end of that pass exactly when it did not have to be, or the queueing
system answered and a pass over the pool had ended well since its last teardown.
-/
theorem pool_teardown_iff {platform : Platform Provider} {thread : ℕ} {name : String}
    {origin final : FailingStore Provider}
    {earlier : List (LoopRound Provider)} {pass : LoopRound Provider}
    (run : PoolRun platform thread origin (earlier ++ [pass]) final)
    (started : origin.world.converged = [])
    (unfenced : ⟨.control .isQuarantined, .ok true⟩ ∉ pass.events)
    (named : ∀ pools, ⟨.control .listPools, .ok pools⟩ ∈ pass.events →
      ∀ pool ∈ pools, pool.spec.name = pool.name)
    (absent : ∀ pools, ⟨.control .listPools, .ok pools⟩ ∈ pass.events →
      name ∉ pools.map (·.name)) :
    ¬Outstanding name (history (earlier ++ [pass])) ↔
      (Outstanding name (history earlier) →
        ⟨.pool .kueuePresent, true⟩ ∈ pass.events ∧
          EndedWell platform.weightText name (history earlier)) := by
  rcases run.at_round with ⟨before, ran⟩
  have remembers :
      Recalls platform.weightText name (history earlier) pass.before := by
    refine before.invariant ⟨?_, ?_, trivial⟩ fun _ => reconcilePools_remembers
    · rw [started]
      exact List.nodup_nil
    · simp [started, EndedWell, answersOf, PoolAnswers.start]
  rw [history_append, history_singleton,
    outstanding_of_reconcilePools remembers unfenced named absent ran, not_and, not_not]

theorem LoopAlone.refl (failing : FailingStore Provider) : LoopAlone failing failing :=
  rfl

theorem LoopAlone.trans {first second third : FailingStore Provider}
    (earlier : LoopAlone first second) (later : LoopAlone second third) : LoopAlone first third :=
  Eq.trans later earlier

def loopPass (failing : FailingStore Kubernetes) :
    Option (Prog.Outcome Call.Res (FailingStore Kubernetes) PoolReport) :=
  (reconcilePools plainSurroundings.weightText).eval
    (execFailing plainPlatform 0) failing

def withoutPools (failing : FailingStore Kubernetes) : FailingStore Kubernetes :=
  { failing with world.store.pools := Table.empty, world.store.allocations := Table.empty }

def twoPasses (failsCompletion : Bool) : Option (LoopRound Kubernetes × LoopRound Kubernetes) :=
  (loopPass ⟨unappliedPool, failsCompletion⟩).bind fun first =>
    (loopPass (withoutPools first.state)).map fun second =>
      (⟨(), ⟨unappliedPool, failsCompletion⟩, first.events, first.value, first.state⟩,
        ⟨(), first.state, second.events, second.value, second.state⟩)

theorem run_of_twoPasses {failsCompletion : Bool} {first second : LoopRound Kubernetes}
    (passed : twoPasses failsCompletion = some (first, second)) (called : second.events ≠ []) :
    PoolRun plainPlatform 0 ⟨unappliedPool, failsCompletion⟩
      ([first] ++ [second]) second.after := by
  rw [twoPasses, bind_eq_some_iff] at passed
  rcases passed with ⟨began, firstRan, passed⟩
  rw [map_eq_some_iff] at passed
  rcases passed with ⟨continued, secondRan, same⟩
  rw [mk.injEq] at same
  rcases same with ⟨rfl, rfl⟩
  have removed : LoopAlone began.state (withoutPools began.state) := rfl
  exact .snoc () (.snoc () .nil (amid_of_eval LoopAlone.refl firstRan))
    ((amid_of_eval LoopAlone.refl secondRan).after called removed LoopAlone.trans)

def findsNoPool (events : EventLog) : Bool :=
  events.any (fun event => match event with
    | ⟨.pool .kueuePresent, present⟩ => present
    | _ => false) &&
  events.all fun event => match event with
    | ⟨.control .isQuarantined, .ok quarantined⟩ => !quarantined
    | ⟨.control .listPools, .ok pools⟩ => pools.isEmpty
    | _ => true

theorem of_findsNoPool (found : findsNoPool events = true) :
    ⟨.pool .kueuePresent, true⟩ ∈ events ∧ ⟨.control .isQuarantined, .ok true⟩ ∉ events ∧
      ∀ pools, ⟨.control .listPools, .ok pools⟩ ∈ events → pools = [] := by
  rw [findsNoPool, Bool.and_eq_true, List.any_eq_true, List.all_eq_true] at found
  rcases found with ⟨⟨event, eventMem, present⟩, answers⟩
  refine ⟨?_, ?_, ?_⟩
  · split at present
    · rwa [← present]
    · cases present
  · intro quarantined
    cases answers _ quarantined
  · intro pools listed
    exact List.isEmpty_iff.mp (answers _ listed)

instance (name : String) (past : EventLog) : Decidable (EndedWell weightText name past) :=
  inferInstanceAs (Decidable (_ = true))

def isOutstanding (name : String) (past : EventLog) : Bool :=
  match latest (poolMark name) past with
  | some (.applied _ _) => true
  | _ => false

theorem isOutstanding_iff :
    isOutstanding name past = true ↔ Outstanding name past := by
  rw [isOutstanding, Outstanding]
  split
  · next spec allocations last => simp [last]
  · next other =>
      simp only [Bool.false_eq_true, false_iff]
      rintro ⟨spec, allocations, last⟩
      exact other spec allocations last

theorem pool_teardown_after_apply :
    ∃ first second final,
      PoolRun plainPlatform 0 ⟨unappliedPool, false⟩
        ([first] ++ [second]) final ∧
      ⟨.control .isQuarantined, .ok true⟩ ∉ second.events ∧
      (∀ pools, ⟨.control .listPools, .ok pools⟩ ∈ second.events → pools = []) ∧
      Outstanding "gpu" (history [first]) ∧
      ¬Outstanding "gpu" (history ([first] ++ [second])) := by
  have outcome : (twoPasses false).map (fun passes =>
      (findsNoPool passes.2.events, isOutstanding "gpu" (history [passes.1]),
        decide (EndedWell plainPlatform.weightText "gpu" (history [passes.1])))) =
      some (true, true, true) := by
    decide +kernel
  rw [map_eq_some_iff] at outcome
  rcases outcome with ⟨⟨first, second⟩, passed, outcome⟩
  simp only [mk.injEq, isOutstanding_iff, decide_eq_true_eq] at outcome
  rcases outcome with ⟨found, outstanding, endedWell⟩
  rcases of_findsNoPool found with ⟨present, unfenced, empty⟩
  have run := run_of_twoPasses passed (List.ne_nil_of_mem present)
  refine ⟨first, second, _, run, unfenced, empty, outstanding, ?_⟩
  refine (pool_teardown_iff run rfl unfenced ?_ ?_).mpr fun _ => ⟨present, endedWell⟩
  · intro pools listed pool poolMem
    rw [empty pools listed] at poolMem
    cases poolMem
  · intro pools listed
    simp [empty pools listed]

/-- The pool was applied, its intent was not completed, and nothing deletes its objects. -/
theorem uncompleted_pool_never_torn_down :
    ∃ first second final,
      PoolRun plainPlatform 0 ⟨unappliedPool, true⟩
        ([first] ++ [second]) final ∧
      ⟨.pool .kueuePresent, true⟩ ∈ second.events ∧
      ⟨.control .isQuarantined, .ok true⟩ ∉ second.events ∧
      (∀ pools, ⟨.control .listPools, .ok pools⟩ ∈ second.events → pools = []) ∧
      second.value = [] ∧
      Outstanding "gpu" (history ([first] ++ [second])) := by
  have outcome : (twoPasses true).map (fun passes =>
      (findsNoPool passes.2.events, passes.2.value.isEmpty,
        isOutstanding "gpu" (history ([passes.1] ++ [passes.2])))) = some (true, true, true) := by
    decide +kernel
  rw [map_eq_some_iff] at outcome
  rcases outcome with ⟨⟨first, second⟩, passed, outcome⟩
  simp only [mk.injEq, isOutstanding_iff, List.isEmpty_iff] at outcome
  rcases outcome with ⟨found, clean, outstanding⟩
  rcases of_findsNoPool found with ⟨present, unfenced, empty⟩
  have run := run_of_twoPasses passed (List.ne_nil_of_mem present)
  exact ⟨first, second, _, run, present, unfenced, empty, clean, outstanding⟩

end Mobula
