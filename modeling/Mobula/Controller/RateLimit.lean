import Mathlib.Algebra.Order.Field.Rat
import Mathlib.Tactic.Linarith
import Mathlib.Tactic.Ring
import Mobula.Controller.Reach
import Mobula.Foundation.Triples
import Mobula.Provision.Demo

/-!
# The global actuation rate limit

Every apply takes a token from a bucket that refills with time up to its capacity. Within any
window of time the applies are therefore bounded by the capacity and what the window refills.
-/

namespace Mobula

open Foundation List Prog

/--
The tokens granted in a window up to now, against the state of the bucket: what
is left in it was neither granted nor lost.
-/
structure Balanced (limits : RateLimits) (start stop granted : ℕ) (bucket : TokenBucket) :
    Prop where
  capacity : bucket.capacity = limits.capacity
  refill : bucket.refillPerSec = limits.refillPerSec
  nonneg : 0 ≤ bucket.tokens
  capped : bucket.tokens ≤ limits.capacity
  earlier : bucket.last < start → granted = 0
  inside : start ≤ bucket.last → bucket.last ≤ stop →
    (granted : ℚ) + bucket.tokens ≤
      limits.capacity + limits.refillPerSec * ((bucket.last : ℚ) - start)
  total : (granted : ℚ) ≤ limits.capacity + limits.refillPerSec * ((stop : ℚ) - start)

section Balance

variable {limits : RateLimits} {start stop granted : ℕ} {bucket : TokenBucket}

theorem balanced_new (capacity : 0 ≤ limits.capacity) (refill : 0 ≤ limits.refillPerSec)
    (ordered : start ≤ stop) : Balanced limits start stop 0 (.new limits 0) where
  capacity := rfl
  refill := rfl
  nonneg := capacity
  capped := le_refl _
  earlier _ := rfl
  inside startsFirst _ := by
    have isZero : start = 0 := Nat.le_zero.mp startsFirst
    simp [TokenBucket.new, isZero]
  total := by
    have window : (0 : ℚ) ≤ (stop : ℚ) - start := by
      have cast : (start : ℚ) ≤ stop := by exact_mod_cast ordered
      linarith
    have refilled := mul_nonneg refill window
    simpa using by linarith

def TokenBucket.refilled (bucket : TokenBucket) (now : ℕ) : ℚ :=
  min (bucket.tokens + ((now - bucket.last : ℕ) : ℚ) * bucket.refillPerSec) bucket.capacity

theorem tryTake_eq {now : ℕ} : bucket.tryTake now =
      if 1 ≤ bucket.refilled now then
        (true, { bucket with tokens := bucket.refilled now - 1, last := now })
      else (false, { bucket with tokens := bucket.refilled now, last := now }) := rfl

variable {now : ℕ} (balanced : Balanced limits start stop granted bucket)
  (refill : 0 ≤ limits.refillPerSec) (later : bucket.last ≤ now)

include balanced refill later

theorem Balanced.refilled_bounds : 0 ≤ bucket.refilled now ∧ bucket.refilled now ≤ limits.capacity ∧
      bucket.refilled now ≤
        bucket.tokens + limits.refillPerSec * now - limits.refillPerSec * bucket.last := by
  have elapsed : ((now - bucket.last : ℕ) : ℚ) = (now : ℚ) - bucket.last := Nat.cast_sub later
  have nonneg : (0 : ℚ) ≤ (now : ℚ) - bucket.last := by
    rw [← elapsed]
    exact Nat.cast_nonneg _
  have gained := mul_nonneg nonneg refill
  have first := balanced.nonneg
  have second := balanced.capped
  unfold TokenBucket.refilled
  rw [balanced.capacity, balanced.refill, elapsed]
  refine ⟨?_, min_le_right _ _, ?_⟩
  · exact le_min (by linarith) (by linarith)
  · refine (min_le_left _ _).trans ?_
    linarith

theorem Balanced.tryTake : Balanced limits start stop
      (granted + if (bucket.tryTake now).1 = true ∧ start ≤ now ∧ now ≤ stop then 1 else 0)
      (bucket.tryTake now).2 := by
  obtain ⟨nonneg, capped, gained⟩ := balanced.refilled_bounds refill later
  -- The refilled bucket, less what this attempt takes, is balanced by what was granted before.
  have inside (startsFirst : start ≤ now) (endsLater : now ≤ stop) :
      (granted : ℚ) + bucket.refilled now ≤
        limits.capacity + limits.refillPerSec * ((now : ℚ) - start) := by
    by_cases entered : start ≤ bucket.last
    · have earlier := balanced.inside entered (later.trans endsLater)
      linarith
    · have none := balanced.earlier (by omega)
      have window : (0 : ℚ) ≤ (now : ℚ) - start := by
        have cast : (start : ℚ) ≤ now := by exact_mod_cast startsFirst
        linarith
      have refilled := mul_nonneg refill window
      rw [none, Nat.cast_zero]
      linarith
  have total (startsFirst : start ≤ now) (endsLater : now ≤ stop) :
      (granted : ℚ) + bucket.refilled now ≤
        limits.capacity + limits.refillPerSec * ((stop : ℚ) - start) := by
    have cast : (now : ℚ) ≤ stop := by exact_mod_cast endsLater
    have window := mul_le_mul_of_nonneg_left cast refill
    have reached := inside startsFirst endsLater
    linarith
  rw [tryTake_eq]
  by_cases enough : 1 ≤ bucket.refilled now
  · simp [if_pos enough]
    refine ⟨balanced.capacity, balanced.refill, by simpa using enough, by simp; linarith,
      ?_, ?_, ?_⟩
    · intro (before : now < start)
      have outside : ¬(start ≤ now ∧ now ≤ stop) := fun window => by omega
      rw [if_neg outside]
      exact balanced.earlier (by omega)
    · intro startsFirst endsLater
      rw [if_pos ⟨startsFirst, endsLater⟩]
      have reached := inside startsFirst endsLater
      push_cast
      linarith
    · by_cases window : start ≤ now ∧ now ≤ stop
      · rw [if_pos window]
        have reached := total window.1 window.2
        push_cast
        linarith
      · rw [if_neg window]
        exact balanced.total
  · simp [if_neg enough]
    refine ⟨balanced.capacity, balanced.refill, nonneg, capped, ?_, inside, balanced.total⟩
    intro (before : now < start)
    exact balanced.earlier (by omega)

end Balance

variable {Provider : Type} {platform : Platform Provider} {thread : ℕ}

/-- Nothing else takes tokens. -/
def TokensKept (before seen : World Provider) : Prop :=
  seen.tokens = before.tokens

def Call.appliesAny : Call → Bool
  | .backend (.apply _ _ _ _ _) => true
  | _ => false

def Call.takesToken : Call → Bool
  | .process (.takeToken _) => true
  | _ => false

def grantsToken : Event Call.Res → Bool
  | ⟨.process (.takeToken _), granted⟩ => granted
  | _ => false

theorem tokens_exec {call : Call} {answer : call.Res} {world world' : World Provider}
    (answered : exec platform thread call world = some (answer, world'))
    (leaves : call.takesToken = false) : world'.tokens = world.tokens := by
  cases call with
  | process call =>
    cases call with
    | takeToken now => cases leaves
    | lockAdmit project =>
      cases held : world.admitLocks project with
      | none =>
        simp [exec, execProcess, held] at answered
        rw [← answered]
        rfl
      | some holder => simp [exec, execProcess, held] at answered
    | _ =>
      cases answered
      rfl
  | _ =>
    cases answered
    rfl

/-- The limits, the window that is counted, and the time of the pass. -/
structure Metering where
  limits : RateLimits
  start : ℕ
  stop : ℕ
  now : ℕ

def Metering.counts (metering : Metering) : Prop :=
  metering.start ≤ metering.now ∧ metering.now ≤ metering.stop

instance (metering : Metering) : Decidable metering.counts :=
  inferInstanceAs (Decidable (_ ∧ _))

/--
The bucket balances the tokens granted before the pass and in it, and the pass
holds a number of tokens it has not spent.
-/
def Metered (metering : Metering) (granted held : ℕ) :
    Prog.Assertion Call.Res (World Provider) :=
  fun past world => past.countP (·.op.appliesAny) + held ≤ past.countP grantsToken ∧
    ∃ bucket, world.tokens = some bucket ∧ bucket.last ≤ metering.now ∧
      Balanced metering.limits metering.start metering.stop
        (granted + if metering.counts then past.countP grantsToken else 0) bucket

abbrev Meters {α : Type} (platform : Platform Provider) (thread : ℕ)
    (pre : Prog.Assertion Call.Res (World Provider)) (program : Program α)
    (post : α → Prog.Assertion Call.Res (World Provider)) : Prop :=
  Prog.Ensures (exec platform thread) TokensKept pre program post

section Pass

variable {metering : Metering} {granted held : ℕ} {call : Call} {row : StoredCluster}

theorem Metered.drop {past : EventLog} {world : World Provider} {fewer : ℕ}
    (metered : Metered metering granted held past world) (less : fewer ≤ held) :
    Metered metering granted fewer past world :=
  ⟨by have count := metered.1; omega, metered.2⟩

theorem metered_kept (unapplied : call.appliesAny = false) (untaken : call.takesToken = false)
    {past : EventLog} {world seen world' : World Provider} {answer : call.Res}
    (metered : Metered metering granted held past world) (moved : TokensKept world seen)
    (answered : exec platform thread call seen = some (answer, world')) :
    Metered metering granted held (past ++ [⟨call, answer⟩]) world' := by
  have ungranted : grantsToken ⟨call, answer⟩ = false := by
    cases call with
    | process call =>
      cases call with
      | takeToken now => cases untaken
      | _ => rfl
    | _ => rfl
  rcases metered with ⟨spent, bucket, known, past, balanced⟩
  refine ⟨by simpa [countP_append, unapplied, ungranted] using spent, bucket, ?_, past,
    by simpa [countP_append, ungranted] using balanced⟩
  rw [tokens_exec answered untaken, moved, known]

theorem metered_call {α : Type} {rest : call.Res → Program α}
    {post : α → Assertion Call.Res (World Provider)} (unapplied : call.appliesAny = false)
    (untaken : call.takesToken = false)
    (next : ∀ answer, Meters platform thread (Metered metering granted held) (rest answer) post) :
    Meters platform thread (Metered metering granted held) (invoke call >>= rest) post :=
  Ensures.invoke (fun _ => Metered metering granted held)
    (fun metered moved answered => metered_kept unapplied untaken metered moved answered)
    next

theorem metered_within {α : Type} {program : Program α} {permitted : Call → Prop}
    (within : program.Within permitted)
    (leaves : ∀ call, permitted call → call.appliesAny = false ∧ call.takesToken = false) :
    Meters platform thread (Metered metering granted held) program
      fun _ => Metered metering granted held :=
  within.ensures fun made metered moved answered =>
    metered_kept (leaves _ made).1 (leaves _ made).2 metered moved answered

theorem metered_ret {α : Type} {value : α} :
    Meters platform thread (Metered metering granted held) (.ret value)
      fun _ => Metered metering granted 0 :=
  ensures_ret fun _ _ metered => metered.drop (Nat.zero_le held)

theorem appliesAny_of_not_mutates (harmless : call.mutates = false) : call.appliesAny = false := by
  cases call with
  | backend call =>
    cases call with
    | apply => cases harmless
    | _ => rfl
  | _ => rfl

theorem takesToken_of_passive (passive : call.passive = true) : call.takesToken = false := by
  cases call with
  | process call =>
    cases call with
    | takeToken now => cases passive
    | _ => rfl
  | _ => rfl

theorem takeToken_meters (refill : 0 ≤ metering.limits.refillPerSec) :
    Meters platform thread (Metered metering granted 0) (Calls.takeToken metering.now)
      fun answer => Metered metering granted (if answer then 1 else 0) := by
  refine ensures_invoke ?_
  rintro past world seen answer world' ⟨spent, bucket, known, earlier, balanced⟩ moved answered
  have inBucket : seen.tokens = some bucket := by rw [moved, known]
  simp [exec, execProcess, inBucket] at answered
  rcases answered with ⟨rfl, rfl⟩
  have taken := balanced.tryTake refill earlier
  refine ⟨?_, (bucket.tryTake metering.now).2, rfl, ?_, ?_⟩
  · cases given : (bucket.tryTake metering.now).1 <;>
      simpa [countP_append, Call.appliesAny, grantsToken, given] using spent
  · rw [tryTake_eq]
    split <;> exact le_refl _
  · have counted : granted + (if metering.counts then
        (past ++ [(⟨.process (.takeToken metering.now), (bucket.tryTake metering.now).1⟩ :
          Event Call.Res)]).countP grantsToken else 0) =
        granted + (if metering.counts then past.countP grantsToken else 0) +
          if (bucket.tryTake metering.now).1 = true ∧ metering.counts then 1 else 0 := by
      by_cases counting : metering.counts <;>
        cases given : (bucket.tryTake metering.now).1 <;>
          simp [countP_append, grantsToken, counting]
      omega
    rw [counted]
    exact taken

theorem applyThroughOutbox_meters {queue : Option QueueAssignment} :
    Meters platform thread (Metered metering granted 1) (applyThroughOutbox row queue)
      fun _ => Metered metering granted 0 := by
  refine metered_call rfl rfl ?_
  rintro (failure | _ | _)
  · exact metered_ret
  · refine metered_call rfl rfl ?_
    rintro (failure | done)
    · exact metered_ret
    refine Ensures.invoke (fun _ => Metered metering granted 0) ?_ ?_
    · rintro past world seen answer world' ⟨spent, bucket, known, earlier, balanced⟩ moved answered
      refine ⟨?_, bucket, ?_, earlier, ?_⟩
      · simpa [countP_append, Call.appliesAny, grantsToken] using spent
      · rw [tokens_exec answered rfl, moved, known]
      · simpa [countP_append, grantsToken] using balanced
    · rintro (failure | response)
      · exact metered_ret
      refine metered_call rfl rfl ?_
      intro completed
      cases completed <;> exact metered_ret
  · exact metered_ret

variable (refill : 0 ≤ metering.limits.refillPerSec)

include refill

theorem decideAction_meters (observed : Option ObservedCluster) (queue : Option QueueAssignment) :
    Meters platform thread (Metered metering granted 0)
      (decideAction row metering.now observed queue) fun _ => Metered metering granted 0 := by
  unfold decideAction
  split
  · unfold decideRunning
    split
    · exact metered_ret
    · split
      · refine (takeToken_meters refill).bind ?_
        rintro (_ | _)
        · exact metered_ret
        · exact applyThroughOutbox_meters
      · exact metered_ret
  · unfold decideTerminated
    split
    · refine metered_call rfl rfl ?_
      intro answer
      cases answer <;> exact metered_ret
    · exact metered_ret
  · unfold decideSuspended
    split
    · exact metered_ret
    · split
      · refine metered_call rfl rfl ?_
        intro answer
        cases answer <;> exact metered_ret
      · exact metered_ret

theorem reconcileOne_meters (row : StoredCluster) :
    Meters platform thread (Metered metering granted 0) (reconcileOne row metering.now)
      fun _ => Metered metering granted 0 := by
  unfold reconcileOne
  split
  · exact metered_ret
  · refine metered_call rfl rfl ?_
    intro reported
    split
    · exact metered_ret
    · next observed _ =>
        refine metered_call rfl rfl ?_
        rintro (failure | _ | _)
        · exact metered_ret
        · refine Ensures.bind (metered_within queueAssignmentForProject_passive
            fun _ passive => ⟨appliesAny_of_not_mutates (mutates_of_passive passive),
              takesToken_of_passive passive⟩) ?_
          rintro (failure | queue)
          · exact metered_ret
          refine (decideAction_meters refill observed queue).bind ?_
          rintro (failure | action | ⟨action, condition⟩)
          · exact metered_ret
          · exact metered_ret
          · refine metered_within (settle_calls metering.now action condition) ?_
            intro call made
            exact ⟨appliesAny_of_not_mutates made.harmless, by cases made <;> rfl⟩
        · refine metered_call rfl rfl ?_
          intro recorded
          cases recorded <;> exact metered_ret

theorem reconcileAllAt_meters :
    Meters platform thread (Metered metering granted 0) (reconcileAllAt metering.now)
      fun _ => Metered metering granted 0 := by
  have rows (rows : List StoredCluster) : Meters platform thread (Metered metering granted 0)
      (reconcileRows metering.now rows) fun _ => Metered metering granted 0 := by
    induction rows with
    | nil => exact metered_ret
    | cons row rows ih =>
      exact (reconcileOne_meters refill row).bind fun _ => ih.bind fun _ => metered_ret
  refine metered_call rfl rfl ?_
  rintro (failure | listed)
  · exact metered_ret
  · exact rows listed

end Pass

def passesWithin {α : Type} (start stop : ℕ) (passes : List (Round Call.Res (World Provider) ℕ α)) :
    List (Round Call.Res (World Provider) ℕ α) :=
  passes.filter fun pass => start ≤ pass.role ∧ pass.role ≤ stop

theorem passesWithin_snoc {α : Type} {start stop : ℕ}
    {passes : List (Round Call.Res (World Provider) ℕ α)}
    {pass : Round Call.Res (World Provider) ℕ α} :
    passesWithin start stop (passes ++ [pass]) = passesWithin start stop passes ++
      if start ≤ pass.role ∧ pass.role ≤ stop then [pass] else [] := by
  simp [passesWithin, filter_singleton]

/--
In every run of passes at non-decreasing times, the number of applies within any
window of time is bounded by the capacity of the bucket and its refill over the
window.
-/
theorem applies_rate_limited {origin final : World Provider} {limits : RateLimits}
    {passes : List (Round Call.Res (World Provider) ℕ PassReport)}
    (capacity : 0 ≤ limits.capacity) (refill : 0 ≤ limits.refillPerSec)
    (run : Rounds (exec platform thread) TokensKept reconcileAllAt (origin.withLimits limits)
      passes final)
    (clock : (passes.map (·.role)).Pairwise (· ≤ ·)) {start stop : ℕ} (ordered : start ≤ stop) :
    ((history (passesWithin start stop passes)).countP (·.op.appliesAny) : ℚ) ≤
      limits.capacity + limits.refillPerSec * ((stop : ℚ) - start) := by
  suffices metered : (history (passesWithin start stop passes)).countP (·.op.appliesAny) ≤
        (history (passesWithin start stop passes)).countP grantsToken ∧
      ∃ bucket, final.tokens = some bucket ∧
        (∀ now, (∀ pass ∈ passes, pass.role ≤ now) → bucket.last ≤ now) ∧
        Balanced limits start stop
          ((history (passesWithin start stop passes)).countP grantsToken) bucket by
    rcases metered with ⟨spent, bucket, _, _, balanced⟩
    have cast : ((history (passesWithin start stop passes)).countP (·.op.appliesAny) : ℚ) ≤
        (history (passesWithin start stop passes)).countP grantsToken := by exact_mod_cast spent
    exact cast.trans balanced.total
  induction run with
  | nil => exact ⟨le_refl _, _, rfl, fun now _ => Nat.zero_le now,
      balanced_new capacity refill ordered⟩
  | @snoc done state events value final now earlier ran ih =>
    rw [map_append, pairwise_append] at clock
    rcases ih clock.1 with ⟨spent, bucket, known, latest, balanced⟩
    have earlierPasses (pass : Round Call.Res (World Provider) ℕ PassReport)
        (passMem : pass ∈ done) : pass.role ≤ now :=
      clock.2.2 pass.role (mem_map_of_mem passMem) now (by simp)
    have pass : Metered ⟨limits, start, stop, now⟩
        ((history (passesWithin start stop done)).countP grantsToken) 0 ([] ++ events) final :=
      reconcileAllAt_meters refill [] state events value final
        ⟨le_refl _, bucket, known, latest now earlierPasses, by simpa using balanced⟩ ran
    rcases pass with ⟨within, left, leftKnown, last, settled⟩
    simp [Metering.counts] at within settled
    rw [passesWithin_snoc]
    refine ⟨?_, left, leftKnown, ?_, ?_⟩
    · split
      · simp [history_append, history_singleton]
        omega
      · simpa using spent
    · intro later bound
      exact last.trans (bound ⟨now, state, events, value, final⟩ (by simp))
    · by_cases inWindow : start ≤ now ∧ now ≤ stop
      · simpa [inWindow, countP_append] using settled
      · simpa [inWindow] using settled

/-- Two clusters share one token: at one time a pass applies one of them only. -/
theorem applies_rate_limited_for_two_rows :
    ∃ passes final,
      Rounds (exec demoPlatform 0) TokensKept reconcileAllAt
        ((demoWorld twinStore).withLimits ⟨1, 1⟩) passes final ∧
      (history passes).countP (·.op.appliesAny) = 2 ∧
      ((history (passesWithin 3 3 passes)).countP (·.op.appliesAny) : ℚ) ≤
        1 + 1 * (((3 : ℕ) : ℚ) - (3 : ℕ)) := by
  have outcome : (executeRounds (exec demoPlatform 0) reconcileAllAt [3, 4]
      ((demoWorld twinStore).withLimits ⟨1, 1⟩)).map (fun ran =>
        ((history ran.1).countP (·.op.appliesAny), ran.1.map (·.role))) = some (2, [3, 4]) := by
    decide +kernel
  rcases Option.map_eq_some_iff.mp outcome with ⟨⟨passes, final⟩, executed, same⟩
  simp at same
  have run : Rounds (exec demoPlatform 0) TokensKept reconcileAllAt _ passes final :=
    rounds_alone (fun _ => rfl) executed
  exact ⟨passes, final, run, same.1, applies_rate_limited (by decide) (by decide) run
    (by rw [same.2]; decide) (le_refl 3)⟩

end Mobula
