import Mobula.Api.Clusters
import Mobula.Foundation.Layers
import Mobula.Foundation.Scheduler

/-!
# Editing the policy

A request that edits the policy reads the effective one, replaces the sections that were posted
and writes the whole row back.
-/

namespace Mobula

open Foundation List System.Run

/-- A policy edit; what it does not give is kept. -/
structure UpdatePolicy where
  prices : Option (Option ResourceMap)
  quotas : Option QuotaTable
  budgets : Option BudgetTable

def validAmounts (amounts : ResourceMap) : Bool :=
  amounts.rows.all fun entry => 0 ≤ entry.2

namespace UpdatePolicy

/-- The checks of the posted sections; the texts of the answers are left out. -/
def accepted (body : UpdatePolicy) : Bool :=
  (body.prices.all fun prices => prices.all validAmounts) &&
    (body.quotas.all fun quotas => quotas.rows.all fun quota => validAmounts quota.2) &&
    body.budgets.all fun budgets => budgets.rows.all fun budget =>
      budget.2.windowSecs ≠ 0 && validAmounts budget.2.limits

def applyTo (body : UpdatePolicy) (policy : StoredPolicy) : StoredPolicy where
  prices := body.prices.getD policy.prices
  quotas := body.quotas.getD policy.quotas
  budgets := body.budgets.getD policy.budgets
  fromFileSeed := false

/-- All that the edit gives is in the policy. -/
def PostedIn (body : UpdatePolicy) (policy : StoredPolicy) : Prop :=
  (∀ prices ∈ body.prices, policy.prices = prices) ∧
    (∀ quotas ∈ body.quotas, policy.quotas = quotas) ∧
    ∀ budgets ∈ body.budgets, policy.budgets = budgets

/-- No part of the policy is given by both edits. -/
def Apart (first second : UpdatePolicy) : Prop :=
  (first.prices = none ∨ second.prices = none) ∧ (first.quotas = none ∨ second.quotas = none) ∧
    (first.budgets = none ∨ second.budgets = none)

theorem postedIn_applyTo (body : UpdatePolicy) (policy : StoredPolicy) :
    body.PostedIn (body.applyTo policy) := by
  simp +contextual [PostedIn, applyTo]

theorem PostedIn.applyTo {body other : UpdatePolicy} {policy : StoredPolicy}
    (posted : body.PostedIn policy) (apart : body.Apart other) :
    body.PostedIn (other.applyTo policy) := by
  rcases posted with ⟨prices, quotas, budgets⟩
  rcases apart with ⟨apartPrices, apartQuotas, apartBudgets⟩
  refine ⟨?_, ?_, ?_⟩
  · rcases apartPrices with none | none <;> simp_all [UpdatePolicy.applyTo]
  · rcases apartQuotas with none | none <;> simp_all [UpdatePolicy.applyTo]
  · rcases apartBudgets with none | none <;> simp_all [UpdatePolicy.applyTo]

end UpdatePolicy

/-- Besides the calls of the other routes, `set_policy`. -/
abbrev SettingsCall := Call ⊕ StoredPolicy

abbrev SettingsCall.Res : SettingsCall → Type :=
  Sum.elim Call.Res fun _ => StoreResult Unit

abbrev SettingsProgram := Prog SettingsCall.Res

def setPolicy (policy : StoredPolicy) : SettingsProgram (StoreResult Unit) :=
  Prog.invoke (Sum.inr policy)

/-- Authorization and the audit row, which do not concern the policy, are left out. -/
def updatePolicy (seed : PolicyConfig) (body : UpdatePolicy) : SettingsProgram ℕ :=
  if body.accepted then do
    match ← (effectivePolicy seed).lowered with
    | .error _ => return 500
    | .ok policy =>
      match ← setPolicy (body.applyTo (policy.getD ⟨none, .empty, .empty, false⟩)) with
      | .error _ => return 500
      | .ok () => return 200
  else return 400

/-- The row of the policy, which only these calls concern. -/
def execSettings (_ : ℕ) (call : SettingsCall) (row : Option StoredPolicy) :
    Option (call.Res × Option StoredPolicy) :=
  match call with
  | .inl (.control .getPolicy) => some (.ok row, row)
  | .inl (.control (.seedPolicy policy)) => some (.ok row.isNone, some (row.getD policy))
  | .inr policy => some (.ok (), some policy)
  | _ => none

/-- Policy edits that interleave. -/
def settingsSystem (seed : PolicyConfig) (edits : UpdatePolicy → Prop) :
    System SettingsCall.Res (Option StoredPolicy) UpdatePolicy where
  exec := execSettings
  behaviour := fun body => do let _ ← updatePolicy seed body
  admits := fun _ body => edits body
  stoppable := fun _ => False
  drift := fun _ _ => False

def obtainedAfter (row : Option StoredPolicy) : Event SettingsCall.Res → Option StoredPolicy
  | ⟨.inl (.control .getPolicy), .ok found⟩ => found
  | ⟨.inl (.control (.seedPolicy policy)), .ok true⟩ => some policy
  | _ => row

/-- The row that a request has got, by its own calls. -/
def obtained (past : List (Event SettingsCall.Res)) : Option StoredPolicy :=
  past.foldl obtainedAfter none

def Edits (edits : UpdatePolicy → Prop) (body : UpdatePolicy)
    (past : List (Event SettingsCall.Res)) (call : SettingsCall) : Prop :=
  edits body ∧ ∀ next, call = .inr next →
    next = body.applyTo ((obtained past).getD ⟨none, .empty, .empty, false⟩)

section Runs

variable {seed : PolicyConfig} {edits : UpdatePolicy → Prop} {body : UpdatePolicy}

theorem effectivePolicy_obtains (admitted : edits body) :
    ((effectivePolicy seed).lowered : SettingsProgram _).Obeys (fun _ _ _ => True)
      (Edits edits body) (fun past result => ∀ policy, result = .ok policy → policy = obtained past)
      [] := by
  have quiet {past : List (Event SettingsCall.Res)} {call : Call} :
      Edits edits body past (.inl call) := ⟨admitted, by simp⟩
  refine ⟨quiet, ?_⟩
  rintro (failure | _ | found) _
  · exact fun policy failed => nomatch failed
  · rcases boot : seedFromConfig seed with _ | policy
    · rintro policy ⟨⟩
      rfl
    · refine ⟨quiet, ?_⟩
      rintro (failure | _ | _) _
      · exact fun policy failed => nomatch failed
      · refine ⟨quiet, ?_⟩
        rintro (failure | found) _
        · exact fun policy failed => nomatch failed
        · rintro policy ⟨⟩
          rfl
      · rintro policy ⟨⟩
        rfl
  · rintro policy ⟨⟩
    rfl

theorem updatePolicy_obeys (admitted : edits body) :
    ((settingsSystem seed edits).behaviour body).Obeys (fun _ _ _ => True) (Edits edits body)
      (fun _ _ => True) [] := by
  have answered : (updatePolicy seed body).Obeys (fun _ _ _ => True) (Edits edits body)
      (fun _ _ => True) [] := by
    unfold updatePolicy
    split
    case isFalse => trivial
    case isTrue =>
      refine (effectivePolicy_obtains admitted).bind ?_
      rintro past (failure | policy) found
      · trivial
      refine ⟨⟨admitted, ?_⟩, ?_⟩
      · rintro next ⟨⟩
        rw [found policy rfl]
      · rintro (failure | _) _ <;> trivial
  exact answered.bind fun _ _ _ => trivial

variable {row : Option StoredPolicy} {trace : List (Step SettingsCall.Res _ UpdatePolicy)}
  {config : Config SettingsCall.Res (Option StoredPolicy) UpdatePolicy}

/-- Every edit is written while the row is the one that it was made from. -/
def Undisturbed (steps : List (Step SettingsCall.Res (Option StoredPolicy) UpdatePolicy)) : Prop :=
  ∀ k step edit, steps[k]? = some step → step.op = .inr edit →
    step.before = obtained (own step.thread (steps.take k))

/-- The edit has been stored. -/
def Written (body : UpdatePolicy)
    (trace : List (Step SettingsCall.Res (Option StoredPolicy) UpdatePolicy)) : Prop :=
  ∃ step ∈ trace, step.role = body ∧ ∃ next, step.op = .inr next

theorem row_of_exec (i : ℕ) {call : SettingsCall} {answer : call.Res} {policy : StoredPolicy}
    {after : Option StoredPolicy}
    (answered : execSettings i call (some policy) = some (answer, after)) :
    after = some policy ∨ ∃ edit, call = .inr edit ∧ after = some edit := by
  rcases call with call | edit
  · left
    cases call with
    | control call => cases call <;> cases answered <;> rfl
    | _ => cases answered
  · cases answered
    exact .inr ⟨edit, rfl, rfl⟩

theorem posted_of_written (run : (settingsSystem seed edits).Run (.start row) trace config)
    (apart : ∀ first second, edits first → edits second → first ≠ second → first.Apart second)
    (undisturbed : Undisturbed trace) (admitted : edits body) (written : Written body trace) :
    ∃ policy, config.state = some policy ∧ body.PostedIn policy := by
  induction run with
  | refl => simp [Written] at written
  | spawn i role _ _ _ ih => exact ih undisturbed written
  | drift state _ moved _ => cases moved
  | stop i thread _ _ stoppable _ => cases stoppable
  | @step trace config i role call next answer after run ready answered ih =>
    have before : Undisturbed trace := by
      intro k step edit found
      have inside : k < trace.length := (List.getElem?_eq_some_iff.mp found).1
      have kept := undisturbed k step edit
      rwa [getElem?_append_left inside, take_append_of_le_length inside.le, found,
        eq_self, true_imp_iff] at kept
    have made := (step i role call next answer after run ready answered).allowed_step _
      (Edits edits) (fun _ _ => trivial) (fun _ _ => updatePolicy_obeys) rfl
    have current (edit : StoredPolicy) (writes : call = .inr edit) :
        edit = role.applyTo (config.state.getD ⟨none, .empty, .empty, false⟩) := by
      have unchanged := undisturbed trace.length _ edit getElem?_concat_length writes
      rw [take_left] at unchanged
      rw [made.2 edit writes, ← unchanged]
    rcases written with ⟨step, stepMem, rfl, edit, writes⟩
    rcases mem_append.mp stepMem with earlier | last
    · rcases ih before ⟨step, earlier, rfl, edit, writes⟩ with ⟨policy, stored, posted⟩
      rw [show config.state = some policy from stored] at answered current
      rcases row_of_exec i answered with kept | ⟨edit, writes, written⟩
      · exact ⟨policy, kept, posted⟩
      · refine ⟨edit, written, ?_⟩
        rw [current edit writes]
        by_cases same : role = step.role
        · rw [same]
          exact step.role.postedIn_applyTo policy
        · exact posted.applyTo (apart _ _ admitted made.1 (Ne.symm same))
    · rw [mem_singleton.mp last] at writes ⊢
      cases show call = .inr edit from writes
      cases answered
      refine ⟨edit, rfl, ?_⟩
      rw [current edit rfl]
      exact role.postedIn_applyTo _

end Runs

/--
Two requests that replace different sections, and no others, leave a policy with the
sections of both, in every run in which each edit is written while the row is the one
it was made from.
-/
theorem policy_edits_kept {seed : PolicyConfig} {first second : UpdatePolicy}
    {row : Option StoredPolicy} {trace config} (apart : first.Apart second)
    (run : (settingsSystem seed fun body => body = first ∨ body = second).Run (.start row) trace
      config)
    (undisturbed : Undisturbed trace) (firstDone : Written first trace)
    (secondDone : Written second trace) :
    ∃ policy, config.state = some policy ∧ first.PostedIn policy ∧ second.PostedIn policy := by
  have apartAll : ∀ one other, (one = first ∨ one = second) → (other = first ∨ other = second) →
      one ≠ other → one.Apart other := by
    rintro one other (rfl | rfl) (rfl | rfl) differs
    · exact absurd rfl differs
    · exact apart
    · exact ⟨apart.1.symm, apart.2.1.symm, apart.2.2.symm⟩
    · exact absurd rfl differs
  rcases posted_of_written run apartAll undisturbed (.inl rfl) firstDone with
    ⟨policy, stored, posted⟩
  rcases posted_of_written run apartAll undisturbed (.inr rfl) secondDone with
    ⟨other, same, postedToo⟩
  cases stored.symm.trans same
  exact ⟨policy, stored, posted, postedToo⟩

def noPrices : UpdatePolicy := ⟨some none, none, none⟩

def noQuotas : UpdatePolicy := ⟨none, some .empty, none⟩

def pricedPolicy : StoredPolicy := ⟨some .empty, .empty, .empty, false⟩

abbrev noSettings : System SettingsCall.Res (Option StoredPolicy) UpdatePolicy :=
  settingsSystem ⟨none, .empty, .empty, default⟩ fun body => body = noPrices ∨ body = noQuotas

theorem policy_edits_kept_in_turn :
    ∃ trace config policy, noSettings.Run (.start (some pricedPolicy)) trace config ∧
      config.state = some policy ∧ noPrices.PostedIn policy ∧ noQuotas.PostedIn policy := by
  have first : noSettings.Run (.start (some pricedPolicy)) [] _ :=
    .spawn 0 noPrices .refl rfl (.inl rfl)
  have read := step 0 noPrices (.inl (.control .getPolicy)) _ _ _ first rfl rfl
  have written := step 0 noPrices (.inr _) _ _ _ read rfl rfl
  have second := spawn 1 noQuotas written rfl (.inr rfl)
  have reread := step 1 noQuotas (.inl (.control .getPolicy)) _ _ _ second rfl rfl
  have run := step 1 noQuotas (.inr _) _ _ _ reread rfl rfl
  have kept := policy_edits_kept ⟨.inr rfl, .inl rfl, .inl rfl⟩ run ?_
    ⟨_, .tail _ (.head _), rfl, _, rfl⟩ ⟨_, .tail _ (.tail _ (.tail _ (.head _))), rfl, _, rfl⟩
  · rcases kept with ⟨policy, stored, posted⟩
    exact ⟨_, _, policy, run, stored, posted⟩
  · rintro (_ | _ | _ | _ | k) step edit found writes
    · cases found; cases writes
    · cases found; rfl
    · cases found; cases writes
    · cases found; rfl
    · simp at found

/-- Both read the policy before either writes: the prices that were cleared are back. -/
theorem policy_edit_lost :
    ∃ trace config policy, noSettings.Run (.start (some pricedPolicy)) trace config ∧
      Written noPrices trace ∧ Written noQuotas trace ∧ config.state = some policy ∧
      ¬ noPrices.PostedIn policy := by
  have first : noSettings.Run (.start (some pricedPolicy)) [] _ :=
    .spawn 0 noPrices .refl rfl (.inl rfl)
  have second := spawn 1 noQuotas first rfl (.inr rfl)
  have read := step 0 noPrices (.inl (.control .getPolicy)) _ _ _ second rfl rfl
  have readToo := step 1 noQuotas (.inl (.control .getPolicy)) _ _ _ read rfl rfl
  have written := step 0 noPrices (.inr _) _ _ _ readToo rfl rfl
  have run := step 1 noQuotas (.inr _) _ _ _ written rfl rfl
  refine ⟨_, _, _, run, ⟨_, .tail _ (.tail _ (.head _)), rfl, _, rfl⟩,
    ⟨_, .tail _ (.tail _ (.tail _ (.head _))), rfl, _, rfl⟩, rfl, ?_⟩
  rintro ⟨prices, _⟩
  exact nomatch prices none rfl

end Mobula
