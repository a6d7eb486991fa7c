import Mobula.Auth.Lockout
import Mobula.Foundation.Scheduler

/-!
# Concurrent login attempts

A failed login is recorded by reading the counter and then writing a new one, in two calls.
Attempts on one account whose calls interleave can lose failures, and a late write can clear a
lock.
-/

namespace Mobula

open Foundation Prog List Option

variable {Provider α : Type} {platform : Platform Provider} {bcrypt : Bcrypt}
  {auth : LocalAuthenticator} {password : String}

structure LoginRole where
  username : String
  password : String

/-- Any number of login attempts; a request may be dropped, and other parts of the process run. -/
def loginSystem (platform : Platform Provider) (bcrypt : Bcrypt) (auth : LocalAuthenticator) :
    System (Sum.elim Call.Res AuthCall.Res) (AuthState Provider) LoginRole where
  exec := authMachine platform bcrypt
  behaviour := fun role => (auth.login role.username role.password).run >>= fun _ => .ret ()
  admits := fun _ _ => True
  stoppable := fun _ => True
  drift := fun before after => after.2 = before.2

abbrev LoginStep (Provider : Type) :=
  Step (Sum.elim Call.Res AuthCall.Res) (AuthState Provider) LoginRole

abbrev LoginTrace (Provider : Type) := List (LoginStep Provider)

namespace LoginStep

def event (step : LoginStep Provider) : AuthEvent :=
  ⟨step.op, step.answer⟩

def records (username : String) (step : LoginStep Provider) : Bool :=
  match step.op with
  | .inr (.setLoginLockout written _ _) => written = username
  | _ => false

end LoginStep

def recorded (username : String) (trace : LoginTrace Provider) : ℕ :=
  trace.countP (·.records username)

/-- The time of a step's recording: the last clock reading of its attempt. -/
def recordingTime (earlier : LoginTrace Provider) (step : LoginStep Provider) : Option ℕ :=
  latest AuthEvent.reading (own step.thread earlier)

/-- The calls of an attempt before it records a failure, and what it then writes. -/
structure FailureRecording (role : LoginRole) (past : List AuthEvent) (failed : ℕ)
    (locked : Option ℕ) (user : LocalUserRecord) (start : ℕ) (seen : LocalUserRecord) (now : ℕ) :
    Prop where
  past : ∃ verdict, past =
    [⟨.inr (.getLocalUser role.username), .ok (some user)⟩,
      ⟨.inl (.process .nowUnix), start⟩,
      ⟨.inr (.bcryptVerify role.password user.passwordHash), verdict⟩,
      ⟨.inr (.getLocalUser role.username), .ok (some seen)⟩,
      ⟨.inl (.process .nowUnix), now⟩]
  unlocked : user.lockout.lockedAt start = false
  written : (failed, locked) = nextLoginFailureState seen.failedLogins now

/-- An attempt writes lockout fields of its own account, to record a failure or after a success. -/
def LoginAllowed (role : LoginRole) (past : List AuthEvent) (call : Call ⊕ AuthCall) : Prop :=
  ∀ username failed locked, call = .inr (.setLoginLockout username failed locked) →
    (∃ event ∈ past, AuthEvent.rejects event = false) ∨
      username = role.username ∧
        ∃ user start seen now, FailureRecording role past failed locked user start seen now

def touchesUser (username : String) : Call ⊕ AuthCall → Bool
  | .inr (.createLocalUser written _ _ _) => written = username
  | .inr (.setLocalUserPassword written _) => written = username
  | .inr (.setLocalUserRole written _) => written = username
  | .inr (.setLocalUserDisabled written _) => written = username
  | .inr (.setLoginLockout written _ _) => written = username
  | _ => false

/-- The only row an attempt changes is that of its own account, in the lockout fields. -/
def LoginReaches (username : String) (call : Call ⊕ AuthCall) : Prop :=
  ∀ written, touchesUser written call = true →
    written = username ∧ ∃ failed locked, call = .inr (.setLoginLockout username failed locked)

variable {role : LoginRole} {past : List AuthEvent} {call : Call ⊕ AuthCall} {username : String}

abbrev LoginObliged (role : LoginRole) (past : List AuthEvent) (call : Call ⊕ AuthCall) : Prop :=
  LoginAllowed role past call ∧ LoginReaches role.username call

theorem LoginReaches.of_untouched (untouched : ∀ written, touchesUser written call = false) :
    LoginReaches username call :=
  fun written touched => by simp [untouched written] at touched

theorem LoginObliged.of_untouched (untouched : ∀ written, touchesUser written call = false) :
    LoginObliged role past call := by
  refine ⟨?_, .of_untouched untouched⟩
  rintro username failed locked rfl
  simpa [touchesUser] using untouched username

theorem setLoginLockout_reaches {failed : ℕ} {locked : Option ℕ} :
    LoginReaches username (.inr (.setLoginLockout username failed locked)) := by
  intro written touched
  have same : username = written := by simpa [touchesUser] using touched
  exact ⟨same.symm, failed, locked, rfl⟩

theorem failure_obeys {user : LocalUserRecord} {start : ℕ} {verdict : Except BcryptFailure Bool}
    (rejected : past =
      [⟨.inr (.getLocalUser role.username), .ok (some user)⟩, ⟨.inl (.process .nowUnix), start⟩,
        ⟨.inr (.bcryptVerify role.password user.passwordHash), verdict⟩])
    (unlocked : user.lockout.lockedAt start = false) :
    ((orBackend (recordLoginFailure role.username) >>=
        fun _ => (throw .invalidCredentials : LocalAuth LoginOutcome)).run >>=
      fun _ => .ret ()).Obeys (fun _ _ _ => True) (LoginObliged role) (fun _ _ => True) past := by
  refine Obeys.invoke (.of_untouched fun _ => rfl) fun answer _ => ?_
  rcases answer with failure | _ | seen
  · trivial
  · trivial
  refine Obeys.invoke (.of_untouched fun _ => rfl) fun (now : ℕ) _ => ?_
  refine Obeys.invoke ⟨?_, setLoginLockout_reaches⟩ fun answer _ => ?_
  · intro username failed locked same
    cases same
    refine .inr ⟨rfl, user, start, seen, now, ⟨verdict, ?_⟩, unlocked, rfl⟩
    simp [rejected]
  · rcases answer with _ | _ <;> trivial

theorem login_obeys : ((auth.login role.username role.password).run >>= fun _ => .ret ()).Obeys
      (fun _ _ _ => True) (LoginObliged role) (fun _ _ => True) [] := by
  refine Obeys.invoke (.of_untouched fun _ => rfl) fun answer _ => ?_
  rcases answer with failure | _ | user
  · trivial
  · refine Obeys.invoke (.of_untouched fun _ => rfl) fun verdict _ => ?_
    rcases verdict with (_ | _) | _ <;> trivial
  change Obeys _ _ _ _ (((if user.disabled = true then _ else _ : LocalAuth LoginOutcome)).run
    >>= fun _ => ret ())
  split
  case isTrue disabled =>
    refine Obeys.invoke (.of_untouched fun _ => rfl) fun verdict _ => ?_
    rcases verdict with (_ | _) | _ <;> trivial
  case isFalse enabled =>
    refine Obeys.invoke (.of_untouched fun _ => rfl) fun (start : ℕ) _ => ?_
    change Obeys _ _ _ _
      (((if user.lockedUntil.any (start < ·) = true then _ else _ : LocalAuth LoginOutcome)).run
        >>= fun _ => ret ())
    split
    case isTrue locked => trivial
    case isFalse unlocked =>
      have admitted : user.lockout.lockedAt start = false := Bool.eq_false_iff.mpr unlocked
      refine Obeys.invoke (.of_untouched fun _ => rfl) fun verdict _ => ?_
      rcases verdict with (_ | _) | _ | _
      · trivial
      · exact failure_obeys rfl admitted
      · exact failure_obeys rfl admitted
      · refine ((?_ : Within (LoginReaches role.username) _).obeys
          fun added call _ reaches => ⟨?_, reaches⟩).mono fun _ _ _ => trivial
        · refine Within.invoke setLoginLockout_reaches fun answer => ?_
          rcases answer with _ | _
          · trivial
          refine Within.invoke (.of_untouched fun _ => rfl) fun parts => ?_
          refine Within.invoke (.of_untouched fun _ => rfl) fun hash => ?_
          rcases hash with (_ | _) | _
          · trivial
          · trivial
          refine Within.invoke (.of_untouched fun _ => rfl) fun createdAt => ?_
          refine Within.invoke (.of_untouched fun _ => rfl) fun answer => ?_
          rcases answer with _ | _ <;> trivial
        · intro username failed locked _
          exact .inl
            ⟨⟨.inr (.bcryptVerify role.password user.passwordHash), .ok true⟩, by simp, rfl⟩

theorem find?_changeUser {held : Credentials} {written : String}
    {change : LocalUserRecord → LocalUserRecord} (other : written ≠ username)
    (keeps : ∀ user, (change user).username = user.username) :
    (held.changeUser written change).2.users.find? username = held.users.find? username := by
  unfold Credentials.changeUser
  split
  · rfl
  · rw [Table.find?_modify _ _ _ keeps, if_neg other.symm]

theorem authMachine_user {thread : ℕ} {before after : AuthState Provider}
    {answer : Sum.elim Call.Res AuthCall.Res call} (untouched : touchesUser username call = false)
    (answered : authMachine platform bcrypt thread call before = some (answer, after)) :
    after.2.users.find? username = before.2.users.find? username := by
  cases call with
  | inl lower =>
    rcases map_eq_some_iff.mp answered with ⟨_, _, same⟩
    cases same
    rfl
  | inr upper =>
    cases answered
    cases upper with
    | createLocalUser written email passwordHash role =>
      have other : username ≠ written := by simpa [touchesUser, eq_comm] using untouched
      simp only [Credentials.createLocalUser]
      split
      · rfl
      · rw [Table.find?_insert, if_neg other]
    | setLocalUserPassword written _ =>
      exact find?_changeUser (by simpa [touchesUser] using untouched) fun _ => rfl
    | setLocalUserRole written _ =>
      exact find?_changeUser (by simpa [touchesUser] using untouched) fun _ => rfl
    | setLocalUserDisabled written _ =>
      exact find?_changeUser (by simpa [touchesUser] using untouched) fun _ => rfl
    | setLoginLockout written _ _ =>
      exact find?_changeUser (by simpa [touchesUser] using untouched) fun _ => rfl
    | createApiToken record =>
      simp only [Credentials.createApiToken]
      split <;> rfl
    | revokeApiToken =>
      simp only [Credentials.revokeApiToken]
      split <;> rfl
    | _ => rfl

theorem Lockout.unlocked_later {lockout : Lockout} {start now : ℕ}
    (unlocked : lockout.lockedAt start = false) (ordered : start ≤ now) :
    lockout.lockedAt now = false := by
  rcases locked : lockout.lockedUntil with _ | limit
  · simp [Lockout.lockedAt, locked]
  simp [Lockout.lockedAt, locked] at unlocked ⊢
  omega

/-- Every password that is checked is wrong. -/
def WrongPasswords (trace : LoginTrace Provider) : Prop :=
  ∀ step ∈ trace, step.event.rejects = true

/-- The clock does not go back. -/
def SteadyClock (trace : LoginTrace Provider) : Prop :=
  (trace.filterMap fun step => step.event.reading).Pairwise (· ≤ ·)

/-- Between two calls of one attempt, no other attempt on its account makes a call. -/
def NonOverlapping (trace : LoginTrace Provider) : Prop :=
  ∀ earlier first middle second later, trace = earlier ++ first :: (middle ++ second :: later) →
    first.thread = second.thread → ∀ other ∈ middle, other.thread ≠ first.thread →
      other.role.username ≠ second.role.username

section Run

variable {origin : AuthState Provider} {trace earlier later : LoginTrace Provider}
  {config : Config (Sum.elim Call.Res AuthCall.Res) (AuthState Provider) LoginRole}
  {step : LoginStep Provider} {username : String}

theorem loginStep_obliged
    (run : (loginSystem platform bcrypt auth).Run (.start origin) trace config)
    (split : trace = earlier ++ step :: later) :
    LoginObliged step.role (own step.thread earlier) step.op :=
  run.allowed_step (fun _ _ _ => True) LoginObliged (fun _ _ => trivial)
    (fun _ _ _ => login_obeys) split

theorem loginStep_reaches
    (run : (loginSystem platform bcrypt auth).Run (.start origin) trace config)
    (stepMem : step ∈ trace) : LoginReaches step.role.username step.op := by
  rcases append_of_mem stepMem with ⟨earlier, later, split⟩
  exact (loginStep_obliged run split).2

theorem found_of_lookup {found : Option LocalUserRecord}
    (looked : step.event = ⟨.inr (.getLocalUser username), .ok found⟩)
    (answered : authMachine platform bcrypt step.thread step.op step.before =
      some (step.answer, step.after)) :
    step.before.2.users.find? username = found ∧ step.after.2 = step.before.2 := by
  rcases step with ⟨thread, role, before, op, answer, after⟩
  cases looked
  have same : ((.ok (before.2.users.find? username) : StoreResult (Option LocalUserRecord)),
      before) = (.ok found, after) :=
    some.inj answered
  simp at same
  exact ⟨same.1, congrArg Prod.snd same.2.symm⟩

variable {failed : ℕ} {locked : Option ℕ} {user : LocalUserRecord}
  {front between : LoginTrace Provider} {look : LoginStep Provider}

theorem written_of_record (recording : step.op = .inr (.setLoginLockout username failed locked))
    (found : step.before.2.users.find? username = some user)
    (answered : authMachine platform bcrypt step.thread step.op step.before =
      some (step.answer, step.after)) :
    lockoutOf username step.after = some ⟨user.disabled, failed, locked⟩ := by
  rcases step with ⟨thread, role, before, op, answer, after⟩
  cases recording
  have same : (execCredentials bcrypt (.setLoginLockout username failed locked) before.2
      before.1.now).2 = after.2 :=
    congrArg (fun answered => answered.2.2) (some.inj answered)
  rw [setLoginLockout_eq found] at same
  have written : lockoutOf username (after.1, before.2.withLockout username failed locked) =
      some ⟨user.disabled, failed, locked⟩ := lockoutOf_withLockout found
  rw [← written, lockoutOf, lockoutOf, ← same]

theorem op_of_records (records : step.records username = true) :
    ∃ failed locked, step.op = .inr (.setLoginLockout username failed locked) := by
  unfold LoginStep.records at records
  split at records
  case h_1 written failed locked op =>
    rw [op, of_decide_eq_true records]
    exact ⟨failed, locked, rfl⟩
  case h_2 => cases records

section

variable (run : (loginSystem platform bcrypt auth).Run (.start origin) trace config)

include run

theorem recording_of_step (wrong : WrongPasswords trace) (split : trace = earlier ++ step :: later)
    (op : step.op = .inr (.setLoginLockout username failed locked)) :
    username = step.role.username ∧ ∃ user start seen now,
      FailureRecording step.role (own step.thread earlier) failed locked user start seen now := by
  rcases (loginStep_obliged run split).1 _ _ _ op with ⟨_, eventMem, accepted⟩ | recording
  · rcases mem_own.mp eventMem with ⟨made, madeMem, _, rfl⟩
    have rejected := wrong made (by simp [split, madeMem])
    exact absurd (rejected.symm.trans accepted) (by decide)
  · exact recording

/-- Between two calls of an attempt that is alone on its account, nobody changes the row. -/
theorem untouched_between
    (alone : NonOverlapping trace) (whole : trace = front ++ look :: (between ++ step :: later))
    (sameThread : look.thread = step.thread)
    (mine : ∀ event ∈ own step.thread between, ∀ written, touchesUser written event.op = false) :
    ∀ other ∈ between, touchesUser step.role.username other.op = false := by
  intro other otherMem
  by_cases same : other.thread = step.thread
  · exact mine _ (mem_own.mpr ⟨other, otherMem, same, rfl⟩) _
  · have foreign := alone front look between step later whole sameThread other otherMem
      (sameThread ▸ same)
    rcases touched : touchesUser step.role.username other.op with _ | _
    · rfl
    have reached := loginStep_reaches run (by simp [whole, otherMem]) _ touched
    exact absurd reached.1.symm foreign

theorem found_between (whole : trace = front ++ look :: (between ++ step :: later))
    (untouched : ∀ other ∈ between, touchesUser username other.op = false)
    (found : look.after.2.users.find? username = some user) :
    step.before.2.users.find? username = some user := by
  subst whole
  refine run.between (fun reached => reached.2.users.find? username = some user) ?_ ?_ found
  · intro before after moved there
    rw [show after.2 = before.2 from moved]
    exact there
  · intro _ other _ window made there
    exact (authMachine_user (untouched other (by simp [window])) made).trans there

/-- An attempt that records a failure alone on its account continues from what it finds. -/
theorem recording_continues
    (wrong : WrongPasswords trace) (steady : SteadyClock trace) (alone : NonOverlapping trace)
    (split : trace = earlier ++ step :: later) (records : step.records username = true) :
    ∃ lockout now, lockoutOf username step.before = some lockout ∧
      lockout.lockedAt now = false ∧
      lockoutOf username step.after = some (lockout.failure now) ∧
      recordingTime earlier step = some now := by
  rcases op_of_records records with ⟨failed, locked, op⟩
  rcases recording_of_step run wrong split op with
    ⟨rfl, user, start, seen, now, recording⟩
  rcases recording.past with ⟨verdict, past⟩
  -- the two lookups of the attempt, as steps of the trace
  rcases own_eq_append_cons (past.trans (nil_append _).symm) with
    ⟨front, look, between, rfl, lookOwn, lookEvent, _, rest⟩
  have whole : trace = front ++ look :: (between ++ step :: later) := by simp [split]
  have untouched := untouched_between run alone whole lookOwn (by
    rw [rest]
    simp [touchesUser])
  have looked := found_of_lookup lookEvent (run.exec_of_mem (by simp [whole]))
  have found : look.after.2.users.find? step.role.username = some user := by
    rw [looked.2]
    exact looked.1
  have current := found_between run whole untouched found
  rcases own_eq_append_cons (show own step.thread between = [_, _] ++ _ :: [_] from rest) with
    ⟨inner, again, last, rfl, _, againEvent, innerOwn, lastOwn⟩
  have parts : trace = front ++ look :: (inner ++ again :: (last ++ step :: later)) := by
    simp [whole]
  have sameRow : seen = user := by
    have lookedAgain := found_of_lookup againEvent (run.exec_of_mem (by simp [parts]))
    have stillThere := found_between run parts (fun other otherMem =>
      untouched other (by simp [otherMem])) found
    exact some.inj (lookedAgain.1.symm.trans stillThere)
  have ordered : start ≤ now := by
    rcases mem_own.mp (innerOwn ▸ mem_cons_self) with ⟨first, firstMem, _, firstEvent⟩
    rcases mem_own.mp (lastOwn ▸ mem_cons_self) with ⟨second, secondMem, _, secondEvent⟩
    have halves : trace = (front ++ look :: inner) ++ (again :: (last ++ step :: later)) := by
      simp [parts]
    rw [SteadyClock, halves, filterMap_append, pairwise_append] at steady
    apply steady.2.2
    · exact mem_filterMap.mpr ⟨first, by simp [firstMem], congrArg AuthEvent.reading firstEvent⟩
    · exact mem_filterMap.mpr ⟨second, by simp [secondMem], congrArg AuthEvent.reading secondEvent⟩
  refine ⟨user.lockout, now, ?_, Lockout.unlocked_later recording.unlocked ordered, ?_, ?_⟩
  · simp [lockoutOf, current]
  · have written := recording.written
    rw [sameRow, Prod.mk.injEq] at written
    rw [written_of_record op current (run.exec_of_mem (by simp [whole]))]
    simp [Lockout.failure, LocalUserRecord.lockout, written]
  · rw [recordingTime, past]
    rfl

end

theorem WrongPasswords.left (wrong : WrongPasswords (earlier ++ later)) : WrongPasswords earlier :=
  fun step stepMem => wrong step (mem_append_left _ stepMem)

theorem SteadyClock.left (steady : SteadyClock (earlier ++ later)) : SteadyClock earlier := by
  simp [SteadyClock, pairwise_append] at steady
  exact steady.1

theorem NonOverlapping.left (alone : NonOverlapping (earlier ++ later)) :
    NonOverlapping earlier := by
  intro front first middle second back split
  exact alone front first middle second (back ++ later) (by simp [split])

theorem lockoutOf_of_unrecorded
    (run : (loginSystem platform bcrypt auth).Run (.start origin) trace config)
    (stepMem : step ∈ trace) (other : step.records username = false) :
    lockoutOf username step.after = lockoutOf username step.before := by
  have untouched : touchesUser username step.op = false := by
    rcases touched : touchesUser username step.op with _ | _
    · rfl
    rcases loginStep_reaches run stepMem _ touched with ⟨rfl, failed, locked, op⟩
    simp [LoginStep.records, op] at other
  rw [lockoutOf, lockoutOf, authMachine_user untouched (run.exec_of_mem stepMem)]

/-- The failures counted against the user. -/
def failedLoginsOf (username : String) (state : AuthState Provider) : Option ℕ :=
  (lockoutOf username state).map (·.failedLogins)

def lockedUntilOf (username : String) (state : AuthState Provider) : Option ℕ :=
  (lockoutOf username state).bind (·.lockedUntil)

/--
Between a moment at which the counter of an account is zero and a later one: the counter is the
number of failures recorded, the fifth of them locks the account for the lockout period, and no
recording takes back a lock that is in force.
-/
structure NoLostFailure (username : String) (earlier later : LoginTrace Provider)
    (final : AuthState Provider) : Prop where
  counted : recorded username later < LOGIN_LOCKOUT_THRESHOLD →
    failedLoginsOf username final = some (recorded username later)
  locks : ∀ front step back, later = front ++ step :: back → step.records username = true →
    recorded username front + 1 = LOGIN_LOCKOUT_THRESHOLD →
    ∃ limit now, lockedUntilOf username step.after = some limit ∧
      recordingTime (earlier ++ front) step = some now ∧ now + LOCKOUT_SECS ≤ limit
  keeps : ∀ front step back, later = front ++ step :: back → step.records username = true →
    ∀ limit now, lockedUntilOf username step.before = some limit →
      recordingTime (earlier ++ front) step = some now → now < limit →
      ∃ limit', lockedUntilOf username step.after = some limit' ∧ limit ≤ limit'

theorem recorded_snoc : recorded username (trace ++ [step]) =
      recorded username trace + if step.records username then 1 else 0 := by
  simp [recorded, countP_append, countP_singleton]

variable {middle : Config (Sum.elim Call.Res AuthCall.Res) (AuthState Provider) LoginRole}
  (first : (loginSystem platform bcrypt auth).Run (.start origin) earlier middle)
  (second : (loginSystem platform bcrypt auth).Run middle later config)
  (wrong : WrongPasswords (earlier ++ later)) (steady : SteadyClock (earlier ++ later))
  (alone : NonOverlapping (earlier ++ later))
  (zero : failedLoginsOf username middle.state = some 0)

include first second wrong steady alone zero

theorem counted_of_nonOverlapping
    (below : recorded username later < LOGIN_LOCKOUT_THRESHOLD) :
    failedLoginsOf username config.state = some (recorded username later) := by
  induction second with
  | refl => exact zero
  | spawn i role _ fresh admitted ih => exact ih wrong steady alone below
  | stop i thread _ started stoppable ih => exact ih wrong steady alone below
  | drift state _ moved ih =>
    rw [← ih wrong steady alone below, failedLoginsOf, failedLoginsOf, lockoutOf, lockoutOf,
      show state.2 = _ from moved]
  | @step trace prior i role op next answer state run ready answered ih =>
    have whole := first.trans (.step i role op next answer state run ready answered)
    rw [← append_assoc] at whole wrong steady alone
    have known := ih wrong.left steady.left alone.left
    rw [recorded_snoc] at below ⊢
    cases records : LoginStep.records username ⟨i, role, prior.state, op, answer, state⟩ with
    | false =>
      simp [records] at below ⊢
      have kept := lockoutOf_of_unrecorded whole (by simp) records
      rw [← known below]
      exact congrArg (Option.map Lockout.failedLogins) kept
    | true =>
      simp [records] at below ⊢
      rcases recording_continues whole wrong steady alone rfl records with
        ⟨lockout, now, found, _, written, _⟩
      have counter : lockout.failedLogins = recorded username trace := by
        have counted := known (Nat.lt_of_succ_lt below)
        rw [failedLoginsOf, found] at counted
        exact Option.some.inj counted
      rcases lockout.failure_cases now with ⟨reached, _⟩ | ⟨_, next⟩
      · omega
      · rw [← counter, ← next]
        exact congrArg (Option.map Lockout.failedLogins) written

/--
As long as the attempts on each account do not overlap, no failed login is lost, the fifth failure
locks the account, and no lock in force is taken back.
-/
theorem no_lost_failure_of_nonOverlapping :
    NoLostFailure username earlier later config.state where
  counted := counted_of_nonOverlapping first second wrong steady alone zero
  locks := by
    intro front step back split records fifth
    have whole : earlier ++ later = (earlier ++ front) ++ step :: back := by simp [split]
    rcases recording_continues (first.trans second) wrong steady alone whole records with
      ⟨lockout, now, found, _, written, time⟩
    rcases second.at_step split with ⟨prior, _, reached, here, _⟩
    rw [whole] at wrong steady alone
    have counted := counted_of_nonOverlapping first reached wrong.left steady.left alone.left zero
      (by omega)
    rw [here, failedLoginsOf, found] at counted
    have counter : lockout.failedLogins = recorded username front := some.inj counted
    rcases lockout.failure_cases now with ⟨_, locked⟩ | ⟨below, _⟩
    · refine ⟨now + LOCKOUT_SECS, now, ?_, time, Nat.le_refl _⟩
      rw [lockedUntilOf, written]
      exact locked
    · omega
  keeps := by
    intro front step back split records limit now locked time inForce
    have whole : earlier ++ later = (earlier ++ front) ++ step :: back := by simp [split]
    rcases recording_continues (first.trans second) wrong steady alone whole records with
      ⟨lockout, reading, found, unlocked, _, reads⟩
    cases reads.symm.trans time
    simp [lockedUntilOf, found] at locked
    simp [Lockout.lockedAt, locked] at unlocked
    omega

end Run

theorem nonOverlapping_of_sorted {trace : LoginTrace Provider}
    (sorted : (trace.map (·.thread)).Pairwise (· ≤ ·)) : NonOverlapping trace := by
  intro earlier first middle second later split sameThread other otherMem foreign
  rw [split, map_append, pairwise_append] at sorted
  have inner := sorted.2.1
  simp only [map_cons, map_append, pairwise_cons, pairwise_append] at inner
  have after : first.thread ≤ other.thread := inner.1 _ (by
    simp
    exact .inl ⟨other, otherMem, rfl⟩)
  have before : other.thread ≤ second.thread :=
    inner.2.2.2 _ (List.mem_map_of_mem otherMem) _ mem_cons_self
  omega

def fiveFailures :
    Option (Progress (Sum.elim Call.Res AuthCall.Res) (AuthState DemoClusters) LoginRole) :=
  (loginSystem demoPlatform plainBcrypt demoAuthenticator).execute (fun _ => true)
    (inTurn (List.replicate 5 (⟨"alice", "guess"⟩, 6)))
    (demoAuth (localUser "alice" .admin))

theorem no_lost_failure_of_fiveFailures : ∃ progress, fiveFailures = some progress ∧
    recorded "alice" progress.trace = 5 ∧
    NoLostFailure "alice" [] progress.trace progress.config.state := by
  have outcome : ∃ progress, fiveFailures = some progress ∧
      (∀ step ∈ progress.trace, (LoginStep.event step).rejects = true) ∧
      (progress.trace.filterMap (LoginStep.event · |>.reading)).Pairwise (· ≤ ·) ∧
      (progress.trace.map (·.thread)).Pairwise (· ≤ ·) ∧ recorded "alice" progress.trace = 5 :=
    Fallible.exists_of_checked (by decide)
  rcases outcome with ⟨progress, executed, wrong, steady, sorted, five⟩
  have run := System.execute_run (fun _ _ _ => trivial) executed
  exact ⟨progress, executed, five, no_lost_failure_of_nonOverlapping .refl run wrong steady
    (nonOverlapping_of_sorted sorted) rfl⟩

/-- Two attempts that both read the counter before either of them writes it. -/
def lostFailure :
    Option (Progress (Sum.elim Call.Res AuthCall.Res) (AuthState DemoClusters) LoginRole) :=
  (loginSystem demoPlatform plainBcrypt demoAuthenticator).execute (fun _ => true)
    ([.spawn 0 ⟨"alice", "guess"⟩, .spawn 1 ⟨"alice", "guess"⟩] ++
      List.replicate 5 (.call 0) ++ List.replicate 5 (.call 1) ++ [.call 0, .call 1])
    (demoAuth (localUser "alice" .admin))

/-- Of two wrong passwords that are checked at the same time, one is not counted. -/
theorem login_failure_lost : ∃ trace config,
    (loginSystem demoPlatform plainBcrypt demoAuthenticator).Run
      (.start (demoAuth (localUser "alice" .admin))) trace config ∧
    WrongPasswords trace ∧ SteadyClock trace ∧
    failedLoginsOf "alice" (demoAuth (localUser "alice" .admin)) = some 0 ∧
    ¬ NoLostFailure "alice" [] trace config.state := by
  have outcome : ∃ progress, lostFailure = some progress ∧
      (∀ step ∈ progress.trace, (LoginStep.event step).rejects = true) ∧
      (progress.trace.filterMap (LoginStep.event · |>.reading)).Pairwise (· ≤ ·) ∧
      recorded "alice" progress.trace = 2 ∧
      failedLoginsOf "alice" progress.config.state = some 1 :=
    Fallible.exists_of_checked (by decide)
  rcases outcome with ⟨progress, executed, wrong, steady, twice, once⟩
  have run := System.execute_run (fun _ _ _ => trivial) executed
  refine ⟨progress.trace, progress.config, run, wrong, steady, rfl, fun kept => ?_⟩
  have counted := kept.counted (by rw [twice]; decide)
  rw [once, twice] at counted
  cases counted

end Mobula
