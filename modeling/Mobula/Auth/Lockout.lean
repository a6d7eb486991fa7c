import Mobula.Auth.LocalAlone
import Mobula.Foundation.Triples

/-!
# The lockout of accounts

Attempts to log in to one account with wrong passwords, one after the other. Others may do
anything meanwhile except write the account's lockout fields. The first clock reading of an
attempt decides whether the account is locked; the second is the time of the failure it
records.
-/

namespace Mobula

open Foundation List

variable {Provider α : Type} {platform : Platform Provider} {bcrypt : Bcrypt} {thread : ℕ}
  {auth : LocalAuthenticator} {state final : AuthState Provider}
  {interferes : AuthState Provider → AuthState Provider → Prop}

abbrev AuthEvent := Event (Sum.elim Call.Res AuthCall.Res)

def AuthEvent.reading : AuthEvent → Option ℕ
  | ⟨.inl (.process .nowUnix), now⟩ => some now
  | _ => none

def AuthEvent.verifies : AuthEvent → Bool
  | ⟨.inr (.bcryptVerify _ _), _⟩ => true
  | _ => false

/-- A password that is checked here is wrong. -/
def AuthEvent.rejects : AuthEvent → Bool
  | ⟨.inr (.bcryptVerify _ _), .ok accepted⟩ => !accepted
  | ⟨.inr (.bcryptVerify _ _), .error (.task _)⟩ => false
  | _ => true

variable {value : α} {events : List AuthEvent} {username : String}
  {result : Except LocalAuthError α}

theorem amid_perform {call : AuthCall} {rest : call.Res → AuthProgram α}
    (ran : (call.perform >>= rest).Amid (authMachine platform bcrypt thread) interferes state events
      value final) :
    ∃ seen later, interferes state seen ∧
      events = ⟨.inr call, (execCredentials bcrypt call seen.2 seen.1.now).1⟩ :: later ∧
      (rest (execCredentials bcrypt call seen.2 seen.1.now).1).Amid
        (authMachine platform bcrypt thread) interferes
        (seen.1.afterReading call.stamps, (execCredentials bcrypt call seen.2 seen.1.now).2)
        later value final := by
  rcases ran.of_invoke with ⟨seen, answer, middle, later, moved, answered, rfl, continued⟩
  cases answered
  exact ⟨seen, later, moved, rfl, continued⟩

theorem amid_nowUnix {rest : ℕ → AuthProgram α}
    (ran : (AuthCalls.nowUnix >>= rest).Amid (authMachine platform bcrypt thread) interferes state
      events value final) :
    ∃ seen later, interferes state seen ∧
      events = ⟨.inl (.process .nowUnix), seen.1.now⟩ :: later ∧
      (rest seen.1.now).Amid (authMachine platform bcrypt thread) interferes
        (seen.1.afterReading true, seen.2) later value final := by
  rcases Prog.Amid.of_invoke ran with ⟨seen, answer, middle, later, moved, answered, rfl, continued⟩
  cases answered
  exact ⟨seen, later, moved, rfl, continued⟩

theorem amid_getLocalUser {rest : Option LocalUserRecord → LocalAuth α}
    (ran : (orBackend (AuthCalls.getLocalUser username) >>= rest).run.Amid
      (authMachine platform bcrypt thread) interferes state events result final) :
    ∃ seen later, interferes state seen ∧
      events = ⟨.inr (.getLocalUser username), .ok (seen.2.users.find? username)⟩ :: later ∧
      (rest (seen.2.users.find? username)).run.Amid (authMachine platform bcrypt thread) interferes
        seen later result final := by
  rcases amid_perform ran with ⟨seen, later, moved, rfl, continued⟩
  exact ⟨seen, later, moved, rfl, continued⟩

theorem amid_verifyPassword {password hash : String} {rest : Bool → LocalAuth α}
    (ran : (verifyPassword password hash >>= rest).run.Amid (authMachine platform bcrypt thread)
      interferes state events result final)
    (wrong : ∀ event ∈ events, AuthEvent.rejects event = true) :
    ∃ seen later, interferes state seen ∧
      events = ⟨.inr (.bcryptVerify password hash), bcrypt.verify password hash⟩ :: later ∧
      (rest false).run.Amid (authMachine platform bcrypt thread) interferes seen later result
        final := by
  rcases amid_perform ran with ⟨seen, later, moved, rfl, continued⟩
  refine ⟨seen, later, moved, rfl, ?_⟩
  have rejected := wrong _ mem_cons_self
  dsimp only [execCredentials] at continued rejected
  revert continued rejected
  cases bcrypt.verify password hash with
  | ok accepted =>
    intro continued rejected
    rcases accepted with _ | _
    · exact continued
    · cases rejected
  | error failure =>
    intro continued rejected
    cases failure with
    | task message => cases rejected
    | bcrypt message => exact continued

structure Lockout where
  disabled : Bool
  failedLogins : ℕ
  lockedUntil : Option ℕ

def LocalUserRecord.lockout (user : LocalUserRecord) : Lockout :=
  ⟨user.disabled, user.failedLogins, user.lockedUntil⟩

def lockoutOf (username : String) (state : AuthState Provider) : Option Lockout :=
  (state.2.users.find? username).map LocalUserRecord.lockout

def LockoutKept (username : String) (before after : AuthState Provider) : Prop :=
  lockoutOf username after = lockoutOf username before

def Lockout.failure (lockout : Lockout) (now : ℕ) : Lockout :=
  ⟨lockout.disabled, (nextLoginFailureState lockout.failedLogins now).1,
    (nextLoginFailureState lockout.failedLogins now).2⟩

def Lockout.lockedAt (lockout : Lockout) (now : ℕ) : Bool :=
  lockout.lockedUntil.any (now < ·)

variable {lockout : Lockout} {held : Credentials} {user : LocalUserRecord}
  {failedLogins : ℕ} {lockedUntil : Option ℕ}

theorem lockoutOf_eq_some (known : lockoutOf username state = some lockout) :
    ∃ user, state.2.users.find? username = some user ∧ user.lockout = lockout :=
  Option.map_eq_some_iff.mp known

def Credentials.withLockout (held : Credentials) (username : String) (failedLogins : ℕ)
    (lockedUntil : Option ℕ) : Credentials :=
  { held with
    users := held.users.modify username fun user => { user with failedLogins, lockedUntil } }

theorem setLoginLockout_eq {now : ℕ} (found : held.users.find? username = some user) :
    execCredentials bcrypt (.setLoginLockout username failedLogins lockedUntil) held now =
      (.ok (), held.withLockout username failedLogins lockedUntil) := by
  simp only [execCredentials, Credentials.changeUser, found, Credentials.withLockout]

theorem lockoutOf_withLockout {world : World Provider}
    (found : held.users.find? username = some user) :
    lockoutOf username (world, held.withLockout username failedLogins lockedUntil) =
      some ⟨user.disabled, failedLogins, lockedUntil⟩ := by
  have keeps : ∀ row : LocalUserRecord,
      ({ row with failedLogins, lockedUntil } : LocalUserRecord).username = row.username :=
    fun _ => rfl
  simp [lockoutOf, Credentials.withLockout, Table.find?_modify _ _ _ keeps, found,
    LocalUserRecord.lockout]

theorem amid_recordLoginFailure {rest : Unit → LocalAuth α}
    (ran : (orBackend (recordLoginFailure username) >>= rest).run.Amid
      (authMachine platform bcrypt thread) (LockoutKept username) state events result final)
    (known : lockoutOf username state = some lockout) : ∃ user now world failed locked later,
      events = ⟨.inr (.getLocalUser username), .ok (some user)⟩ ::
        ⟨.inl (.process .nowUnix), now⟩ ::
        ⟨.inr (.setLoginLockout username failed locked), .ok ()⟩ :: later ∧
      lockoutOf username world = some (lockout.failure now) ∧
      (rest ()).run.Amid (authMachine platform bcrypt thread) (LockoutKept username) world later
        result final := by
  rcases amid_perform ran with ⟨seen, _, moved, rfl, reading⟩
  rcases lockoutOf_eq_some (moved.trans known) with ⟨user, found, rfl⟩
  dsimp only [execCredentials] at reading ⊢
  rw [found] at reading ⊢
  rcases amid_nowUnix reading with ⟨reader, _, movedThen, rfl, writing⟩
  rcases amid_perform writing with ⟨writer, later, movedLast, rfl, continued⟩
  have unchanged : lockoutOf username writer = some user.lockout := by
    have same : lockoutOf username seen = some user.lockout := by simp [lockoutOf, found]
    exact movedLast.trans (movedThen.trans same)
  rcases lockoutOf_eq_some unchanged with ⟨current, there, same⟩
  rw [setLoginLockout_eq there] at continued ⊢
  refine ⟨user, reader.1.now, _, _, _, later, rfl, ?_, continued⟩
  have sameFlag : current.disabled = user.disabled := congrArg Lockout.disabled same
  rw [lockoutOf_withLockout there, sameFlag]
  rfl

structure Refused (lockout : Lockout) (events : List AuthEvent)
    (result : Except LocalAuthError LoginOutcome) (after : Option Lockout) (start : ℕ) : Prop where
  readings : events.filterMap AuthEvent.reading = [start]
  verified : events.any AuthEvent.verifies = false
  locked : lockout.lockedAt start = true
  result : result = .error .locked
  after : after = some lockout

structure Counted (lockout : Lockout) (events : List AuthEvent)
    (result : Except LocalAuthError LoginOutcome) (after : Option Lockout) (start stop : ℕ) :
    Prop where
  readings : events.filterMap AuthEvent.reading = [start, stop]
  verified : events.any AuthEvent.verifies = true
  unlocked : lockout.lockedAt start = false
  result : result = .error .invalidCredentials
  after : after = some (lockout.failure stop)

/-- An attempt with a wrong password on an enabled account is refused or counted. -/
theorem login_wrong {password : String} {result : Except LocalAuthError LoginOutcome}
    (ran : (auth.login username password).run.Amid (authMachine platform bcrypt thread)
      (LockoutKept username) state events result final)
    (known : lockoutOf username state = some lockout) (enabled : lockout.disabled = false)
    (wrong : ∀ event ∈ events, AuthEvent.rejects event = true) :
    (∃ start, Refused lockout events result (lockoutOf username final) start) ∨
      ∃ start stop, Counted lockout events result (lockoutOf username final) start stop := by
  rcases amid_getLocalUser ran with ⟨seen, _, moved, rfl, checking⟩
  rcases lockoutOf_eq_some (moved.trans known) with ⟨user, found, rfl⟩
  rw [found] at checking ⊢
  dsimp only at checking
  have usable : ¬ user.disabled = true := Bool.eq_false_iff.mp enabled
  rw [if_neg usable] at checking
  rcases amid_nowUnix checking with ⟨reader, _, movedThen, rfl, deciding⟩
  have unchanged : lockoutOf username reader = some user.lockout :=
    movedThen.trans (moved.trans known)
  dsimp only [ExceptT.bindCont] at deciding
  cases locked : user.lockout.lockedAt reader.1.now with
  | true =>
    have refused : user.lockedUntil.any (reader.1.now < ·) = true := locked
    rw [if_pos refused] at deciding
    cases deciding
    exact .inl ⟨reader.1.now, rfl, rfl, locked, rfl, unchanged⟩
  | false =>
    have admitted : ¬ user.lockedUntil.any (reader.1.now < ·) = true :=
      Bool.eq_false_iff.mp locked
    rw [if_neg admitted] at deciding
    rcases amid_verifyPassword deciding
      (fun event eventMem => wrong event (by simp [eventMem])) with
      ⟨verifier, _, movedLast, rfl, recording⟩
    rcases amid_recordLoginFailure recording (movedLast.trans unchanged) with
      ⟨_, stop, _, _, _, _, rfl, counted, ending⟩
    cases ending
    exact .inr ⟨reader.1.now, stop, rfl, rfl, locked, rfl, counted⟩

/-- Whether a time lies in the window of one lockout from a start. -/
def inWindow (windowStart time : ℕ) : Bool :=
  windowStart ≤ time && time < windowStart + LOCKOUT_SECS

/--
How a number of checked passwords in a window shows in the lockout fields. Once one was counted,
the account is locked beyond the window, or the counter is at least that number, or the window is
over.
-/
def Pace (windowStart : ℕ) (times : List ℕ) (count : ℕ) (lockout : Lockout) : Prop :=
  count = 0 ∨
    (∃ time ∈ times, windowStart ≤ time) ∧ count ≤ LOGIN_LOCKOUT_THRESHOLD ∧
      ((∃ stop, lockout.lockedUntil = some stop ∧ windowStart + LOCKOUT_SECS ≤ stop) ∨
        (count ≤ lockout.failedLogins ∧ lockout.failedLogins < LOGIN_LOCKOUT_THRESHOLD) ∨
        ∃ time ∈ times, windowStart + LOCKOUT_SECS ≤ time)

variable {windowStart count start stop : ℕ} {times : List ℕ} {lockout : Lockout}

theorem Pace.le (pace : Pace windowStart times count lockout) :
    count ≤ LOGIN_LOCKOUT_THRESHOLD := by
  rcases pace with rfl | ⟨_, bounded, _⟩
  · exact Nat.zero_le _
  · exact bounded

theorem Pace.later (pace : Pace windowStart times count lockout) (added : List ℕ) :
    Pace windowStart (times ++ added) count lockout := by
  rcases pace with none | ⟨⟨time, timeMem, inside⟩, bounded, shows⟩
  · exact .inl none
  · refine .inr ⟨⟨time, mem_append_left _ timeMem, inside⟩, bounded, ?_⟩
    rcases shows with locked | counted | ⟨late, lateMem, passed⟩
    · exact .inl locked
    · exact .inr (.inl counted)
    · exact .inr (.inr ⟨late, mem_append_left _ lateMem, passed⟩)

theorem Lockout.failure_cases (lockout : Lockout) (now : ℕ) :
    (LOGIN_LOCKOUT_THRESHOLD ≤ lockout.failedLogins + 1 ∧
      (lockout.failure now).lockedUntil = some (now + LOCKOUT_SECS)) ∨
    (lockout.failedLogins + 1 < LOGIN_LOCKOUT_THRESHOLD ∧
      (lockout.failure now).failedLogins = lockout.failedLogins + 1) := by
  unfold Lockout.failure nextLoginFailureState
  by_cases reached : LOGIN_LOCKOUT_THRESHOLD ≤ lockout.failedLogins + 1
  · exact .inl ⟨reached, by simp [reached]⟩
  · exact .inr ⟨Nat.lt_of_not_le reached, by simp [reached]⟩

/-- A password is checked in the window only while fewer than the threshold were. -/
theorem Pace.counted (pace : Pace windowStart times count lockout)
    (ordered : ∀ time ∈ times, time ≤ start) (spent : start ≤ stop)
    (unlocked : lockout.lockedAt start = false) (inside : inWindow windowStart start = true) :
    Pace windowStart (times ++ [start, stop]) (count + 1) (lockout.failure stop) := by
  simp [inWindow] at inside
  have fits : count + 1 ≤ LOGIN_LOCKOUT_THRESHOLD ∧ (count = 0 ∨ count ≤ lockout.failedLogins) := by
    rcases pace with rfl | ⟨_, bounded, ⟨limit, locked, far⟩ | counted | ⟨late, lateMem, passed⟩⟩
    · exact ⟨by decide, .inl rfl⟩
    · simp [Lockout.lockedAt, locked] at unlocked
      omega
    · exact ⟨by omega, .inr counted.1⟩
    · have reached := ordered late lateMem
      omega
  refine .inr ⟨⟨start, by simp, inside.1⟩, fits.1, ?_⟩
  rcases lockout.failure_cases stop with ⟨reached, locked⟩ | ⟨below, counted⟩
  · exact .inl ⟨_, locked, by omega⟩
  · refine .inr (.inl ?_)
    rw [counted]
    omega

theorem Pace.outside (pace : Pace windowStart times count lockout)
    (ordered : ∀ time ∈ times, time ≤ start) (outside : inWindow windowStart start = false) :
    Pace windowStart (times ++ [start, stop]) count (lockout.failure stop) := by
  rcases pace with none | ⟨⟨time, timeMem, inside⟩, bounded, _⟩
  · exact .inl none
  · have reached : windowStart ≤ start := inside.trans (ordered time timeMem)
    have passed : windowStart + LOCKOUT_SECS ≤ start := by
      simpa [inWindow, reached] using outside
    exact .inr ⟨⟨start, by simp, reached⟩, bounded, .inr (.inr ⟨start, by simp, passed⟩)⟩

/-- Attempts on one account one after the other, each with a password. -/
abbrev LoginRounds (platform : Platform Provider) (bcrypt : Bcrypt) (thread : ℕ)
    (auth : LocalAuthenticator) (username : String) :=
  Rounds (authMachine platform bcrypt thread) (LockoutKept username)
    (fun password => (auth.login username password).run)

abbrev LoginRound (Provider : Type) :=
  Round (Sum.elim Call.Res AuthCall.Res) (AuthState Provider) String
    (Except LocalAuthError LoginOutcome)

namespace LoginRound

def readings (round : LoginRound Provider) : List ℕ :=
  round.events.filterMap AuthEvent.reading

def verified (round : LoginRound Provider) : Bool :=
  round.events.any AuthEvent.verifies

def startsIn (windowStart : ℕ) (round : LoginRound Provider) : Bool :=
  (readings round).head?.any (inWindow windowStart)

end LoginRound

/-- The logins of a window in which the password is checked. -/
def checkedIn (windowStart : ℕ) (rounds : List (LoginRound Provider)) :
    List (LoginRound Provider) :=
  rounds.filter fun round => round.startsIn windowStart && round.verified

theorem checkedIn_snoc {rounds : List (LoginRound Provider)} {round : LoginRound Provider} :
    (checkedIn windowStart (rounds ++ [round])).length = (checkedIn windowStart rounds).length +
      ((round.events.filterMap AuthEvent.reading).head?.any (inWindow windowStart) &&
        round.events.any AuthEvent.verifies).toNat := by
  have counted : (checkedIn windowStart [round]).length =
      (round.startsIn windowStart && round.verified).toNat := by
    cases chosen : round.startsIn windowStart && round.verified <;> simp [checkedIn, chosen]
  rw [checkedIn, filter_append, length_append]
  exact congrArg _ counted

section Bound

variable {origin : AuthState Provider} {rounds : List (LoginRound Provider)}
  (run : LoginRounds platform bcrypt thread auth username origin rounds final)
  (wrong : ∀ event ∈ history rounds, AuthEvent.rejects event = true)
  (steady : ((history rounds).filterMap AuthEvent.reading).Pairwise (· ≤ ·)) (windowStart : ℕ)

include run wrong steady

theorem LoginRounds.paced
    (enabled : ∃ lockout, lockoutOf username origin = some lockout ∧ lockout.disabled = false) :
    ∃ lockout, lockoutOf username final = some lockout ∧ lockout.disabled = false ∧
      Pace windowStart ((history rounds).filterMap AuthEvent.reading)
        (checkedIn windowStart rounds).length lockout ∧
      ∀ round ∈ rounds, round.verified = false → round.value = .error .locked := by
  induction run with
  | nil =>
    rcases enabled with ⟨lockout, known, usable⟩
    exact ⟨lockout, known, usable, .inl rfl, by simp⟩
  | @snoc rounds before events result after password earlier ran ih =>
    rw [history_append, history_singleton] at wrong steady ⊢
    rw [filterMap_append] at steady ⊢
    rw [pairwise_append] at steady
    rcases ih (fun event eventMem => wrong event (mem_append_left _ eventMem)) steady.1 with
      ⟨lockout, known, usable, pace, others⟩
    rcases login_wrong ran known usable
        (fun event eventMem => wrong event (mem_append_right _ eventMem)) with
      ⟨start, refused⟩ | ⟨start, stop, counted⟩
    · refine ⟨lockout, refused.after, usable, ?_, ?_⟩
      · rw [checkedIn_snoc, refused.verified, Bool.and_false]
        exact pace.later _
      · intro round roundMem unverified
        rcases mem_append.mp roundMem with roundMem | last
        · exact others round roundMem unverified
        · rw [mem_singleton.mp last]
          exact refused.result
    · have ordered : ∀ time ∈ (history rounds).filterMap AuthEvent.reading, time ≤ start := by
        intro time timeMem
        exact steady.2.2 time timeMem start (by simp [counted.readings])
      have spent : start ≤ stop := by simpa [counted.readings] using steady.2.1
      refine ⟨lockout.failure stop, counted.after, usable, ?_, ?_⟩
      · simp [checkedIn_snoc, counted.verified, counted.readings]
        rcases inside : inWindow windowStart start with _ | _
        · exact pace.outside ordered inside
        · exact pace.counted ordered spent counted.unlocked inside
      · intro round roundMem unverified
        rcases mem_append.mp roundMem with roundMem | last
        · exact others round roundMem unverified
        · rw [mem_singleton.mp last] at unverified
          exact absurd (counted.verified.symm.trans unverified) (by decide)

/--
Of the attempts that start within a lockout period, at most five have their password checked, and
every other attempt is refused as locked.
-/
theorem brute_force_bound
    (enabled : ∃ user, origin.2.users.find? username = some user ∧ user.disabled = false) :
    (checkedIn windowStart rounds).length ≤ 5 ∧
      ∀ round ∈ rounds, round.verified = false → round.value = .error .locked := by
  have known : ∃ lockout, lockoutOf username origin = some lockout ∧ lockout.disabled = false := by
    rcases enabled with ⟨user, found, usable⟩
    exact ⟨user.lockout, by simp [lockoutOf, found], usable⟩
  rcases run.paced wrong steady windowStart known with ⟨_, _, _, pace, refused⟩
  exact ⟨pace.le, refused⟩

end Bound

def sixGuesses : Option (List (LoginRound DemoClusters) × AuthState DemoClusters) :=
  executeRounds (authMachine demoPlatform plainBcrypt 0)
    (fun password => (demoAuthenticator.login "alice" password).run)
    (List.replicate 6 "guess") (demoAuth (localUser "alice" .admin))

theorem brute_force_bound_sixGuesses : ∃ rounds final, sixGuesses = some (rounds, final) ∧
    rounds.length = 6 ∧ (checkedIn 0 rounds).length ≤ 5 := by
  rcases executed : sixGuesses with _ | ⟨rounds, final⟩
  · exact absurd executed (by decide)
  have run : LoginRounds demoPlatform plainBcrypt 0 demoAuthenticator "alice"
      (demoAuth (localUser "alice" .admin)) rounds final :=
    rounds_alone (fun _ => rfl) executed
  have facts : sixGuesses.all (fun ran => ran.1.length == 6 &&
      (history ran.1).all AuthEvent.rejects &&
      decide (((history ran.1).filterMap AuthEvent.reading).Pairwise (· ≤ ·))) = true := by
    decide
  simp [executed] at facts
  refine ⟨rounds, final, rfl, facts.1.1, ?_⟩
  exact (brute_force_bound run facts.1.2 facts.2 0 ⟨_, rfl, rfl⟩).1

end Mobula
