import Mobula.Api.LocalAuth

/-!
# The authority of tokens

Every token row accounts for itself in the history of requests: some response carried its token,
and as long as it is not revoked no later request by its owner revoked it.
-/

namespace Mobula

open Foundation LocalAuthApi Prog Within

variable {Provider α : Type} {platform : Platform Provider} {bcrypt : Bcrypt} {thread : ℕ}
  {auth : LocalAuthenticator} {state final : AuthState Provider} {request : AuthRequest}
  {response : Response}

/-- A response hands out a token of a user that is good up to a time. -/
inductive Issues : AuthRequest → Response → String → String → ℕ → Prop
  | login (body : LoginRequest) (token : String) (expiresAt : ℕ) (identity : Identity) :
      Issues (.login body) (loginResponse token expiresAt identity) token body.username expiresAt
  | createToken (identity : Identity) (body : CreateTokenRequest) (lookupPrefix token : String)
      (expiresAt : ℕ) :
      Issues (.createToken (some identity) body) (createTokenResponse lookupPrefix token expiresAt)
        token identity.subject expiresAt

/-- A request by a user that asks for the revocation of a token, and its success. -/
inductive Revokes : AuthRequest → Response → String → String → Prop
  | revokeToken (identity : Identity) (lookupPrefix : String) :
      Revokes (.revokeToken (some identity) lookupPrefix) noContent lookupPrefix identity.subject
  | logout (identity : Identity) (authorization : Option String) (lookupPrefix : String)
      (carried : bearerPrefix authorization = some lookupPrefix) :
      Revokes (.logout (some identity) authorization) noContent lookupPrefix identity.subject

abbrev AuthHistory := List (AuthRequest × Response)

/-- Requests handled one after the other, with tokens presented in between. -/
inductive AuthRun (platform : Platform Provider) (bcrypt : Bcrypt) (auth : LocalAuthenticator)
    (origin : AuthState Provider) : AuthHistory → AuthState Provider → Prop
  | refl : AuthRun platform bcrypt auth origin [] origin
  | handled {history before after} (thread : ℕ) (request : AuthRequest) (response : Response)
      (run : AuthRun platform bcrypt auth origin history before)
      (answered : (request.handle auth).Yields (authMachine platform bcrypt thread) before
        response after) :
      AuthRun platform bcrypt auth origin (history ++ [(request, response)]) after
  | presented {history before after} (thread : ℕ) (token : String) (identity : Caller)
      (run : AuthRun platform bcrypt auth origin history before)
      (checked : (authenticateToken token).Yields (authMachine platform bcrypt thread) before
        identity after) :
      AuthRun platform bcrypt auth origin history after
  | elsewhere {history before} (world : World Provider)
      (run : AuthRun platform bcrypt auth origin history before) :
      AuthRun platform bcrypt auth origin history (world, before.2)

/-- A row of the token table before or after a request. -/
structure Handed (bcrypt : Bcrypt) (request : AuthRequest) (response : Response) (token : String)
    (row : ApiTokenRecord) : Prop where
  issued : Issues request response token row.username row.expiresAt
  lookup : tokenPrefix token = some row.lookupPrefix
  hashed : ∃ salt, bcrypt.hash salt token = .ok row.tokenHash

/--
What a request does to the token table: a row was there before and is not one that the
request revokes, unless it is revoked now, or its token is in the response.
-/
def AccountsForTokens (bcrypt : Bcrypt) (request : AuthRequest) (response : Response)
    (before after : Credentials) : Prop :=
  ∀ row ∈ after.tokens.rows,
    (∃ old ∈ before.tokens.rows, ∃ revoked lastUsedAt, row = { old with revoked, lastUsedAt } ∧
      (revoked = false → old.revoked = false ∧
        ¬ Revokes request response old.lookupPrefix old.username)) ∨
    ∃ token, Handed bcrypt request response token row

variable {before after : Credentials} {username lookupPrefix : String} {identity : Caller}
  {history : AuthHistory}

theorem accounts_of_persists (persists : Persists before.tokens after.tokens)
    (revoked : ∀ lookupPrefix username, Revokes request response lookupPrefix username →
      Revoked after lookupPrefix username) :
    AccountsForTokens bcrypt request response before after := by
  intro row stored
  rcases persists row stored with ⟨old, oldStored, valid, lastUsedAt, rfl, kept⟩
  refine .inl ⟨old, oldStored, valid, lastUsedAt, rfl, fun unrevoked => ⟨kept unrevoked, ?_⟩⟩
  intro revokes
  have gone : valid = true := revoked _ _ revokes _ stored rfl rfl
  cases unrevoked.symm.trans gone

theorem accounts_of_kept (kept : after.tokens = before.tokens)
    (revokesNothing : ∀ lookupPrefix username, ¬ Revokes request response lookupPrefix username) :
    AccountsForTokens bcrypt request response before after := by
  apply accounts_of_persists
  · rw [kept]
    exact .refl _
  · intro lookupPrefix username revokes
    exact absurd revokes (revokesNothing _ _)

theorem emitNow_within {event : AuditEvent} :
    (emitNow event).Within fun call => keepsTokens call = true :=
  bind (within_lowered fun _ => rfl) fun _ =>
    within_lowered fun _ => rfl

theorem accounts_of_gains {minted : MintedToken} {expiresAt : ℕ} {record : ApiTokenRecord}
    (gains : Gains bcrypt before after minted username expiresAt record)
    (issued : Issues request response minted.token username expiresAt)
    (revokesNothing : ∀ lookupPrefix username, ¬ Revokes request response lookupPrefix username) :
    AccountsForTokens bcrypt request response before after := by
  intro row stored
  rw [gains.added] at stored
  rcases Table.mem_insert.mp stored with rfl | ⟨stored, _⟩
  · refine .inr ⟨minted.token, ?_, gains.found, gains.hashed⟩
    rw [gains.username, gains.expiresAt]
    exact issued
  · exact .inl ⟨row, stored, row.revoked, row.lastUsedAt, rfl,
      fun valid => ⟨valid, revokesNothing _ _⟩⟩

theorem login_accounts {body : LoginRequest}
    (answered : (LocalAuthApi.login auth body).Yields (authMachine platform bcrypt thread) state
      response final) :
    AccountsForTokens bcrypt (.login body) response state.2 final.2 := by
  have revokesNothing : ∀ lookupPrefix username,
      ¬ Revokes (.login body) response lookupPrefix username := by
    intro lookupPrefix username revokes
    cases revokes
  rcases answered.of_bind with ⟨result, middle, attempted, rest⟩
  have effect := login_spec attempted
  rcases result with failure | outcome
  · rcases rest.of_bind with ⟨_, _, audited, ended⟩
    rcases ended.of_ret with ⟨rfl, rfl⟩
    have kept := (tokens_of_within emitNow_within audited).trans effect
    exact accounts_of_kept kept revokesNothing
  · rcases rest.of_bind with ⟨_, _, audited, ended⟩
    rcases ended.of_ret with ⟨rfl, rfl⟩
    rcases effect with ⟨record, gains⟩
    have kept := tokens_of_within emitNow_within audited
    exact accounts_of_gains { gains with added := kept.trans gains.added }
      (.login body _ _ _) revokesNothing

theorem createToken_accounts {body : CreateTokenRequest}
    (answered : (LocalAuthApi.createToken auth identity body).Yields
      (authMachine platform bcrypt thread) state response final) :
    AccountsForTokens bcrypt (.createToken identity body) response state.2 final.2 := by
  have revokesNothing : ∀ lookupPrefix username,
      ¬ Revokes (.createToken identity body) response lookupPrefix username := by
    intro lookupPrefix username revokes
    cases revokes
  cases identity with
  | none =>
    rcases answered.of_ret with ⟨rfl, rfl⟩
    exact accounts_of_kept rfl revokesNothing
  | some identity =>
    rcases answered.of_bind with ⟨result, middle, attempted, rest⟩
    have effect := (issueToken_spec attempted).2
    rcases result with failure | ⟨minted, record⟩
    · have unchanged : final = middle := by
        cases failure <;> exact rest.of_ret.2
      rw [unchanged]
      exact accounts_of_kept effect revokesNothing
    · rcases rest.of_bind with ⟨_, _, audited, ended⟩
      rcases ended.of_ret with ⟨rfl, rfl⟩
      have kept := tokens_of_within emitNow_within audited
      exact accounts_of_gains { effect.1 with added := kept.trans effect.1.added }
        (.createToken identity body _ _ _) revokesNothing

theorem Revoked.of_tokens (revoked : Revoked before lookupPrefix username)
    (kept : after.tokens = before.tokens) : Revoked after lookupPrefix username := by
  intro row stored
  rw [kept] at stored
  exact revoked row stored

theorem revokeToken_accounts (answered : (LocalAuthApi.revokeToken identity lookupPrefix).Yields
      (authMachine platform bcrypt thread) state response final) :
    AccountsForTokens bcrypt (.revokeToken identity lookupPrefix) response state.2 final.2 := by
  cases identity with
  | none =>
    rcases answered.of_ret with ⟨rfl, rfl⟩
    exact accounts_of_kept rfl fun _ _ revokes => by cases revokes
  | some identity =>
    have rest := of_perform answered
    have persists := revokeApiToken_persists state.2 lookupPrefix identity.subject
    have revoked := revokeApiToken_revokes state.2 lookupPrefix identity.subject
    dsimp only [execCredentials] at rest
    split at rest
    case h_1 =>
      rcases rest.of_bind with ⟨_, _, audited, ended⟩
      rcases ended.of_ret with ⟨rfl, rfl⟩
      have kept := tokens_of_within emitNow_within audited
      apply accounts_of_persists
      · rw [kept]
        exact persists
      · intro _ _ revokes
        cases revokes
        exact revoked.of_tokens kept
    case h_2 =>
      rcases rest.of_ret with ⟨rfl, rfl⟩
      apply accounts_of_persists persists
      intro _ _ revokes
      cases revokes

theorem logout_accounts {authorization : Option String}
    (answered : (LocalAuthApi.logout identity authorization).Yields
      (authMachine platform bcrypt thread) state response final) :
    AccountsForTokens bcrypt (.logout identity authorization) response state.2 final.2 := by
  cases identity with
  | none =>
    rcases answered.of_ret with ⟨rfl, rfl⟩
    exact accounts_of_kept rfl fun _ _ revokes => by cases revokes
  | some identity =>
    rcases answered.of_bind with ⟨_, middle, revoking, rest⟩
    rcases rest.of_bind with ⟨_, _, audited, ended⟩
    rcases ended.of_ret with ⟨rfl, rfl⟩
    have kept := tokens_of_within emitNow_within audited
    cases carried : bearerPrefix authorization with
    | none =>
      rw [carried] at revoking
      rcases revoking.of_ret with ⟨_, rfl⟩
      apply accounts_of_kept kept
      intro _ _ revokes
      cases revokes with
      | logout _ _ _ present => cases carried.symm.trans present
    | some lookupPrefix =>
      rw [carried] at revoking
      rcases (of_perform revoking).of_ret with ⟨_, rfl⟩
      apply accounts_of_persists
      · rw [kept]
        exact revokeApiToken_persists _ _ _
      · intro _ _ revokes
        cases revokes with
        | logout _ _ _ present =>
          cases carried.symm.trans present
          exact (revokeApiToken_revokes _ _ _).of_tokens kept

theorem hashPassword_within {password : String} :
    (hashPassword password).run.Within fun call => keepsTokens call = true := by
  refine invoke (by rfl) fun answer => ?_
  rcases answer with (_ | _) | _ <;> trivial

theorem requireAdmin_within : (requireAdmin identity).Within fun call => keepsTokens call = true :=
  within_lowered fun _ => rfl

theorem createUser_within {body : CreateUserRequest} :
    (LocalAuthApi.createUser identity body).Within fun call => keepsTokens call = true := by
  refine bind requireAdmin_within fun denial => ?_
  rcases denial with _ | denial
  case some => trivial
  dsimp only
  split
  · trivial
  split
  · trivial
  refine invoke (by rfl) fun found => ?_
  rcases found with _ | _ | taken
  · trivial
  · refine bind hashPassword_within fun hash => ?_
    rcases hash with _ | hash
    · trivial
    refine invoke (by rfl) fun created => ?_
    rcases created with _ | _
    · trivial
    · exact bind emitNow_within fun _ =>
        invoke (by rfl) fun _ => trivial
  · trivial

theorem orStoreFailed_within {operation : AuthProgram (StoreResult Unit)}
    (within : operation.Within fun call => keepsTokens call = true) :
    (orStoreFailed operation).Within fun call => keepsTokens call = true := by
  refine bind within fun answer => ?_
  rcases answer with _ | _ <;> trivial

theorem applyIfGiven_within {given : Option α} {change : α → AuthProgram (Option Response)}
    (within : ∀ value, (change value).Within fun call => keepsTokens call = true) :
    (applyIfGiven given change).Within fun call => keepsTokens call = true := by
  rcases given with _ | value
  · trivial
  · exact within value

theorem changePassword_within (username password : String) :
    (changePassword username password).Within fun call => keepsTokens call = true := by
  refine bind hashPassword_within fun hash => ?_
  rcases hash with _ | hash
  · trivial
  · exact orStoreFailed_within (within_invoke (by rfl))

theorem updateUser_within {body : UpdateUserRequest} :
    (LocalAuthApi.updateUser identity username body).Within
      fun call => keepsTokens call = true := by
  refine bind requireAdmin_within fun denial => ?_
  rcases denial with _ | denial
  case some => trivial
  dsimp only
  split
  · trivial
  refine invoke (by rfl) fun found => ?_
  rcases found with _ | _ | user
  · trivial
  · trivial
  refine bind (applyIfGiven_within fun role =>
    orStoreFailed_within (within_invoke (by rfl))) fun failed => ?_
  rcases failed with _ | failed
  case some => trivial
  refine bind (applyIfGiven_within fun disabled =>
    orStoreFailed_within (within_invoke (by rfl))) fun failed => ?_
  rcases failed with _ | failed
  case some => trivial
  refine bind (applyIfGiven_within (changePassword_within username)) fun failed => ?_
  rcases failed with _ | failed
  case some => trivial
  exact bind emitNow_within fun _ => trivial

theorem handle_accounts
    (answered : (request.handle auth).Yields (authMachine platform bcrypt thread) state response
      final) :
    AccountsForTokens bcrypt request response state.2 final.2 := by
  cases request with
  | login body => exact login_accounts answered
  | createToken identity body => exact createToken_accounts answered
  | revokeToken identity lookupPrefix => exact revokeToken_accounts answered
  | logout identity authorization => exact logout_accounts answered
  | createUser identity body =>
    exact accounts_of_kept (tokens_of_within createUser_within answered)
      fun _ _ revokes => by cases revokes
  | updateUser identity username body =>
    exact accounts_of_kept (tokens_of_within updateUser_within answered)
      fun _ _ revokes => by cases revokes

/-- Every token row has its token in the history, and its owner did not revoke it after that. -/
def TokensAccounted (bcrypt : Bcrypt) (history : AuthHistory) (held : Credentials) : Prop :=
  ∀ row ∈ held.tokens.rows, ∃ earlier request response later token,
    history = earlier ++ (request, response) :: later ∧
      Handed bcrypt request response token row ∧
      (row.revoked = false → ∀ event ∈ later,
        ¬ Revokes event.1 event.2 row.lookupPrefix row.username)

theorem TokensAccounted.persists (accounted : TokensAccounted bcrypt history before)
    (persists : Persists before.tokens after.tokens) : TokensAccounted bcrypt history after := by
  intro row stored
  rcases persists row stored with ⟨old, oldStored, revoked, lastUsedAt, rfl, kept⟩
  rcases accounted old oldStored with
    ⟨earlier, request, response, later, token, split, handed, unrevoked⟩
  exact ⟨earlier, request, response, later, token, split,
    ⟨handed.issued, handed.lookup, handed.hashed⟩, fun valid => unrevoked (kept valid)⟩

theorem TokensAccounted.handled (accounted : TokensAccounted bcrypt history before)
    (accounts : AccountsForTokens bcrypt request response before after) :
    TokensAccounted bcrypt (history ++ [(request, response)]) after := by
  intro row stored
  rcases accounts row stored with
    ⟨old, oldStored, revoked, lastUsedAt, rfl, kept⟩ | ⟨token, handed⟩
  · rcases accounted old oldStored with
      ⟨earlier, issuer, issue, later, token, rfl, handed, unrevoked⟩
    refine ⟨earlier, issuer, issue, later ++ [(request, response)], token, by simp,
      ⟨handed.issued, handed.lookup, handed.hashed⟩, ?_⟩
    intro valid event eventMem
    rcases List.mem_append.mp eventMem with before | last
    · exact unrevoked (kept valid).1 event before
    · rw [List.mem_singleton.mp last]
      exact (kept valid).2
  · exact ⟨history, request, response, [], token, rfl, handed, fun _ event none => by cases none⟩

theorem AuthRun.accounted {origin : AuthState Provider}
    (run : AuthRun platform bcrypt auth origin history state)
    (fresh : origin.2.tokens = Table.empty) : TokensAccounted bcrypt history state.2 := by
  induction run with
  | refl =>
    intro row stored
    rw [fresh] at stored
    cases stored
  | handled thread request response _ answered ih => exact ih.handled (handle_accounts answered)
  | presented thread token identity _ checked ih =>
    exact ih.persists (authenticateToken_persists checked)
  | elsewhere world _ ih => exact ih

/-- bcrypt accepts for a hash only the text that was hashed. -/
def Bcrypt.Sound (bcrypt : Bcrypt) : Prop :=
  ∀ salt text hash presented, bcrypt.hash salt text = .ok hash →
    bcrypt.verify presented hash = .ok true → presented = text

theorem Bcrypt.Sound.eq_of_accepts (sound : bcrypt.Sound) {salt : ℕ} {text hash presented : String}
    (hashed : bcrypt.hash salt text = .ok hash) (accepted : bcrypt.accepts presented hash = true) :
    presented = text := by
  apply sound salt text hash presented hashed
  unfold Bcrypt.accepts at accepted
  rcases answer : bcrypt.verify presented hash with failure | verdict
  · simp [answer] at accepted
  · simpa [answer] using accepted

/--
A token that is accepted was handed out to a user in some response, that user has not revoked it
since, it has not expired, the user is enabled, and it gives the user's current role and no other.
-/
theorem token_authority {origin : AuthState Provider} {history : AuthHistory} {presented : String}
    {identity : Identity} (sound : bcrypt.Sound)
    (run : AuthRun platform bcrypt auth origin history state)
    (fresh : origin.2.tokens = Table.empty)
    (accepted : (authenticateToken presented).Yields (authMachine platform bcrypt thread) state
      (some identity) final) :
    ∃ earlier request response later user expiresAt,
      history = earlier ++ (request, response) :: later ∧
      Issues request response presented user.username expiresAt ∧
      (∀ event ∈ later, ∀ lookupPrefix, tokenPrefix presented = some lookupPrefix →
        ¬ Revokes event.1 event.2 lookupPrefix user.username) ∧
      state.1.now < expiresAt ∧
      state.2.users.find? user.username = some user ∧ user.disabled = false ∧
      identity.subject = user.username ∧ identity.roles = [user.role.toRole] := by
  rcases authenticateToken_accepts accepted with ⟨record, user, accepts, rfl⟩
  rcases run.accounted fresh record accepts.stored with
    ⟨earlier, request, response, later, token, split, handed, unrevoked⟩
  rcases handed.hashed with ⟨salt, hashed⟩
  have same : presented = token := sound.eq_of_accepts hashed accepts.verified
  have owner : user.username = record.username := Table.key_of_find? accepts.owner
  refine ⟨earlier, request, response, later, user, record.expiresAt, split, ?_, ?_,
    accepts.unexpired, ?_, accepts.enabled, rfl, rfl⟩
  · rw [same, owner]
    exact handed.issued
  · intro event eventMem lookupPrefix found
    cases accepts.lookup.symm.trans found
    rw [owner]
    exact unrevoked accepts.valid event eventMem
  · rw [owner]
    exact accepts.owner

theorem plainBcrypt_sound : plainBcrypt.Sound := by
  intro salt text hash presented hashed accepted
  simp [plainBcrypt] at hashed accepted
  rw [hashed]
  simpa using accepted

def aliceLogin : AuthRequest × Response :=
  (.login ⟨"alice", "password"⟩,
    loginResponse plainParts.token 3600 (identityOf (localUser "alice" .admin)))

theorem aliceLogin_accepted : ∃ state final,
    AuthRun demoPlatform plainBcrypt demoAuthenticator (demoAuth (localUser "alice" .admin))
      [aliceLogin] state ∧
    (authenticateToken plainParts.token).Yields (authMachine demoPlatform plainBcrypt 0) state
      (some (identityOf (localUser "alice" .admin))) final :=
  ⟨_, _, .handled 0 _ _ .refl ⟨_, rfl⟩, ⟨_, rfl⟩⟩

theorem token_authority_of_login : ∃ state final expiresAt,
    AuthRun demoPlatform plainBcrypt demoAuthenticator (demoAuth (localUser "alice" .admin))
      [aliceLogin] state ∧
    (authenticateToken plainParts.token).Yields (authMachine demoPlatform plainBcrypt 0) state
      (some (identityOf (localUser "alice" .admin))) final ∧
    state.1.now < expiresAt := by
  rcases aliceLogin_accepted with ⟨state, final, run, accepted⟩
  rcases token_authority plainBcrypt_sound run rfl accepted with
    ⟨_, _, _, _, _, expiresAt, _, _, _, unexpired, _⟩
  exact ⟨state, final, expiresAt, run, accepted, unexpired⟩

end Mobula
