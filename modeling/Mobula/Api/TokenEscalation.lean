import Mobula.Api.Edge
import Mobula.Api.LocalAuth

/-!
# Tokens issued to callers of two kinds

With an identity provider and local authentication both configured, any caller may have a token
issued. The token belongs to the local user whose name is the caller's subject, whoever the
caller is.
-/

namespace Mobula

open Foundation LocalAuthApi

variable {Provider Idp α : Type} {platform : Platform Provider} {bcrypt : Bcrypt}
  {idp : IdentityProvider Idp} {thread : ℕ} {layer : AuthLayer} {auth : LocalAuthenticator}
  {text : List Char} {presented lookupPrefix : String} {identity : Identity}
  {state final : AuthState Provider × Idp}

theorem afterUnderscore_eq_some {rest : List Char} (split : afterUnderscore text = some rest) :
    text = '_' :: rest := by
  unfold afterUnderscore at split
  split at split
  · cases split
    rfl
  · cases split

theorem dot_notMem_of_all {accepts : Char → Bool} (accepted : text.all accepts = true)
    (refused : accepts '.' = false) : '.' ∉ text := by
  intro dot
  have holds := List.all_eq_true.mp accepted '.' dot
  simp [refused] at holds

theorem dot_notMem_of_tokenPrefix (found : tokenPrefix presented = some lookupPrefix) :
    '.' ∉ presented.toList := by
  simp only [tokenPrefix, Option.bind_eq_bind, Option.bind_eq_some_iff] at found
  rcases found with ⟨rest, stripped, found⟩
  split at found
  · cases found
  split at found
  · cases found
  next _ alphanumeric =>
    rcases Option.bind_eq_some_iff.mp found with ⟨hex, underscore, found⟩
    split at found
    case isFalse => cases found
    case isTrue digits =>
      have text := toList_of_stripPrefix stripped
      have parts : rest.toList = rest.toList.take TOKEN_PREFIX_LEN ++ '_' :: hex := by
        rw [← afterUnderscore_eq_some underscore, List.take_append_drop]
      rw [not_not] at alphanumeric
      have noneBefore := dot_notMem_of_all alphanumeric rfl
      have noneAfter := dot_notMem_of_all digits rfl
      rw [text, parts]
      simp [noneBefore, noneAfter]

theorem not_isJwtShaped_of_tokenPrefix (found : tokenPrefix presented = some lookupPrefix) :
    isJwtShaped presented = false := by
  simp [isJwtShaped, List.count_eq_zero_of_not_mem (dot_notMem_of_tokenPrefix found)]

theorem of_resolveIdentity_opaque (opaqueToken : isJwtShaped presented = false)
    (ran : (layer.resolveIdentity presented).Yields (oidcMachine platform bcrypt idp thread) state
      (some identity) final) :
    ∃ record user, Accepts bcrypt state.1 presented record user ∧ identity = identityOf user := by
  have resolved : (layer.resolveLocal presented).Yields (oidcMachine platform bcrypt idp thread)
      state (some identity) final := by
    unfold AuthLayer.resolveIdentity at ran
    split at ran
    · simpa [opaqueToken] using ran
    · exact ran
  unfold AuthLayer.resolveLocal at resolved
  split at resolved
  · rcases resolved.of_lowered with ⟨_, authenticated, _⟩
    exact authenticateToken_accepts authenticated
  · cases resolved.of_ret.1

theorem credentials_of_lower {program : AuthProgram α} {state final : AuthState Provider}
    {value : α} (within : program.Within fun call => call.isLeft = true)
    (ran : program.Yields (authMachine platform bcrypt thread) state value final) :
    final.2 = state.2 := by
  apply within.yields_invariant (fun reached => reached.2 = state.2) _ ran rfl
  rintro (lower | upper) before answer after isLeft answered kept
  · rcases Option.map_eq_some_iff.mp answered with ⟨_, _, same⟩
    cases same
    exact kept
  · cases isLeft

theorem auditAllowed_within {subject : Option String} {action method path : String} {status : ℕ} :
    (auditAllowed subject action method path status).Within fun call => call.isLeft = true :=
  Prog.Within.bind (Prog.within_lowered fun _ => rfl) fun _ =>
    Prog.within_lowered fun _ => rfl

/-- A token that was issued belongs to the local user whose name is the caller's subject. -/
theorem createToken_created {body : CreateTokenRequest} {token : String} {expiresAt : ℕ}
    {state final : AuthState Provider}
    (answered : (createToken auth (some identity) body).Yields (authMachine platform bcrypt thread)
      state (createTokenResponse lookupPrefix token expiresAt) final) :
    final.2.users = state.2.users ∧
      ∃ record, final.2.tokens.find? record.lookupPrefix = some record ∧
        tokenPrefix token = some record.lookupPrefix ∧ record.username = identity.subject := by
  rcases answered.of_bind with ⟨result, middle, attempted, rest⟩
  have effect := issueToken_spec attempted
  rcases result with failure | ⟨minted, record⟩
  · cases failure <;> cases rest.of_ret.1
  · rcases rest.of_bind with ⟨_, _, audited, ended⟩
    rcases ended.of_ret with ⟨same, rfl⟩
    have kept := credentials_of_lower auditAllowed_within audited
    rcases effect with ⟨users, gains, _⟩
    simp [createTokenResponse, Response.mk.injEq, Body.json.injEq, Json.obj.injEq] at same
    rw [kept]
    refine ⟨users, record, ?_, ?_, gains.username⟩
    · rw [gains.lookupPrefix, gains.find?]
    · rw [same.2.1, gains.found]

/-- The local user with the caller's subject as name, if there is one, has one of its roles. -/
def LocalRoleHeld (held : Credentials) (identity : Identity) : Prop :=
  ∀ user, held.users.find? identity.subject = some user → user.role.toRole ∈ identity.roles

/-- A caller with an opaque token has the role of the local user it belongs to. -/
theorem localRoleHeld_of_opaque (opaqueToken : isJwtShaped presented = false)
    (ran : (layer.resolveIdentity presented).Yields (oidcMachine platform bcrypt idp thread) state
      (some identity) final) : LocalRoleHeld state.1.2 identity := by
  rcases of_resolveIdentity_opaque opaqueToken ran with ⟨record, owner, accepts, rfl⟩
  intro user found
  have sameName : owner.username = record.username :=
    (Table.find?_eq_some_iff.mp accepts.owner).2
  have ownerFound : state.1.2.users.find? owner.username = some owner := by
    rw [sameName]
    exact accepts.owner
  cases ownerFound.symm.trans found
  simp [identityOf]

/--
The token that a caller was just issued carries no role that the caller lacks
exactly if the local user with the caller's subject as name has one of the
caller's roles. A caller with a token of that user does, unless the user was
changed since the token was resolved.
-/
theorem issued_token_roles_iff {presented lookupPrefix token : String}
    {identity granted : Identity} {body : CreateTokenRequest} {expiresAt : ℕ}
    {asked resolvedAt posted created final : AuthState Provider × Idp}
    (resolved : (layer.resolveIdentity presented).Yields (oidcMachine platform bcrypt idp thread)
      asked (some identity) resolvedAt)
    (answered : (createToken auth (some identity) body).lowered.Yields
      (oidcMachine platform bcrypt idp thread) posted
      (createTokenResponse lookupPrefix token expiresAt) created)
    (authenticated : (layer.resolveIdentity token).Yields
      (oidcMachine platform bcrypt idp thread) created (some granted) final) :
    ((∀ role ∈ granted.roles, role ∈ identity.roles) ↔ LocalRoleHeld posted.1.2 identity) ∧
      (isJwtShaped presented = false → posted.1.2.users = asked.1.2.users →
        ∀ role ∈ granted.roles, role ∈ identity.roles) := by
  rcases answered.of_lowered with ⟨_, issued, rfl⟩
  rcases createToken_created issued with ⟨users, record, stored, lookup, owner⟩
  rcases of_resolveIdentity_opaque (not_isJwtShaped_of_tokenPrefix lookup) authenticated with
    ⟨found, user, accepts, rfl⟩
  have sameKey : record.lookupPrefix = found.lookupPrefix :=
    Option.some.inj (lookup.symm.trans accepts.lookup)
  have sameRecord : record = found :=
    Option.some.inj (stored.symm.trans (sameKey ▸ Table.find?_of_mem accepts.stored))
  subst sameRecord
  have userFound : posted.1.2.users.find? identity.subject = some user := by
    rw [← users, ← owner]
    exact accepts.owner
  have exactly : (∀ role ∈ (identityOf user).roles, role ∈ identity.roles) ↔
      LocalRoleHeld posted.1.2 identity := by
    simp [identityOf, LocalRoleHeld, userFound]
  refine ⟨exactly, fun opaqueToken unchanged => exactly.mpr ?_⟩
  intro holder holderFound
  rw [unchanged] at holderFound
  exact localRoleHeld_of_opaque opaqueToken resolved holder holderFound

/-- An identity provider all of whose tokens are those of one subject. -/
def subjectIdp (subject : String) : IdentityProvider Unit where
  decodeHeader := fun _ => .ok ⟨.rs256, some "key"⟩
  key := fun _ _ => some ⟨.null⟩
  refreshJwks := fun _ => (.ok (), ())
  decode := fun _ _ _ _ => .ok (.obj [("sub", .str subject)])

def bothLayer : AuthLayer := { demoLayer with localAuth := some demoAuthenticator }

def aliceReader : Identity := ⟨"alice", none, [.viewer], []⟩

/-- A caller that may read has a token issued and uses it; a local user has the same name. -/
def AliceGranted (role : LocalRole) (granted : Identity) : Prop :=
  ∃ expiresAt created final,
    (bothLayer.resolveIdentity "a.b.c").Yields
      (oidcMachine demoPlatform plainBcrypt (subjectIdp "alice") 0)
      (demoAuth (localUser "alice" role), ()) (some aliceReader)
      (demoAuth (localUser "alice" role), ()) ∧
    (createToken demoAuthenticator (some aliceReader) ⟨"cli", 1⟩).lowered.Yields
      (oidcMachine demoPlatform plainBcrypt (subjectIdp "alice") 0)
      (demoAuth (localUser "alice" role), ())
      (createTokenResponse "aaaaaaaa" plainParts.token expiresAt) created ∧
    (bothLayer.resolveIdentity plainParts.token).Yields
      (oidcMachine demoPlatform plainBcrypt (subjectIdp "alice") 0) created (some granted) final

theorem alice_granted (role : LocalRole) :
    AliceGranted role (identityOf (localUser "alice" role)) :=
  ⟨_, _, _, ⟨_, rfl⟩, ⟨_, rfl⟩, ⟨_, rfl⟩⟩

theorem issued_token_roles_of_viewer :
    LocalRoleHeld (demoAuth (localUser "alice" .viewer)).2 aliceReader ∧
      ∀ role ∈ (identityOf (localUser "alice" .viewer)).roles, role ∈ aliceReader.roles := by
  rcases alice_granted .viewer with ⟨_, _, _, resolved, answered, authenticated⟩
  have held : LocalRoleHeld (demoAuth (localUser "alice" .viewer)).2 aliceReader := by
    intro user found
    cases found
    decide
  exact ⟨held, (issued_token_roles_iff resolved answered authenticated).1.mpr held⟩

/-- A caller that may only read is issued a token of the local administrator of the same name. -/
theorem issued_token_escalates : ∃ granted, AliceGranted .admin granted ∧
    Role.admin ∈ granted.roles ∧ Role.admin ∉ aliceReader.roles :=
  ⟨_, alice_granted .admin, by decide, by decide⟩

end Mobula
