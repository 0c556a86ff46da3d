import TokenDealer.CredentialSoundness

set_option autoImplicit true

namespace TokenDealer

/-- The requests that need credentials. -/
def AuthRequest.Guarded (req : AuthRequest) : Prop :=
  (Str.startsWith req.path "/v1/" = true ∧ req.method ≠ "OPTIONS" ∨
    Str.startsWith req.path "/ui/" = true ∨ Str.startsWith req.path "/admin/" = true) ∧
  AuthMiddleware.isPublicPath req.path = false

/-- The answers 401 and 303. -/
def Decision.Refuses (decision : Decision) : Prop :=
  (∃ message, decision = .unauthorized message) ∨ ∃ location, decision = .seeOther location

namespace AuthMiddleware

section

variable {env : String → Option String} {store : UserStore} {auth : AuthConfig}
  {req : AuthRequest} {ctx : UserContext} {presented : String}

theorem uiOrAdminUnauthorized_refuses (req : AuthRequest) :
    (uiOrAdminUnauthorized req).Refuses := by
  rw [uiOrAdminUnauthorized]
  split
  · split
    · exact .inl ⟨_, rfl⟩
    · exact .inr ⟨_, rfl⟩
  · exact .inr ⟨_, rfl⟩

/-- Without credentials a guarded request is turned away. -/
theorem anonymous_refuses (henabled : auth.enabled = true) (hguarded : req.Guarded) :
    (anonymous auth req).Refuses := by
  obtain ⟨hpath, hpublic⟩ := hguarded
  rw [anonymous, henabled, hpublic, Bool.not_true, if_neg Bool.false_ne_true,
    if_neg Bool.false_ne_true]
  split
  · exact .inl ⟨_, rfl⟩
  · rename_i hv1
    rw [Bool.and_eq_true, decide_eq_true_eq] at hv1
    rw [if_pos (Bool.or_eq_true_iff.mpr (hpath.resolve_left hv1))]
    exact uiOrAdminUnauthorized_refuses req

/-- A guarded request is passed on with a context of its token or of a session, or refused. -/
theorem middleware_guarded (henabled : auth.enabled = true) (hguarded : req.Guarded) :
    (∃ context, middleware env store auth req = .next context ∧
      (tokenContext env store auth (extractToken req) = some context ∨
        sessionContext store req = some context)) ∨
    (middleware env store auth req).Refuses := by
  rw [middleware]
  cases htoken : tokenContext env store auth (extractToken req) with
  | some context => exact .inl ⟨context, rfl, .inl rfl⟩
  | none =>
    rw [Option.none_or]
    cases hsession : sessionContext store req with
    | some context => exact .inl ⟨context, rfl, .inr rfl⟩
    | none => exact .inr (anonymous_refuses henabled hguarded)

/-- What the context of a token is made from. -/
theorem tokenContext_eq_some (h : tokenContext env store auth presented = some ctx) :
    presented ≠ "" ∧
      ((∃ user front, store.getUserByApiKey presented = some (user, front) ∧
          ctx.role = user.role) ∨
        (presented ∈ keysFromConfig env auth ∧ ctx.role = .admin) ∨
        (env "TOKEN_DEALER_ADMIN_PASSWORD" = some presented ∧ ctx.role = .admin)) := by
  rw [tokenContext] at h
  split at h
  · cases h
  · rename_i hne
    refine ⟨hne, ?_⟩
    rcases Option.or_eq_some_iff.mp h with h | ⟨-, h⟩
    · rw [apiKeyContext] at h
      split at h
      · obtain ⟨⟨user, front⟩, hfound, rfl⟩ := Option.map_eq_some_iff.mp h
        exact .inl ⟨user, front, hfound, rfl⟩
      · cases h
    · rcases Option.or_eq_some_iff.mp h with h | ⟨-, h⟩
      · rw [legacyKeyContext] at h
        split at h
        · rename_i hcheck
          cases h
          exact .inr (.inl ⟨(check_iff.mp (Bool.and_eq_true_iff.mp hcheck).2).2, rfl⟩)
        · cases h
      · have hsome := (isSome_envPasswordContext hne).mp (Option.isSome_of_mem h)
        rw [envPasswordContext, hsome] at h
        dsimp only at h
        split at h
        · cases h
          exact .inr (.inr ⟨hsome, rfl⟩)
        · cases h

theorem sessionContext_eq_some (h : sessionContext store req = some ctx) :
    ∃ header value user sessionId, req.cookie = some header ∧
      (sessionCookie, value) ∈ parseCookies header ∧
      store.getSession value = some (user, sessionId) ∧ ctx.role = user.role := by
  rw [sessionContext] at h
  split at h
  · cases h
  · rename_i header hcookie
    obtain ⟨⟨name, value⟩, hmem, hfound⟩ := List.exists_of_findSome?_eq_some h
    dsimp only at hfound
    split at hfound
    · rename_i hname
      obtain ⟨⟨user, sessionId⟩, hsession, rfl⟩ := Option.map_eq_some_iff.mp hfound
      exact ⟨header, value, user, sessionId, hcookie, hname ▸ hmem, hsession, rfl⟩
    · cases hfound

end

section Gate

variable (env : String → Option String) (tools : StoreTools) (t : Tables) (now : Utc)
  (auth : AuthConfig) (req : AuthRequest)

/-- The user tables have a key of the user that is not revoked. -/
def LiveKey (presented : String) (u : User) : Prop :=
  ∃ k ∈ t.apiKeys.rows, k.keyHash = tools.sha256Hex presented ∧ k.revoked = false ∧
    ∃ r ∈ t.users.rows, r.id = k.userId ∧ r.user = u

/-- They have a session of the user that is not over. -/
def LiveSession (value : String) (u : User) : Prop :=
  ∃ s ∈ t.sessions.rows, s.sessionHash = tools.sha256Hex value ∧
    (∃ expires, s.expiresAt = Calendar.rfc3339 expires ∧ now < expires) ∧
    ∃ r ∈ t.users.rows, r.id = s.userId ∧ r.user = u

/-- What a request can be let in by, and with which role. -/
inductive Admits : UserRole → Prop
  | apiKey (u : User) (hlive : LiveKey tools t (extractToken req) u) : Admits u.role
  | configured (hne : extractToken req ≠ "")
    (hkey : auth.adminKey = some (extractToken req) ∨
      (∃ k ∈ auth.keys, k.key = extractToken req) ∨
      env "ROUTER_MASTER_KEY" = some (extractToken req)) : Admits .admin
  | envPassword (hne : extractToken req ≠ "")
    (hpassword : env "TOKEN_DEALER_ADMIN_PASSWORD" = some (extractToken req)) : Admits .admin
  | session (header value : String) (u : User) (hcookie : req.cookie = some header)
    (hvalue : (sessionCookie, value) ∈ parseCookies header)
    (hlive : LiveSession tools t now value u) : Admits u.role

end Gate

section

variable {env : String → Option String} {tools : StoreTools} {t : Tables} {now : Utc}
  {auth : AuthConfig} {req : AuthRequest}

theorem liveKey_of_userStore
    (h : (t.userStore tools now).getUserByApiKey presented = some (user, front)) :
    LiveKey tools t presented user := by
  simp only [Tables.userStore] at h
  split at h
  · rename_i record key hfound
    cases h
    obtain ⟨k, r, hmem, -, hr⟩ :=
      (Tables.getUserByApiKey_eq_some tools t now presented record.toUser key.keyPrefix).mp
        ⟨record, key, hfound, rfl, rfl⟩
    obtain ⟨⟨hk, hhash, hlive⟩, hrow, hid⟩ := Tables.mem_selectApiKey.mp hmem
    exact ⟨k, hk, hhash, hlive, r, hrow, hid, hr⟩
  · cases h

/-- The tables never answer for a session. -/
theorem getSession_userStore (tools : StoreTools) (t : Tables) (now : Utc) (value : String) :
    (t.userStore tools now).getSession value = none := by
  simp only [Tables.userStore]
  split
  · rename_i session user hfound
    exact absurd hfound (Tables.getSession_ne_some tools t now value (session, user))
  · rfl

/-- A guarded request is passed on by a live key, a configured key, the password of the environment
or a live session, with the role that goes with it, or it is refused. -/
theorem gate_sound (henabled : auth.enabled = true) (hguarded : req.Guarded) :
    ((∃ context, middleware env (t.userStore tools now) auth req = .next context ∧
        Admits env tools t now auth req context.role) ∨
      (middleware env (t.userStore tools now) auth req).Refuses) ∧
    ((∀ role, ¬ Admits env tools t now auth req role) →
      (middleware env (t.userStore tools now) auth req).Refuses) := by
  have hcases : (∃ context, middleware env (t.userStore tools now) auth req = .next context ∧
        Admits env tools t now auth req context.role) ∨
      (middleware env (t.userStore tools now) auth req).Refuses := by
    apply (middleware_guarded henabled hguarded).imp_left
    intro h
    obtain ⟨context, hnext, hfrom⟩ := h
    refine ⟨context, hnext, ?_⟩
    rcases hfrom with htoken | hsession
    · obtain ⟨hne, hfrom⟩ := tokenContext_eq_some htoken
      rcases hfrom with ⟨user, front, hfound, hrole⟩ | ⟨hkey, hrole⟩ | ⟨hpassword, hrole⟩
      · exact hrole ▸ .apiKey user (liveKey_of_userStore hfound)
      · rw [mem_keysFromConfig, List.mem_map] at hkey
        exact hrole ▸ .configured hne hkey.2
      · exact hrole ▸ .envPassword hne hpassword
    · obtain ⟨_, value, _, _, -, -, hfound, -⟩ := sessionContext_eq_some hsession
      rw [getSession_userStore] at hfound
      cases hfound
  refine ⟨hcases, fun hnone => hcases.resolve_left ?_⟩
  intro h
  obtain ⟨context, -, hadmits⟩ := h
  exact hnone context.role hadmits

end

section Samples

open Tables

/-- A request to the admin routes with the sample key. -/
def sampleKeyRequest : AuthRequest where
  authorization := some ("Bearer " ++ sampleKey)
  method := "GET"
  path := "/admin/users"

def sampleTables : Tables := run sampleStoreTools sampleOps

def sampleEnv : String → Option String := fun _ => none

theorem getUserByApiKey_sample :
    (sampleTables.userStore sampleStoreTools sampleNow).getUserByApiKey sampleKey =
      some (sampleUser, keyPrefix sampleKey) := rfl

/-- The sample key speaks for its user before any other key is looked at. -/
theorem tokenContext_sample (env : String → Option String) (auth : AuthConfig) :
    tokenContext env (sampleTables.userStore sampleStoreTools sampleNow) auth sampleKey =
      some (userContext sampleUser "api_key" (some (keyPrefix sampleKey)) none) := by
  have hne : sampleKey ≠ "" := by decide
  have hfront : Str.startsWith sampleKey "tk-" = true := by decide
  rw [tokenContext, if_neg hne, apiKeyContext, if_pos hfront, getUserByApiKey_sample]
  rfl

/-- What the middleware answers to it. -/
def sampleDecision : Decision :=
  middleware sampleEnv (sampleTables.userStore sampleStoreTools sampleNow) {} sampleKeyRequest

theorem gate_sound_sample :
    (((∃ context, sampleDecision = .next context ∧
        Admits sampleEnv sampleStoreTools sampleTables sampleNow {} sampleKeyRequest
          context.role) ∨ sampleDecision.Refuses) ∧
      ((∀ role, ¬ Admits sampleEnv sampleStoreTools sampleTables sampleNow {} sampleKeyRequest
        role) → sampleDecision.Refuses)) ∧
    ∃ context, sampleDecision = .next context ∧ context.email = "ada@example.com" := by
  have hpresented : extractToken sampleKeyRequest = sampleKey := rfl
  refine ⟨gate_sound rfl ⟨by decide, by decide⟩,
    userContext sampleUser "api_key" (some (keyPrefix sampleKey)) none, ?_, rfl⟩
  rw [sampleDecision, middleware, hpresented, tokenContext_sample]
  rfl

end Samples

end AuthMiddleware

end TokenDealer
