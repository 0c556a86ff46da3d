import TokenDealer.AuthGate
import TokenDealer.EditFrame
import TokenDealer.FlowFrame

set_option autoImplicit true

namespace TokenDealer

namespace OAuthStore

variable {w : FlowWorld} {world : OAuthWorld} {s : OAuthStore}

theorem unchanged_keys_iff {crypto : Crypto} {keys : KeyStore} :
    s.Unchanged crypto { s with keys := keys } ↔ s.keys.SameAnswers crypto keys := by
  constructor
  · intro h
    exact h.keys
  · intro h
    exact ⟨rfl, rfl, h⟩

/-- What is stored of a token that has been tried out. -/
def retained (text : Json.Text) (world : OAuthWorld) (stored : String) (creds : OAuthCredentials)
    (clientId clientSecret : Option String) : String :=
  match creds.refreshToken with
  | none => stored
  | some rt =>
    if world.written.isOk then serializeStoredRefresh text rt clientId clientSecret else stored

/-- A token that is set up ends as what is stored already, and if the token endpoint gives
credentials for it, they are in memory already. -/
def SetupKeeps (w : FlowWorld) (world : OAuthWorld) (p stored : String) (s : OAuthStore) : Prop :=
  match (s.manager.configFor p).bind fun cfg => OAuthManager.exchanged w.text world cfg stored with
  | none => (s.keys.get w.crypto (oauthEntry p)).1 = .ok (some stored)
  | some (creds, clientId, clientSecret) =>
    s.manager.cache p = some creds ∧ (s.keys.get w.crypto (oauthEntry p)).1 =
      .ok (some (retained w.text world stored creds clientId clientSecret))

def withTokens (s : OAuthStore) (tokens : OAuthManager × KeyStore) : OAuthStore :=
  { s with manager := tokens.1, keys := tokens.2 }

theorem withTokens_unchanged_iff {crypto : Crypto} {tokens : OAuthManager × KeyStore} :
    s.Unchanged crypto (s.withTokens tokens) ↔
      tokens.1 = s.manager ∧ s.keys.SameAnswers crypto tokens.2 := by
  constructor
  · intro h
    exact ⟨h.manager, h.keys⟩
  · intro h
    obtain ⟨hmanager, hkeys⟩ := h
    exact ⟨hmanager, rfl, hkeys⟩

/-- A token that is stored and tried out. -/
theorem setUp_unchanged_iff :
    s.Unchanged w.crypto (s.withTokens (s.manager.refresh w.crypto w.text world
      (s.keys.set w.crypto w.nonce (.ok ()) (oauthEntry p) stored).2 p).2) ↔
      s.SetupKeeps w world p stored := by
  have hset : s.keys.SameAnswers w.crypto
      (s.keys.set w.crypto w.nonce (.ok ()) (oauthEntry p) stored).2 ↔
      (s.keys.get w.crypto (oauthEntry p)).1 = .ok (some stored) := by
    rw [KeyStore.sameAnswers_set_iff]
    exact forall_prop_of_true rfl
  rw [OAuthManager.refresh_of_stored _ _ _
    (s.keys.get_after_set_self w.crypto w.nonce (oauthEntry p) stored), SetupKeeps]
  cases (s.manager.configFor p).bind fun cfg => OAuthManager.exchanged w.text world cfg stored with
  | none =>
    rw [withTokens_unchanged_iff, and_iff_right rfl]
    exact hset
  | some exchanged =>
    obtain ⟨creds, clientId, clientSecret⟩ := exchanged
    dsimp only
    rw [OAuthManager.adopt_snd, withTokens_unchanged_iff, cache_update_iff, retained]
    apply and_congr_right
    intro _
    cases creds.refreshToken with
    | none => exact hset
    | some rt =>
      rw [KeyStore.sameAnswers_iff (p := oauthEntry p), KeyStore.get_after_set_twice, eq_comm]
      intro q hq
      rw [KeyStore.get_after_set w.crypto hq, KeyStore.get_after_set w.crypto hq]

end OAuthStore

namespace Admin

variable {w : FlowWorld} {s : OAuthStore}

theorem setKey_unchanged_iff :
    s.Unchanged w.crypto (setKey w p key s).2 ↔
      key = "" ∨ (w.written.isOk = true → (s.keys.get w.crypto p).1 = .ok (some key)) := by
  by_cases hkey : key = ""
  · rw [setKey, if_pos hkey]
    exact iff_of_true (.refl _ _) (.inl hkey)
  · have hsnd : (setKey w p key s).2 =
        { s with keys := (s.keys.set w.crypto w.nonce w.written p key).2 } := by
      rw [setKey, if_neg hkey]
      cases w.written <;> rfl
    rw [hsnd, or_iff_right hkey, OAuthStore.unchanged_keys_iff, KeyStore.sameAnswers_set_iff]

theorem deleteKey_unchanged_iff {deleted : Except String Unit} :
    s.Unchanged w.crypto (deleteKey w deleted p s).2 ↔
      (deleted.isOk = true → (s.keys.get w.crypto p).1 = .ok none) := by
  have hsnd : (deleteKey w deleted p s).2 = { s with keys := (s.keys.delete deleted p).2 } := by
    rw [deleteKey]
    cases deleted <;> rfl
  rw [hsnd, OAuthStore.unchanged_keys_iff, KeyStore.sameAnswers_delete_iff]

theorem setOauthRefresh_unchanged_iff :
    s.Unchanged w.crypto (setOauthRefresh w p key s).2 ↔
      (w.written.isOk = true → s.HoldsToken w.crypto p key) := by
  have hsnd : (setOauthRefresh w p key s).2 = (s.setRefreshToken w p key).2 := by
    rw [setOauthRefresh]
    cases s.setRefreshToken w p key with
    | mk stored s' => cases stored <;> rfl
  rw [hsnd, OAuthStore.setRefreshToken_unchanged_iff]

theorem startOauth_eq_self_iff {cfg : RouterConfig} {pending : PendingFlows} :
    (startOauth w cfg p body pending).2 = pending ↔
      ((popupConfig p).isOk = true → pending.states (popupState w p) = some p ∧
        pending.pkceVerifiers (popupState w p) = some w.generatePkceVerifier) := by
  have hsnd : (startOauth w cfg p body pending).2 =
      (startPopupOauth w p (startRedirect cfg p body) pending).2 := by
    delta startOauth
    cases startPopupOauth w p (startRedirect cfg p body) pending with
    | mk started pending' =>
      cases started with
      | error e => rfl
      | ok url =>
        dsimp only
        split <;> rfl
  rw [hsnd, OAuthStore.startPopupOauth_unchanged_iff]

theorem oauthCallback_unchanged_iff {cfg : RouterConfig} {params : String → Option String} :
    s.Unchanged w.crypto (oauthCallback w cfg p params s).2 ↔
      s.pending.states ((params "state").getD "") = none := by
  have hsnd : (oauthCallback w cfg p params s).2 =
      (completePopupOauth w p ((params "code").getD "") ((params "state").getD "")
        (rebuildRedirectUri cfg.configRedirect p) s).2 := by
    rw [oauthCallback]
    cases completePopupOauth w p ((params "code").getD "") ((params "state").getD "")
        (rebuildRedirectUri cfg.configRedirect p) s with
    | mk completed s' => cases completed <;> rfl
  rw [hsnd, OAuthStore.completePopupOauth_unchanged_iff]

theorem pasteCode_unchanged_iff {body : Json.Value} :
    s.Unchanged w.crypto (pasteCode w p body s).2 ↔
      (body.getStr "code").getD "" = "" ∨
        ∀ token, exchangePasted w p ((body.getStr "code").getD "") = .ok token →
          w.written.isOk = true → s.HoldsToken w.crypto p token := by
  by_cases hcode : (body.getStr "code").getD "" = ""
  · rw [pasteCode, if_pos hcode]
    exact iff_of_true (.refl _ _) (.inl hcode)
  · have hsnd : (pasteCode w p body s).2 =
        (pasteAnthropicCode w p ((body.getStr "code").getD "") s).2 := by
      rw [pasteCode, if_neg hcode]
      cases pasteAnthropicCode w p ((body.getStr "code").getD "") s with
      | mk pasted s' => cases pasted <;> rfl
    rw [hsnd, or_iff_right hcode, OAuthStore.pasteAnthropicCode_unchanged_iff]

theorem setupOauthViaCli_unchanged_iff {world : OAuthWorld} {body : Json.Value} :
    s.Unchanged w.crypto (setupOauthViaCli w world p body s).2 ↔
      (body.getStr "refresh_token").getD "" = "" ∨ (w.written.isOk = true →
        s.SetupKeeps w world p (setupToken w body ((body.getStr "refresh_token").getD ""))) := by
  by_cases hrefresh : (body.getStr "refresh_token").getD "" = ""
  · rw [setupOauthViaCli, if_pos hrefresh]
    exact iff_of_true (.refl _ _) (.inl hrefresh)
  · rw [setupOauthViaCli, if_neg hrefresh, or_iff_right hrefresh]
    cases w.written with
    | error message => exact iff_of_true (.refl _ _) fun h => absurd h Bool.false_ne_true
    | ok u =>
      rw [← OAuthStore.setUp_unchanged_iff]
      constructor
      · intro h _
        exact h
      · intro h
        exact h rfl

theorem startDeviceOauth_eq_self_iff {pending : PendingFlows} :
    (startDeviceOauth w p pending).2 = pending ↔
      ∀ d, requestDevice w p = .ok d → pending.HasDevice p d := by
  have hsnd : (startDeviceOauth w p pending).2 = (startDeviceFlow w p pending).2 := by
    delta startDeviceOauth
    cases startDeviceFlow w p pending with
    | mk started pending' => cases started <;> rfl
  rw [hsnd, startDeviceFlow_unchanged_iff]

theorem pollDeviceOauth_unchanged_iff {body : Json.Value} :
    s.Unchanged w.crypto (pollDeviceOauth w body s).2 ↔
      (body.getStr "device_code").getD "" = "" ∨
        s.PollKeeps w ((body.getStr "device_code").getD "") := by
  by_cases hcode : (body.getStr "device_code").getD "" = ""
  · rw [pollDeviceOauth, if_pos hcode]
    exact iff_of_true (.refl _ _) (.inl hcode)
  · have hsnd : (pollDeviceOauth w body s).2 =
        (pollDeviceFlow w ((body.getStr "device_code").getD "") s).2 := by
      rw [pollDeviceOauth, if_neg hcode]
      cases pollDeviceFlow w ((body.getStr "device_code").getD "") s with
      | mk polled s' => cases polled <;> rfl
    rw [hsnd, or_iff_right hcode, OAuthStore.pollDeviceFlow_unchanged_iff]

theorem adminOnly_of_user (hrole : caller.role = .user) (k : Tables → AdminResponse × Tables)
    (t : Tables) : adminOnly caller k t = (.error 403 "admin only", t) := by
  rw [adminOnly, UserContext.isAdmin, hrole]
  rfl

end Admin

namespace Tables

variable (tools : StoreTools) (t : Tables) (now : Utc)

theorem getUserByApiKey_users (plaintext : String) :
    (t.getUserByApiKey tools now plaintext).2.users = t.users := by
  rw [getUserByApiKey]
  split
  · rfl
  · dsimp only
    split <;> rfl

theorem getSession_users (token : String) :
    (t.getSession tools now token).2.users = t.users := by
  rw [getSession]
  split
  · rfl
  · dsimp only
    split <;> rfl

theorem touchCookies_users (cookies : List (String × String)) :
    (t.touchCookies tools now cookies).users = t.users := by
  induction cookies with
  | nil => rfl
  | cons cookie rest ih =>
    obtain ⟨name, value⟩ := cookie
    rw [touchCookies]
    split
    · split
      · rename_i found t' heq
        rw [← t.getSession_users tools now value, heq]
      · exact ih
    · exact ih

/-- Whoever a request comes from, the middleware leaves the users alone. -/
theorem touched_users (env : String → Option String) (auth : AuthConfig) (req : AuthRequest) :
    (t.touched tools now env auth req).users = t.users := by
  have hafter : (if Str.startsWith (AuthMiddleware.extractToken req) "tk-" then
      (t.getUserByApiKey tools now (AuthMiddleware.extractToken req)).2 else t).users =
      t.users := by
    split
    · exact t.getUserByApiKey_users tools now _
    · rfl
  rw [touched]
  split
  · exact hafter
  · split
    · exact hafter
    · rw [touchCookies_users]
      exact hafter

end Tables

/-- A request leaves the configuration and its file, the registry, the logins and tokens, the
answers of the key store and the users as they are. -/
structure RouterState.Unchanged (crypto : Crypto) (s s' : RouterState) : Prop where
  config : s'.app.config = s.app.config
  registry : s'.app.registry = s.app.registry
  oauth : s.oauth.Unchanged crypto s'.oauth
  users : s'.tables.users = s.tables.users

namespace AdminRequest

/-- The requests that are for administrators only. -/
def ChecksRole : AdminRequest → Prop
  | createUser _ | deleteUser _ | adminCreateKey .. => True
  | reloadConfig | saveConfig | edit _ | uiRemoveProvider _ | setKey .. | deleteKey _
  | setOauthRefresh .. | startOauth .. | oauthCallback .. | pasteAnthropicCode ..
  | setupOauthViaCli .. | startDeviceOauth _ | pollDeviceOauth _ => False

/-- A request is refused whoever it comes from, or what it would write is there already. -/
def FindsItDone (w : AdminWorld) (s : RouterState) : AdminRequest → Prop
  | reloadConfig => Admin.ReloadKeeps w.tools w.name w.file s.app.config.memory
  | saveConfig => s.app.config.FileKeeps w.tools.toml w.outcome
  | edit op => op.Refused ∨ op.Keeps w.tools.toml w.outcome s.app
  | uiRemoveProvider id => (AdminOp.removeProvider id).Keeps w.tools.toml w.outcome s.app
  | setKey p key =>
    key = "" ∨ (w.flow.written.isOk = true →
      (s.oauth.keys.get w.flow.crypto p).1 = .ok (some key))
  | deleteKey p => w.deleted.isOk = true → (s.oauth.keys.get w.flow.crypto p).1 = .ok none
  | setOauthRefresh p key =>
    w.flow.written.isOk = true → s.oauth.HoldsToken w.flow.crypto p key
  | startOauth p _ =>
    (popupConfig p).isOk = true → s.oauth.pending.states (popupState w.flow p) = some p ∧
      s.oauth.pending.pkceVerifiers (popupState w.flow p) = some w.flow.generatePkceVerifier
  | oauthCallback _ params => s.oauth.pending.states ((params "state").getD "") = none
  | pasteAnthropicCode p body =>
    (body.getStr "code").getD "" = "" ∨
      ∀ token, exchangePasted w.flow p ((body.getStr "code").getD "") = .ok token →
        w.flow.written.isOk = true → s.oauth.HoldsToken w.flow.crypto p token
  | setupOauthViaCli p body =>
    (body.getStr "refresh_token").getD "" = "" ∨ (w.flow.written.isOk = true →
      s.oauth.SetupKeeps w.flow w.refresh p
        (Admin.setupToken w.flow body ((body.getStr "refresh_token").getD "")))
  | startDeviceOauth p => ∀ d, requestDevice w.flow p = .ok d → s.oauth.pending.HasDevice p d
  | pollDeviceOauth body =>
    (body.getStr "device_code").getD "" = "" ∨
      s.oauth.PollKeeps w.flow ((body.getStr "device_code").getD "")
  | createUser _ | deleteUser _ | adminCreateKey .. => False

end AdminRequest

namespace RouterState

variable {crypto : Crypto} {s : RouterState}

theorem app_unchanged_iff {app : AppState} :
    s.Unchanged crypto { s with app := app } ↔ app = s.app := by
  rw [AppState.eq_iff]
  constructor
  · intro h
    exact ⟨h.config, h.registry⟩
  · intro h
    obtain ⟨hconfig, hregistry⟩ := h
    exact ⟨hconfig, hregistry, .refl _ _, rfl⟩

theorem oauth_unchanged_iff {oauth : OAuthStore} :
    s.Unchanged crypto { s with oauth := oauth } ↔ s.oauth.Unchanged crypto oauth := by
  constructor
  · intro h
    exact h.oauth
  · intro h
    exact ⟨rfl, rfl, h, rfl⟩

theorem onApp_unchanged_iff {f : AppState → AdminResponse × AppState} :
    s.Unchanged crypto (s.onApp f).2 ↔ (f s.app).2 = s.app := app_unchanged_iff

theorem onOauth_unchanged_iff {f : OAuthStore → AdminResponse × OAuthStore} :
    s.Unchanged crypto (s.onOauth f).2 ↔ s.oauth.Unchanged crypto (f s.oauth).2 :=
  oauth_unchanged_iff

theorem onPending_unchanged_iff {f : PendingFlows → AdminReply × PendingFlows} :
    s.Unchanged crypto (s.onPending f).2 ↔ (f s.oauth.pending).2 = s.oauth.pending := by
  constructor
  · intro h
    exact h.oauth.pending
  · intro h
    exact ⟨rfl, rfl, ⟨rfl, h, fun _ => rfl⟩, rfl⟩

/-- A handler that begins with the check does nothing for the others. -/
theorem onTables_adminOnly_unchanged (hrole : caller.role = .user)
    (k : Tables → AdminResponse × Tables) :
    s.Unchanged crypto (s.onTables (Admin.adminOnly caller k)).2 := by
  rw [onTables, Admin.adminOnly_of_user hrole]
  exact ⟨rfl, rfl, .refl _ _, rfl⟩

end RouterState

namespace AdminRequest

variable {w : AdminWorld} {s : RouterState}

/-- What the request of someone who is no administrator leaves as it is, handler by handler. -/
theorem handle_unchanged_iff (hrole : caller.role = .user) (request : AdminRequest) :
    s.Unchanged w.flow.crypto (request.handle w caller s).2 ↔
      request.ChecksRole ∨ request.FindsItDone w s := by
  cases request with
  | reloadConfig =>
    rw [handle, RouterState.onApp_unchanged_iff, Admin.reloadConfig_eq_self_iff,
      ChecksRole, false_or, FindsItDone]
  | saveConfig =>
    rw [handle, RouterState.onApp_unchanged_iff, Admin.saveConfig_eq_self_iff,
      ChecksRole, false_or, FindsItDone]
  | edit op =>
    rw [handle, RouterState.onApp_unchanged_iff, op.handle_eq_self_iff,
      ChecksRole, false_or, FindsItDone]
  | uiRemoveProvider id =>
    have hsnd : ((uiRemoveProvider id).handle w caller s).2 = { s with
        app := (Admin.uiRemoveProvider w.tools.toml w.outcome id s.app).2 } := by
      rw [handle]
    rw [hsnd, RouterState.app_unchanged_iff, Admin.uiRemoveProvider_snd,
      AdminOp.updating_removeProvider_iff, ChecksRole, false_or, FindsItDone]
  | setKey p key =>
    rw [handle, RouterState.onOauth_unchanged_iff, Admin.setKey_unchanged_iff,
      ChecksRole, false_or, FindsItDone]
  | deleteKey p =>
    rw [handle, RouterState.onOauth_unchanged_iff, Admin.deleteKey_unchanged_iff,
      ChecksRole, false_or, FindsItDone]
  | setOauthRefresh p key =>
    rw [handle, RouterState.onOauth_unchanged_iff, Admin.setOauthRefresh_unchanged_iff,
      ChecksRole, false_or, FindsItDone]
  | startOauth p body =>
    rw [handle, RouterState.onPending_unchanged_iff, Admin.startOauth_eq_self_iff,
      ChecksRole, false_or, FindsItDone]
  | oauthCallback p params =>
    have hsnd : ((oauthCallback p params).handle w caller s).2 = { s with
        oauth := (Admin.oauthCallback w.flow s.app.config.memory p params s.oauth).2 } := by
      rw [handle]
    rw [hsnd, RouterState.oauth_unchanged_iff, Admin.oauthCallback_unchanged_iff, ChecksRole,
      false_or, FindsItDone]
  | pasteAnthropicCode p body =>
    rw [handle, RouterState.onOauth_unchanged_iff, Admin.pasteCode_unchanged_iff,
      ChecksRole, false_or, FindsItDone]
  | setupOauthViaCli p body =>
    rw [handle, RouterState.onOauth_unchanged_iff, Admin.setupOauthViaCli_unchanged_iff,
      ChecksRole, false_or, FindsItDone]
  | startDeviceOauth p =>
    rw [handle, RouterState.onPending_unchanged_iff, Admin.startDeviceOauth_eq_self_iff,
      ChecksRole, false_or, FindsItDone]
  | pollDeviceOauth body =>
    rw [handle, RouterState.onOauth_unchanged_iff, Admin.pollDeviceOauth_unchanged_iff,
      ChecksRole, false_or, FindsItDone]
  | createUser body =>
    exact iff_of_true (RouterState.onTables_adminOnly_unchanged hrole _) (.inl trivial)
  | deleteUser id =>
    exact iff_of_true (RouterState.onTables_adminOnly_unchanged hrole _) (.inl trivial)
  | adminCreateKey userIdPath body =>
    exact iff_of_true (RouterState.onTables_adminOnly_unchanged hrole _) (.inl trivial)

/-- No request looks at the users to find that there is nothing to do. -/
theorem findsItDone_tables (tables : Tables) (request : AdminRequest) :
    request.FindsItDone w { s with tables := tables } ↔ request.FindsItDone w s := by
  cases request <;> exact Iff.rfl

end AdminRequest

namespace RouterState

variable {w : AdminWorld} {s : RouterState} {req : AuthRequest} {caller : UserContext}

theorem serve_of_next (hnext : s.authenticate w req = .next caller) (request : AdminRequest) :
    s.serve w req request =
      request.handle w caller { s with
        tables := s.tables.touched w.store w.now w.flow.env s.app.config.memory.auth req } := by
  rw [serve, hnext]

theorem unchanged_tables_iff {crypto : Crypto} {tables : Tables} {s' : RouterState}
    (h : tables.users = s.tables.users) :
    ({ s with tables := tables } : RouterState).Unchanged crypto s' ↔ s.Unchanged crypto s' := by
  constructor
  · intro hsame
    exact ⟨hsame.config, hsame.registry, hsame.oauth, hsame.users.trans h⟩
  · intro hsame
    exact ⟨hsame.config, hsame.registry, hsame.oauth, hsame.users.trans h.symm⟩

/-- A plain user changes nothing exactly where the handler asks for the role, or where there is
nothing to do for anyone. -/
theorem user_request_unchanged_iff (hnext : s.authenticate w req = .next caller)
    (hrole : caller.role = .user) (request : AdminRequest) :
    s.Unchanged w.flow.crypto (s.serve w req request).2 ↔
      request.ChecksRole ∨ request.FindsItDone w s := by
  rw [serve_of_next hnext, ← unchanged_tables_iff (Tables.touched_users _ _ _ _ _ _),
    AdminRequest.handle_unchanged_iff hrole, AdminRequest.findsItDone_tables]

section Samples

/-- Nothing outside answers, and what is written is written. -/
def sampleFlowWorld : FlowWorld where
  crypto := taggedCrypto
  text := Json.sampleText
  env := AuthMiddleware.sampleEnv
  sha256 := id
  uuid := "6fa459eaee8a3ca4894edb77e160355e"
  random := List.replicate 32 0
  post _ := .error "connection refused"
  secondsLeft _ := 1
  nonce := List.replicate 12 0
  written := .ok ()
  reason _ := ""
  badJson _ := "expected value"
  describe _ := "database is locked"

def sampleAdminWorld : AdminWorld where
  tools := startTools
  name := "token-dealer.toml"
  file := .error "No such file or directory"
  outcome := .written
  flow := sampleFlowWorld
  refresh := ⟨0, 0, fun _ _ => .error "connection refused", List.replicate 12 0, .ok ()⟩
  deleted := .ok ()
  store := Tables.sampleStoreTools
  now := Tables.sampleNow
  hash _ := .error "salt invalid"
  id := "u2"
  plaintext := Tables.sampleKey
  describe _ := "UNIQUE constraint failed"

/-- A router with the sample user, whose role is that of a plain user. -/
def sampleRouter : RouterState where
  app := ⟨⟨{}, none⟩, fun _ => none⟩
  oauth := { keys := ⟨fun _ => .ok none, fun _ => none, []⟩ }
  tables := AuthMiddleware.sampleTables

/-- A request with the key of the sample user. -/
def sampleCall (method path : String) : AuthRequest where
  authorization := some ("Bearer " ++ Tables.sampleKey)
  method := method
  path := path

/-- The key lets its user in whatever the request is. -/
theorem authenticate_sample (method path : String) :
    ∃ caller, sampleRouter.authenticate sampleAdminWorld (sampleCall method path) = .next caller ∧
      caller.role = .user := by
  have hpresented : AuthMiddleware.extractToken (sampleCall method path) = Tables.sampleKey := rfl
  have hcontext : AuthMiddleware.tokenContext sampleAdminWorld.flow.env
      (sampleRouter.tables.userStore sampleAdminWorld.store sampleAdminWorld.now)
      sampleRouter.app.config.memory.auth
      (AuthMiddleware.extractToken (sampleCall method path)) = some (AuthMiddleware.userContext
        Tables.sampleUser "api_key" (some (Tables.keyPrefix Tables.sampleKey)) none) := by
    rw [hpresented]
    exact AuthMiddleware.tokenContext_sample _ _
  refine ⟨AuthMiddleware.userContext Tables.sampleUser "api_key"
    (some (Tables.keyPrefix Tables.sampleKey)) none, ?_, rfl⟩
  rw [authenticate, AuthMiddleware.middleware, hcontext]
  rfl

/-- To delete a user is refused. -/
theorem user_request_unchanged_sample :
    sampleRouter.Unchanged taggedCrypto
      (sampleRouter.serve sampleAdminWorld (sampleCall "DELETE" "/admin/users/u1")
        (.deleteUser "u1")).2 := by
  obtain ⟨caller, hnext, hrole⟩ := authenticate_sample "DELETE" "/admin/users/u1"
  exact (user_request_unchanged_iff hnext hrole (.deleteUser "u1")).mpr (.inl trivial)

/-- With a key of his own, a plain user gives a tier another model and a provider another key. -/
theorem user_changes_router :
    sampleRouter.app.config.memory.auth.enabled = true ∧
    (∀ method path, ∃ caller,
      sampleRouter.authenticate sampleAdminWorld (sampleCall method path) = .next caller ∧
        caller.role = .user) ∧
    ¬ sampleRouter.Unchanged taggedCrypto
      (sampleRouter.serve sampleAdminWorld (sampleCall "POST" "/admin/tiers/standard")
        (.edit (.updateTier "standard" { primary := "openai/gpt-4o" }))).2 ∧
    ¬ sampleRouter.Unchanged taggedCrypto
      (sampleRouter.serve sampleAdminWorld (sampleCall "POST" "/admin/keys/openai")
        (.setKey "openai" "sk-mine")).2 := by
  refine ⟨rfl, authenticate_sample, ?_, ?_⟩
  · intro h
    obtain ⟨caller, hnext, hrole⟩ := authenticate_sample "POST" "/admin/tiers/standard"
    rw [serve_of_next hnext] at h
    have htier := congrArg (fun c : ConfigStore => Table.get "standard" c.memory.tiers) h.config
    cases htier
  · intro h
    obtain ⟨caller, hnext, hrole⟩ := authenticate_sample "POST" "/admin/keys/openai"
    rw [serve_of_next hnext] at h
    have hkey := h.oauth.keys "openai"
    cases hkey

end Samples

end RouterState

end TokenDealer
