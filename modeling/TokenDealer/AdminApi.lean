import TokenDealer.AuthMiddleware
import TokenDealer.OauthFlows
import TokenDealer.RegistryAgreement
import TokenDealer.UserTables

set_option autoImplicit true

namespace TokenDealer

/-- All that the requests of the administrators can change. -/
structure RouterState where
  app : AppState
  oauth : OAuthStore
  tables : Tables

/-- What the outside world does during one request: the file of the configuration and what becomes
of a write to it, the token endpoints, the hash of a password and the identifiers drawn. The reply
of a refresh has a type of its own. -/
structure AdminWorld where
  tools : ValidateTools
  name : String
  file : Except String String
  outcome : WriteOutcome
  flow : FlowWorld
  refresh : OAuthWorld
  deleted : Except String Unit
  store : StoreTools
  now : Utc
  hash : String → Except String String
  id : String
  plaintext : String
  describe : StoreError → String

def UserContext.isAdmin (caller : UserContext) : Bool := caller.role = .admin

structure CreateUserReq where
  email : String
  name : String
  password : Option String := none
  role : Option String := none
  deriving DecidableEq, Repr

structure AdminCreateKeyReq where
  userId : String
  name : String
  deriving DecidableEq, Repr

/-- The requests to the routes under `/admin` that can change something, with what is read of the
path, the query and the body. -/
inductive AdminRequest where
  | reloadConfig
  | saveConfig
  | edit (op : AdminOp)
  | uiRemoveProvider (id : String)
  | setKey (providerId key : String)
  | deleteKey (providerId : String)
  | setOauthRefresh (providerId key : String)
  | startOauth (providerId : String) (body : Option Json.Value)
  | oauthCallback (providerId : String) (params : String → Option String)
  | pasteAnthropicCode (providerId : String) (body : Json.Value)
  | setupOauthViaCli (providerId : String) (body : Json.Value)
  | startDeviceOauth (providerId : String)
  | pollDeviceOauth (body : Json.Value)
  | createUser (body : CreateUserReq)
  | deleteUser (id : String)
  | adminCreateKey (userIdPath : String) (body : AdminCreateKeyReq)

/-- A page is given by what is shown on it. -/
inductive AdminReply where
  | json (response : AdminResponse)
  | redirect (location : String)
  | providersList (providers : List ProviderConfig)
  | saveFailed (message : String)
  | refused (decision : Decision)

def DeviceFlowInfo.toJson (info : DeviceFlowInfo) : List (String × Json.Value) :=
  [("device_code", .string info.deviceCode), ("user_code", .string info.userCode),
    ("verification_uri", .string info.verificationUri),
    ("interval", .number (.posInt info.interval)),
    ("expires_in", .number (.posInt info.expiresIn))]

def urlencodingSimple (s : String) : String :=
  String.ofList ((Utf8.encode s.toList).flatMap urlencodeByte)

/-- The configured callback stands in the section of the server, else at the top level. -/
def RouterConfig.configRedirect (cfg : RouterConfig) : String :=
  if cfg.server.oauthRedirectUri ≠ "" then cfg.server.oauthRedirectUri
  else cfg.oauthRedirectUri.getD ""

open ConfigService

namespace Admin

section Config

variable (toml : Toml.Text) (outcome : WriteOutcome)

def saveConfig (s : AppState) : AdminResponse × AppState :=
  let (saved, disk) := saveToDisk toml outcome s.config.memory s.config.disk
  let s' : AppState := { s with config := { s.config with disk := disk } }
  match saved with
  | .ok _ => (.ok 200 [("status", .string "saved")], s')
  | .error e => (.error 500 ("save failed: " ++ e.message), s')

/-- The form of the pages removes a provider whatever its identifier is. -/
def uiRemoveProvider (id : String) (s : AppState) : AdminReply × AppState :=
  let (result, config) := updateWith toml outcome (RouterConfig.dropProvider id) s.config
  match result with
  | .error e => (.saveFailed ("save failed: " ++ e.message), ⟨config, s.registry⟩)
  | .ok _ => (.providersList config.memory.providers, ⟨config, (s.registry.remove id).2⟩)

end Config

section Keys

variable (w : FlowWorld)

def setKey (providerId key : String) (s : OAuthStore) : AdminResponse × OAuthStore :=
  if key = "" then (.error 400 "key required", s)
  else
    match s.keys.set w.crypto w.nonce w.written providerId key with
    | (.ok (), keys) =>
      (.ok 200 [("status", .string "stored"), ("provider", .string providerId)],
        { s with keys := keys })
    | (.error e, keys) => (.error 500 ("store failed: " ++ w.describe e), { s with keys := keys })

def deleteKey (deleted : Except String Unit) (providerId : String) (s : OAuthStore) :
    AdminResponse × OAuthStore :=
  match s.keys.delete deleted providerId with
  | (.ok (), keys) =>
    (.ok 200 [("status", .string "deleted"), ("provider", .string providerId)],
      { s with keys := keys })
  | (.error e, keys) => (.error 500 ("delete failed: " ++ w.describe e), { s with keys := keys })

def setOauthRefresh (providerId key : String) (s : OAuthStore) : AdminResponse × OAuthStore :=
  let (stored, s) := s.setRefreshToken w providerId key
  match stored with
  | .ok () =>
    (.ok 200 [("status", .string "refresh token stored"), ("provider", .string providerId)], s)
  | .error e => (.error 500 ("store failed: " ++ e), s)

end Keys

section Oauth

variable (w : FlowWorld) (cfg : RouterConfig)

/-- The callback that the caller asks for, else the configured one made to fit the provider. -/
def startRedirect (providerId : String) (body : Option Json.Value) : String :=
  match body.bind fun b => b.getStr "redirect_uri" with
  | some uri => uri
  | none => rebuildRedirectUri cfg.configRedirect providerId

/-- A request without a body is sent on to the provider at once. -/
def startOauth (providerId : String) (body : Option Json.Value) (pending : PendingFlows) :
    AdminReply × PendingFlows :=
  let (started, pending) := startPopupOauth w providerId (startRedirect cfg providerId body) pending
  match started with
  | .error e => (.json (.error 400 ("start_oauth failed: " ++ e)), pending)
  | .ok (url, _) =>
    if body.isNone then (.redirect url, pending)
    else
      (.json (.ok 200 [("authorize_url", .string url), ("state", .string "ok")]), pending)

def oauthCallback (providerId : String) (params : String → Option String) (s : OAuthStore) :
    AdminReply × OAuthStore :=
  let code := (params "code").getD ""
  let state := (params "state").getD ""
  let redirectUri := rebuildRedirectUri cfg.configRedirect providerId
  let (completed, s) := completePopupOauth w providerId code state redirectUri s
  match completed with
  | .ok () => (.redirect s!"/ui/oauth/done?provider={providerId}&status=ok", s)
  | .error e =>
    (.redirect (s!"/ui/oauth/done?provider={providerId}&status=err&msg=" ++ urlencodingSimple e), s)

/-- The handler of the route, which takes the text out of the body. -/
def pasteCode (providerId : String) (body : Json.Value) (s : OAuthStore) :
    AdminResponse × OAuthStore :=
  let code := (body.getStr "code").getD ""
  if code = "" then (.error 400 "code field is required", s)
  else
    let (pasted, s) := pasteAnthropicCode w providerId code s
    match pasted with
    | .ok _ => (.ok 200 [("status", .string "ok"), ("provider", .string providerId)], s)
    | .error e => (.error 400 e, s)

/-- A client goes with the token only when it comes with its secret. -/
def setupToken (body : Json.Value) (refresh : String) : String :=
  match body.getStr "client_id", body.getStr "client_secret" with
  | some clientId, some secret =>
    serializeStoredRefresh w.text refresh (some clientId) (some secret)
  | _, _ => refresh

/-- The token is stored and tried out, and a failure of the trial goes unnoticed. -/
def setupOauthViaCli (world : OAuthWorld) (providerId : String) (body : Json.Value)
    (s : OAuthStore) : AdminResponse × OAuthStore :=
  let refresh := (body.getStr "refresh_token").getD ""
  if refresh = "" then (.error 400 "refresh_token is required", s)
  else
    let stored := setupToken w body refresh
    match s.keys.set w.crypto w.nonce w.written (oauthEntry providerId) stored with
    | (.error e, keys) => (.error 500 ("store: " ++ w.describe e), { s with keys := keys })
    | (.ok (), keys) =>
      let (_, manager, keys) := s.manager.refresh w.crypto w.text world keys providerId
      (.ok 200 [("status", .string "ok"), ("provider", .string providerId)],
        { s with manager := manager, keys := keys })

def startDeviceOauth (providerId : String) (pending : PendingFlows) :
    AdminResponse × PendingFlows :=
  let (started, pending) := startDeviceFlow w providerId pending
  match started with
  | .ok info => (.ok 200 info.toJson, pending)
  | .error e => (.error 400 ("start_device failed: " ++ e), pending)

def pollDeviceOauth (body : Json.Value) (s : OAuthStore) : AdminResponse × OAuthStore :=
  let deviceCode := (body.getStr "device_code").getD ""
  if deviceCode = "" then (.error 400 "device_code required", s)
  else
    let (polled, s) := pollDeviceFlow w deviceCode s
    match polled with
    | .ok authorized => (.ok 200 [("authorized", .bool authorized)], s)
    | .error e => (.error 502 ("poll failed: " ++ e), s)

end Oauth

section Users

variable (w : AdminWorld) (caller : UserContext)

/-- The check that the requests about users begin with. -/
def adminOnly (k : Tables → AdminResponse × Tables) (t : Tables) : AdminResponse × Tables :=
  if !caller.isAdmin then (.error 403 "admin only", t) else k t

def createUser (body : CreateUserReq) : Tables → AdminResponse × Tables :=
  adminOnly caller fun t =>
    let role := (body.role.map UserRole.parse).getD .user
    let hashed := match body.password with
      | none => .ok none
      | some password => (w.hash password).map some
    match t.createUser w.store w.now w.id body.email body.name hashed role with
    | .ok (u, t) =>
      (.ok 201 [("id", .string u.id), ("email", .string u.email), ("name", .string u.name),
        ("role", .string u.role.asStr)], t)
    | .error e => (.error 400 (w.describe e), t)

def deleteUser (id : String) : Tables → AdminResponse × Tables :=
  adminOnly caller fun t =>
    match t.deleteUser id with
    | .ok t => (.ok 200 [("status", .string "deleted")], t)
    | .error e => (.error 500 (w.describe e), t)

/-- The user is named in the path, or in the body when the path says so. -/
def adminCreateKey (userIdPath : String) (body : AdminCreateKeyReq) :
    Tables → AdminResponse × Tables :=
  adminOnly caller fun t =>
    let target := if userIdPath = "__self__" then body.userId else userIdPath
    if target = "" then (.error 400 "user_id required", t)
    else
      match t.createApiKey w.store w.now w.id w.plaintext target body.name with
      | .ok (_, t) =>
        (.ok 200 [("api_key", .string w.plaintext), ("user_id", .string target),
          ("warning", .string "Save this key — it won't be shown again.")], t)
      | .error e => (.error 500 (w.describe e), t)

end Users

end Admin

namespace RouterState

variable (s : RouterState)

def onApp (f : AppState → AdminResponse × AppState) : AdminReply × RouterState :=
  let (response, app) := f s.app
  (.json response, { s with app := app })

def onOauth (f : OAuthStore → AdminResponse × OAuthStore) : AdminReply × RouterState :=
  let (response, oauth) := f s.oauth
  (.json response, { s with oauth := oauth })

def onPending (f : PendingFlows → AdminReply × PendingFlows) : AdminReply × RouterState :=
  let (reply, pending) := f s.oauth.pending
  (reply, { s with oauth := { s.oauth with pending := pending } })

def onTables (f : Tables → AdminResponse × Tables) : AdminReply × RouterState :=
  let (response, tables) := f s.tables
  (.json response, { s with tables := tables })

end RouterState

namespace AdminRequest

variable (w : AdminWorld) (caller : UserContext)

/-- The handler that a route leads to. -/
def handle : AdminRequest → RouterState → AdminReply × RouterState
  | reloadConfig, s => s.onApp (Admin.reloadConfig w.tools w.name w.file)
  | saveConfig, s => s.onApp (Admin.saveConfig w.tools.toml w.outcome)
  | edit op, s => s.onApp (op.handle w.tools.toml w.outcome)
  | uiRemoveProvider id, s =>
    let (reply, app) := Admin.uiRemoveProvider w.tools.toml w.outcome id s.app
    (reply, { s with app := app })
  | setKey providerId key, s => s.onOauth (Admin.setKey w.flow providerId key)
  | deleteKey providerId, s => s.onOauth (Admin.deleteKey w.flow w.deleted providerId)
  | setOauthRefresh providerId key, s => s.onOauth (Admin.setOauthRefresh w.flow providerId key)
  | startOauth providerId body, s =>
    s.onPending (Admin.startOauth w.flow s.app.config.memory providerId body)
  | oauthCallback providerId params, s =>
    let (reply, oauth) :=
      Admin.oauthCallback w.flow s.app.config.memory providerId params s.oauth
    (reply, { s with oauth := oauth })
  | pasteAnthropicCode providerId body, s => s.onOauth (Admin.pasteCode w.flow providerId body)
  | setupOauthViaCli providerId body, s =>
    s.onOauth (Admin.setupOauthViaCli w.flow w.refresh providerId body)
  | startDeviceOauth providerId, s =>
    s.onPending fun pending =>
      let (response, pending) := Admin.startDeviceOauth w.flow providerId pending
      (.json response, pending)
  | pollDeviceOauth body, s => s.onOauth (Admin.pollDeviceOauth w.flow body)
  | createUser body, s => s.onTables (Admin.createUser w caller body)
  | deleteUser id, s => s.onTables (Admin.deleteUser w caller id)
  | adminCreateKey userIdPath body, s =>
    s.onTables (Admin.adminCreateKey w caller userIdPath body)

end AdminRequest

namespace Tables

variable (tools : StoreTools) (now : Utc)

/-- The sessions of a request are looked up one after the other, and the one that is found is
marked as seen. -/
def touchCookies : List (String × String) → Tables → Tables
  | [], t => t
  | (name, value) :: rest, t =>
    if name = AuthMiddleware.sessionCookie then
      match t.getSession tools now value with
      | (.ok (some _), t) => t
      | _ => touchCookies rest t
    else touchCookies rest t

/-- What the lookups of the middleware write. -/
def touched (env : String → Option String) (auth : AuthConfig) (req : AuthRequest) (t : Tables) :
    Tables :=
  let presented := AuthMiddleware.extractToken req
  let after :=
    if Str.startsWith presented "tk-" then (t.getUserByApiKey tools now presented).2 else t
  if (AuthMiddleware.tokenContext env (t.userStore tools now) auth presented).isSome then after
  else
    match req.cookie with
    | none => after
    | some header => after.touchCookies tools now (AuthMiddleware.parseCookies header)

end Tables

namespace RouterState

variable (w : AdminWorld)

/-- What the middleware decides about a request. -/
def authenticate (req : AuthRequest) (s : RouterState) : Decision :=
  AuthMiddleware.middleware w.flow.env (s.tables.userStore w.store w.now) s.app.config.memory.auth
    req

/-- A request goes through the middleware to its handler. -/
def serve (req : AuthRequest) (request : AdminRequest) (s : RouterState) :
    AdminReply × RouterState :=
  let tables := s.tables.touched w.store w.now w.flow.env s.app.config.memory.auth req
  match s.authenticate w req with
  | .next caller => request.handle w caller { s with tables := tables }
  | decision => (.refused decision, { s with tables := tables })

end RouterState

end TokenDealer
