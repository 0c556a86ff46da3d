import Mathlib.Logic.Relation
import TokenDealer.AdminSetup
import TokenDealer.EmailLookup
import TokenDealer.KeyEndpoints
import TokenDealer.Router

set_option autoImplicit true

namespace TokenDealer

/-- A login brings a key, or an address with a password. -/
structure LoginReq where
  apiKey : Option String := none
  email : Option String := none
  password : Option String := none
  deriving DecidableEq, Repr

/-- What a login draws and calls, and the headers that it notes. -/
structure LoginWorld where
  store : StoreTools
  now : Utc
  sessionId : String
  token : String
  verifyPassword : String → String → Bool
  userAgent : Option String
  forwardedFor : Option String
  describe : StoreError → String

structure LoginReply where
  response : AdminResponse
  setCookie : Option String := none

/-- An identifier that is drawn at random is written with 36 characters. -/
def Drawn (id : String) : Prop := id.length = 36

instance : DecidablePred Drawn := fun id => inferInstanceAs (Decidable (id.length = 36))

def UserRow.touch (now : Utc) (id : String) (u : UserRow) : UserRow :=
  if u.id = id then { u with lastLoginAt := some (Calendar.sqlTimestamp now) } else u

theorem UserRow.touch_same (now : Utc) (id : String) (u : UserRow) :
    (u.touch now id).id = u.id ∧ (u.touch now id).email = u.email := by
  rw [touch]
  split <;> exact ⟨rfl, rfl⟩

namespace Tables

theorem owner_of_touch {users : Sql.Table UserRow UserRow.Clash} {id : String} {hf}
    (howner : ∃ u ∈ users.rows, u.id = userId) :
    ∃ u ∈ (users.update (UserRow.touch now id) hf).rows, u.id = userId := by
  obtain ⟨u, hu, hid⟩ := howner
  exact ⟨_, Sql.Table.mem_update.mpr ⟨u, hu, rfl⟩, (u.touch_same now id).1.trans hid⟩

def touchLastLogin (now : Utc) (id : String) (t : Tables) : Tables :=
  { t with
    users := t.users.update (UserRow.touch now id) fun a b h => by
      rwa [UserRow.Clash, (a.touch_same now id).1, (b.touch_same now id).1,
        (a.touch_same now id).2, (b.touch_same now id).2] at h
    apiKeys_user := fun k hk => owner_of_touch (t.apiKeys_user k hk)
    sessions_user := fun s hs => owner_of_touch (t.sessions_user s hs)
    tokenUsage_user := fun r hr => owner_of_touch (t.tokenUsage_user r hr) }

theorem mem_touchLastLogin {t : Tables} {id : String} {u : UserRow} :
    u ∈ (t.touchLastLogin now id).users.rows ↔ ∃ a ∈ t.users.rows, a.touch now id = u :=
  List.mem_map

/-- There are no keys, and the users go by identifiers that have been drawn. -/
structure Keyless (t : Tables) : Prop where
  keys : t.apiKeys.rows = []
  users : ∀ u ∈ t.users.rows, Drawn u.id

/-- The first administrator is made when the server starts and finds no user. -/
def bootstrapAdmin (tools : StoreTools) (now : Utc) (id : String) (hashed : Except String String)
    (t : Tables) : Tables :=
  match t.listUsers tools now with
  | .ok [] => t.step tools (.createUser now id "admin@local" "Admin" (hashed.map some) .admin)
  | _ => t

end Tables

namespace Login

/-- Thirty days. -/
def sessionTtlHours : Int64 := 720

def cookie (token : String) (maxAge : Nat) : String :=
  s!"{AuthMiddleware.sessionCookie}={token}; HttpOnly; SameSite=Lax; Path=/; Max-Age={maxAge}"

section

variable (w : LoginWorld)

/-- That the user was there is noted as far as it can be; a session is needed. -/
def finishLogin (user : UserRecord) (t : Tables) : LoginReply × Tables :=
  let t := t.touchLastLogin w.now user.id
  let ip := w.forwardedFor.map fun s => String.ofList ((Str.split ',' s.toList).headD [])
  match t.createSession w.store w.now w.sessionId w.token user.id w.userAgent ip
      sessionTtlHours with
  | .error e => ({ response := .error 500 ("session: " ++ w.describe e) }, t)
  | .ok (_, t) =>
    ({ response := .ok 200 [("status", .string "ok"), ("user", .object [("id", .string user.id),
        ("email", .string user.email), ("name", .string user.name),
        ("role", .string user.role.asStr)])],
       setCookie := some (cookie w.token 2592000) }, t)

def login (body : LoginReq) (t : Tables) : LoginReply × Tables :=
  match body.apiKey.filter fun key => key ≠ "" with
  | some key =>
    match t.getUserByApiKey w.store w.now key with
    | (.ok (some (user, _)), t) => finishLogin w user t
    | (_, t) => ({ response := .error 401 "invalid API key" }, t)
  | none =>
    match body.email, body.password with
    | some email, some password =>
      match t.getUserByEmail w.store w.now email with
      | .ok (some user) =>
        match user.passwordHash with
        | none => ({ response := .error 401 "password login not enabled for this user" }, t)
        | some hash =>
          if w.verifyPassword password hash then finishLogin w user t
          else ({ response := .error 401 "invalid credentials" }, t)
      | _ => ({ response := .error 401 "invalid credentials" }, t)
    | _, _ => ({ response := .error 400 "provide api_key OR email+password" }, t)

end

def logout (caller : UserContext) (t : Tables) : LoginReply × Tables :=
  ({ response := .ok 200 [("status", .string "ok")], setCookie := some (cookie "" 0) },
    match caller.sessionId with
    | some id => t.deleteSession id
    | none => t)

/-- Whoever sets the server up is signed in at once; a session that fails goes unnoticed. -/
def setupSubmit (w : LoginWorld) (queried stored : Except StoreError Unit) (id : String)
    (hashed : Except String String) (body : LoginForm) (t : Tables) : Tables :=
  match setupCheck w.store t w.now queried body with
  | .error _ => t
  | .ok r =>
    match setupCreate w.store t w.now r id hashed stored with
    | .error _ => t
    | .ok t => t.step w.store
      (.createSession w.now w.sessionId w.token id w.userAgent none sessionTtlHours)

end Login

/-- What a handler asks of the user tables. -/
inductive UserCall where
  | op (op : StoreOp)
  | touchLastLogin (now : Utc) (userId : String)

def UserCall.run (tools : StoreTools) (t : Tables) : UserCall → Tables
  | .op call => t.step tools call
  | .touchLastLogin now userId => t.touchLastLogin now userId

/-- What the handlers that are open to everybody may ask of the user tables. -/
inductive Handler.Calls : Handler → UserContext → UserCall → Prop
  | setupUser {id : String} (hid : Drawn id) :
    Calls .setupSubmit context (.op (.createUser now id email name hashed .admin))
  | setupSession (id : String) :
    Calls .setupSubmit context (.op (.createSession now id token userId userAgent ip ttlHours))
  | loginKey (now : Utc) (key : String) : Calls .login context (.op (.getUserByApiKey now key))
  | loginTouch (now : Utc) (userId : String) : Calls .login context (.touchLastLogin now userId)
  | loginSession (id : String) :
    Calls .login context (.op (.createSession now id token userId userAgent ip ttlHours))
  | logout {id : String} (hsession : context.sessionId = some id) :
    Calls .logout context (.op (.deleteSession id))
  | createOwnKey (id : String) :
    Calls .createOwnKey context (.op (.createApiKey now id plaintext context.userId name))
  | deleteOwnKey (id : String) : Calls .deleteOwnKey context (.op (.deleteApiKey id))

/-- A request that the middleware has let through to a handler. -/
structure Task where
  context : UserContext
  handler : Handler

/-- A running server with the requests that are at their handlers. -/
structure AuthServer where
  auth : AuthConfig
  tables : Tables
  tasks : List Task := []

namespace AuthServer

variable (env : String → Option String) (tools : StoreTools) (takesEmpty : Bool)

/-- A request comes in. Looking its key up notes when that was. -/
def arrive (now : Utc) (req : AuthRequest) (s : AuthServer) : AuthServer :=
  let token := AuthMiddleware.extractToken req
  let tables :=
    if Str.startsWith token "tk-" then s.tables.step tools (.getUserByApiKey now token)
    else s.tables
  match AuthMiddleware.middleware env (s.tables.userStore tools now) s.auth req with
  | .next context =>
    match dispatch takesEmpty req.method req.path with
    | .handler h _ => { s with tables := tables, tasks := s.tasks ++ [⟨context, h⟩] }
    | _ => { s with tables := tables }
  | _ => { s with tables := tables }

/-- Requests come in, and those that are there take effect call by call, in any order. What the
handlers that are not open to everybody do is left open altogether. -/
inductive Step : AuthServer → AuthServer → Prop
  | start {id : String} (hid : Drawn id) :
    Step s { s with tables := s.tables.bootstrapAdmin tools now id hashed, tasks := [] }
  | arrive (now : Utc) (req : AuthRequest) : Step s (s.arrive env tools takesEmpty now req)
  | call (htask : task ∈ s.tasks) (hcall : task.handler.Calls task.context call) :
    Step s { s with tables := call.run tools s.tables }
  | beyond (htask : task ∈ s.tasks) (hbeyond : task.handler ∉ openHandlers) : Step s s'

/-- Nothing is configured that a request could bear. -/
def Unconfigured (auth : AuthConfig) : Prop :=
  AuthMiddleware.keysFromConfig env auth = [] ∧
    ∀ password, env "TOKEN_DEALER_ADMIN_PASSWORD" = some password → password = ""

/-- Nobody has a key, and nobody who could be given one is at a handler. -/
structure Locked (auth : AuthConfig) (s : AuthServer) : Prop where
  auth : s.auth = auth
  tables : s.tables.Keyless
  tasks : ∀ task ∈ s.tasks, task.context.userId = "anonymous" ∧ task.handler ∈ openHandlers

end AuthServer

section Handlers

variable {tools : StoreTools} {t t' : Tables} {h : Handler} {context : UserContext} {w : LoginWorld}
  {call : UserCall}

/-- What a handler has made of the tables comes of calls that it may make. -/
def Handler.Performs (h : Handler) (context : UserContext) (tools : StoreTools)
    (t t' : Tables) : Prop :=
  ∃ calls : List UserCall, (∀ call ∈ calls, h.Calls context call) ∧
    calls.foldl (UserCall.run tools) t = t'

theorem Handler.Performs.refl : h.Performs context tools t t :=
  ⟨[], List.forall_mem_nil _, rfl⟩

theorem Handler.Performs.head (hcall : h.Calls context call)
    (hrest : h.Performs context tools (call.run tools t) t') : h.Performs context tools t t' := by
  obtain ⟨calls, hcalls, hrun⟩ := hrest
  exact ⟨call :: calls, List.forall_mem_cons.mpr ⟨hcall, hcalls⟩, hrun⟩

theorem Handler.Performs.single (hcall : h.Calls context call) :
    h.Performs context tools t (call.run tools t) := .head hcall .refl

theorem finishLogin_performs (user : UserRecord) :
    Handler.login.Performs context w.store t (Login.finishLogin w user t).2 := by
  refine .head (.loginTouch w.now user.id) ?_
  rw [UserCall.run, Login.finishLogin]
  generalize t.touchLastLogin w.now user.id = t
  generalize (w.forwardedFor.map fun s => String.ofList ((Str.split ',' s.toList).headD [])) = ip
  rcases Tables.step_creates w.store t (.createSession w.now w.sessionId w.token user.id w.userAgent
    ip Login.sessionTtlHours) rfl with ⟨session, t', hok, hstep⟩ | ⟨e, hok, hstep⟩
  · rw [hok]
    exact hstep ▸ .single (.loginSession w.sessionId)
  · rw [hok]
    exact .refl

theorem login_performs (body : LoginReq) :
    Handler.login.Performs context w.store t (Login.login w body t).2 := by
  rw [Login.login]
  split
  · next key _ =>
    refine .head (.loginKey w.now key) ?_
    rw [UserCall.run, Tables.step_of_ok rfl]
    split
    · next user key' t' hfound =>
      rw [hfound]
      exact finishLogin_performs user
    · next t' _ hfound =>
      rw [hfound]
      exact .refl
  · split
    · split
      · split
        · exact .refl
        · split
          · exact finishLogin_performs _
          · exact .refl
      · exact .refl
    · exact .refl

theorem setupSubmit_performs (queried stored : Except StoreError Unit) {id : String}
    (hid : Drawn id) (hashed : Except String String) (body : LoginForm) :
    Handler.setupSubmit.Performs context w.store t
      (Login.setupSubmit w queried stored id hashed body t) := by
  rw [Login.setupSubmit]
  split
  · exact .refl
  · next r _ =>
    split
    · exact .refl
    · next t' hcreated =>
      have hstep : t.step w.store (.createUser w.now id r.email r.name (hashed.map some) .admin) =
          t' := by
        cases stored with
        | error e => cases hcreated
        | ok u => exact Tables.step_of_ok hcreated
      have hcall : Handler.setupSubmit.Calls context
          (.op (.createUser w.now id r.email r.name (hashed.map some) .admin)) := .setupUser hid
      refine .head hcall ?_
      rw [UserCall.run, hstep]
      exact .single (.setupSession w.sessionId)

theorem logout_performs :
    Handler.logout.Performs context tools t (Login.logout context t).2 := by
  rw [Login.logout]
  cases hsession : context.sessionId with
  | none => exact .refl
  | some id => exact .single (.logout hsession)

theorem createOwnKey_performs (w : AdminWorld) (body : Json.Value) :
    Handler.createOwnKey.Performs context w.store t
      (KeyEndpoints.createOwnKey w context body t).2 := by
  rw [KeyEndpoints.createOwnKey_snd]
  exact .single (.createOwnKey w.id)

theorem deleteOwnKey_performs (w : AdminWorld) (id : String) :
    Handler.deleteOwnKey.Performs context w.store t
      (KeyEndpoints.deleteOwnKey w context id t).2 := by
  rw [KeyEndpoints.deleteOwnKey]
  split
  · exact .single (.deleteOwnKey id)
  · exact .refl

end Handlers

namespace Tables

section Keyless

variable {tools : StoreTools} {t t' : Tables} {context : UserContext} {call : UserCall}

theorem Keyless.of_same (h : t.Keyless) (hkeys : t'.apiKeys = t.apiKeys)
    (husers : t'.users = t.users) : t'.Keyless where
  keys := hkeys ▸ h.keys
  users := husers ▸ h.users

theorem Keyless.createUser (h : t.Keyless) {id : String} (hid : Drawn id) (now : Utc)
    (email name : String) (hashed : Except String (Option String)) (role : UserRole) :
    (t.step tools (.createUser now id email name hashed role)).Keyless where
  keys := by
    rw [apiKeys_createUser]
    exact h.keys
  users := by
    rcases step_creates tools t (.createUser now id email name hashed role) rfl with
      ⟨user, t', hok, hstep⟩ | ⟨e, -, hstep⟩
    · obtain ⟨row, hinsert, hrow, rfl, -⟩ := createUser_eq_ok hok
      rw [hstep]
      intro u hu
      rcases (Sql.Table.mem_insert hinsert).mp hu with hold | rfl
      · exact h.users u hold
      · have hsame : u.id = user.id := congrArg User.id hrow
        exact hsame ▸ hid
    · rw [hstep]
      exact h.users

theorem Keyless.createSession (h : t.Keyless) (now : Utc) (id token userId : String)
    (userAgent ip : Option String) (ttlHours : Int64) :
    (t.step tools (.createSession now id token userId userAgent ip ttlHours)).Keyless :=
  h.of_same (apiKeys_createSession tools t now id token userId userAgent ip ttlHours)
    (step_users rfl)

theorem Keyless.getUserByApiKey (h : t.Keyless) (now : Utc) (key : String) :
    (t.step tools (.getUserByApiKey now key)).Keyless where
  keys := by
    rcases step_getUserByApiKey tools t now key with hstep | ⟨id, hstep⟩
    · rw [hstep]
      exact h.keys
    · rw [hstep]
      exact List.map_eq_nil_iff.mpr h.keys
  users := by
    rw [step_users rfl]
    exact h.users

/-- The anonymous caller is nobody who could own a key. -/
theorem Keyless.createApiKey (h : t.Keyless) {userId : String} (hanonymous : userId = "anonymous")
    (now : Utc) (id plaintext name : String) :
    (t.step tools (.createApiKey now id plaintext userId name)).Keyless := by
  rcases step_creates tools t (.createApiKey now id plaintext userId name) rfl with
    ⟨key, t', hok, hstep⟩ | ⟨e, -, hstep⟩
  · obtain ⟨-, -, -, -, -, -, -, -, -, u, hu, hid⟩ := createApiKey_eq_ok hok
    have hdrawn : Drawn "anonymous" := hanonymous ▸ hid ▸ h.users u hu
    exact absurd hdrawn (by decide)
  · rw [hstep]
    exact h

theorem Keyless.run_call (h : t.Keyless) (hanonymous : context.userId = "anonymous")
    {handler : Handler} (hcall : handler.Calls context call) : (call.run tools t).Keyless := by
  cases hcall with
  | setupUser hid => exact h.createUser hid _ _ _ _ _
  | setupSession | loginSession => exact h.createSession _ _ _ _ _ _ _
  | loginKey now key => exact h.getUserByApiKey now key
  | loginTouch now userId =>
    refine ⟨h.keys, ?_⟩
    intro u hu
    obtain ⟨a, ha, rfl⟩ := mem_touchLastLogin.mp hu
    exact (a.touch_same now userId).1 ▸ h.users a ha
  | logout => exact h.of_same rfl rfl
  | createOwnKey => exact h.createApiKey hanonymous _ _ _ _
  | deleteOwnKey id =>
    refine ⟨?_, h.users⟩
    have hrows : (t.deleteApiKey id).apiKeys.rows =
        t.apiKeys.rows.filter fun k => !decide (k.id = id) := rfl
    rw [UserCall.run, Tables.step_of_ok rfl, hrows, h.keys, List.filter_nil]

theorem Keyless.bootstrapAdmin (h : t.Keyless) {id : String} (hid : Drawn id) (now : Utc)
    (hashed : Except String String) : (t.bootstrapAdmin tools now id hashed).Keyless := by
  rw [Tables.bootstrapAdmin]
  split
  · exact h.createUser hid _ _ _ _ _
  · exact h

end Keyless

end Tables

namespace AuthServer

section Handlers

variable {env : String → Option String} {takesEmpty : Bool} {s : AuthServer} {task : Task}
  {tools : StoreTools} {t' : Tables}

theorem reaches_of_performs (htask : task ∈ s.tasks)
    (h : task.handler.Performs task.context tools s.tables t') :
    Relation.ReflTransGen (Step env tools takesEmpty) s { s with tables := t' } := by
  obtain ⟨calls, hcalls, rfl⟩ := h
  induction calls generalizing s with
  | nil => exact .refl
  | cons call calls ih =>
    obtain ⟨hcall, hcalls⟩ := List.forall_mem_cons.mp hcalls
    exact .head (.call htask hcall) (ih (s := { s with tables := _ }) htask hcalls)

/-- What the open handlers do to the tables, the server can do step by step. -/
theorem open_handlers_reach (htask : task ∈ s.tasks) {id : String} (hid : Drawn id)
    (w : LoginWorld) (a : AdminWorld) (hw : w.store = tools) (ha : a.store = tools) :
    (task.handler = .setupSubmit → ∀ queried stored hashed body,
      Relation.ReflTransGen (Step env tools takesEmpty) s
        { s with tables := Login.setupSubmit w queried stored id hashed body s.tables }) ∧
    (task.handler = .login → ∀ body, Relation.ReflTransGen (Step env tools takesEmpty) s
      { s with tables := (Login.login w body s.tables).2 }) ∧
    (task.handler = .logout → Relation.ReflTransGen (Step env tools takesEmpty) s
      { s with tables := (Login.logout task.context s.tables).2 }) ∧
    (task.handler = .createOwnKey → ∀ body, Relation.ReflTransGen (Step env tools takesEmpty) s
      { s with tables := (KeyEndpoints.createOwnKey a task.context body s.tables).2 }) ∧
    (task.handler = .deleteOwnKey → ∀ keyId, Relation.ReflTransGen (Step env tools takesEmpty) s
      { s with tables := (KeyEndpoints.deleteOwnKey a task.context keyId s.tables).2 }) := by
  refine ⟨?_, ?_, ?_, ?_, ?_⟩
  · intro hhandler queried stored hashed body
    have hperforms : Handler.setupSubmit.Performs task.context w.store s.tables
        (Login.setupSubmit w queried stored id hashed body s.tables) :=
      setupSubmit_performs queried stored hid hashed body
    exact reaches_of_performs htask (hhandler ▸ hw ▸ hperforms)
  · intro hhandler body
    exact reaches_of_performs htask (hhandler ▸ hw ▸ login_performs body)
  · intro hhandler
    exact reaches_of_performs htask (hhandler ▸ logout_performs)
  · intro hhandler body
    exact reaches_of_performs htask (hhandler ▸ ha ▸ createOwnKey_performs a body)
  · intro hhandler keyId
    exact reaches_of_performs htask (hhandler ▸ ha ▸ deleteOwnKey_performs a keyId)

end Handlers

section Locked

variable {env : String → Option String} {tools : StoreTools} {takesEmpty : Bool}
  {auth : AuthConfig} {s s' : AuthServer} {t : Tables} {now : Utc} {req : AuthRequest}

theorem Locked.unproven (h : Locked auth s) (hnone : Unconfigured env auth) (now : Utc)
    (req : AuthRequest) :
    AuthMiddleware.Unproven env (s.tables.userStore tools now) s.auth req := by
  obtain ⟨hkeys, hpassword⟩ := hnone
  constructor
  · cases hcontext : AuthMiddleware.tokenContext env (s.tables.userStore tools now) s.auth
      (AuthMiddleware.extractToken req) with
    | none => rfl
    | some context =>
      obtain ⟨hne, ⟨user, front, hfound, -⟩ | ⟨hkey, -⟩ | ⟨henv, -⟩⟩ :=
        AuthMiddleware.tokenContext_eq_some hcontext
      · obtain ⟨k, hk, -⟩ := AuthMiddleware.liveKey_of_userStore hfound
        rw [h.tables.keys] at hk
        cases hk
      · rw [h.auth, hkeys] at hkey
        cases hkey
      · exact absurd (hpassword _ henv) hne
  · cases hcontext : AuthMiddleware.sessionContext (s.tables.userStore tools now) req with
    | none => rfl
    | some context =>
      obtain ⟨_, value, _, _, -, -, hfound, -⟩ := AuthMiddleware.sessionContext_eq_some hcontext
      rw [AuthMiddleware.getSession_userStore] at hfound
      cases hfound

theorem anonymous_userId {context : UserContext}
    (h : AuthMiddleware.anonymous auth req = .next context) : context.userId = "anonymous" := by
  rw [AuthMiddleware.anonymous] at h
  split at h
  · cases h
    rfl
  · split at h
    · cases h
      rfl
    · split at h
      · cases h
      · split at h
        · rcases AuthMiddleware.uiOrAdminUnauthorized_refuses req with ⟨_, hr⟩ | ⟨_, hr⟩ <;>
            rw [hr] at h <;> cases h
        · cases h
          rfl

theorem Locked.arrive (h : Locked auth s) (henabled : auth.enabled = true)
    (hnone : Unconfigured env auth) (now : Utc) (req : AuthRequest) :
    Locked auth (s.arrive env tools takesEmpty now req) := by
  have hunproven : AuthMiddleware.Unproven env (s.tables.userStore tools now) s.auth req :=
    h.unproven hnone now req
  rw [AuthServer.arrive]
  generalize htables : (if Str.startsWith (AuthMiddleware.extractToken req) "tk-" then
    s.tables.step tools (.getUserByApiKey now (AuthMiddleware.extractToken req))
    else s.tables) = tables
  have hkeyless : tables.Keyless := by
    rw [← htables]
    split
    · exact h.tables.getUserByApiKey now _
    · exact h.tables
  split
  · next context hnext =>
    split
    · next handler values hdispatch =>
      refine ⟨h.auth, hkeyless, ?_⟩
      intro task htask
      rcases List.mem_append.mp htask with hold | hnew
      · exact h.tasks task hold
      · rw [List.mem_singleton.mp hnew]
        refine ⟨?_, ?_⟩
        · rw [AuthMiddleware.middleware_unproven hunproven] at hnext
          exact anonymous_userId hnext
        · exact open_of_reached (h.auth ▸ henabled) hunproven hnext hdispatch
    · exact ⟨h.auth, hkeyless, h.tasks⟩
  · exact ⟨h.auth, hkeyless, h.tasks⟩

theorem Locked.step (h : Locked auth s) (henabled : auth.enabled = true)
    (hnone : Unconfigured env auth) (hstep : Step env tools takesEmpty s s') : Locked auth s' := by
  cases hstep with
  | start hid => exact ⟨h.auth, h.tables.bootstrapAdmin hid _ _, List.forall_mem_nil _⟩
  | arrive now req => exact h.arrive henabled hnone now req
  | call htask hcall =>
    exact ⟨h.auth, h.tables.run_call (h.tasks _ htask).1 hcall, h.tasks⟩
  | beyond htask hbeyond => exact absurd (h.tasks _ htask).2 hbeyond

theorem Locked.run (h : Locked auth s) (henabled : auth.enabled = true)
    (hnone : Unconfigured env auth)
    (hrun : Relation.ReflTransGen (Step env tools takesEmpty) s s') : Locked auth s' := by
  induction hrun with
  | refl => exact h
  | tail _ hstep ih => exact ih.step henabled hnone hstep

end Locked

/-- A request that bears a text as the password of its user. -/
def basicRequest (password : String) : AuthRequest where
  authorization :=
    some ("Basic " ++ String.ofList (Base64.encode (Utf8.encode (":" ++ password).toList)))
  method := "GET"
  path := "/v1/models"

theorem extractToken_basic (password : String) :
    AuthMiddleware.extractToken (basicRequest password) = password := by
  have hbearer : ∀ s, Str.stripPrefix "Bearer " ("Basic " ++ s) = none := by
    intro s
    rw [Str.stripPrefix, String.toList_append]
    rfl
  have hcolon : ":" ++ password = "" ++ String.singleton ':' ++ password := by
    rw [String.empty_append]
    rfl
  have hsplit : Str.splitOnce ':' (":" ++ password) = some ("", password) := by
    rw [hcolon]
    exact Str.splitOnce_append List.not_mem_nil password
  rw [AuthMiddleware.extractToken, basicRequest]
  dsimp only
  rw [hbearer, Str.stripPrefix_append]
  simp only [String.toList_ofList, trimList_encode, Base64.decode_encode, fromUtf8_encode, hsplit,
    Option.bind_eq_bind, Option.bind_some, Option.map_some, Option.getD_some]

section FirstCredential

variable {env : String → Option String} {tools : StoreTools} {takesEmpty : Bool}
  {auth : AuthConfig} {t : Tables}

/-- Whatever is configured is accepted. -/
theorem exists_accepted (henabled : auth.enabled = true) (hsome : ¬ Unconfigured env auth)
    (store : UserStore) : ∃ req, ¬ AuthMiddleware.Unproven env store auth req := by
  have haccepted : ∃ token, token ≠ "" ∧ (token ∈ AuthMiddleware.keysFromConfig env auth ∨
      env "TOKEN_DEALER_ADMIN_PASSWORD" = some token) := by
    rw [Unconfigured, Classical.not_and_iff_not_or_not, not_forall] at hsome
    rcases hsome with hkeys | ⟨password, hpassword⟩
    · obtain ⟨key, hkey⟩ := List.exists_mem_of_ne_nil _ hkeys
      exact ⟨key, (AuthMiddleware.mem_keysFromConfig.mp hkey).1, .inl hkey⟩
    · obtain ⟨henv, hne⟩ := Classical.not_imp.mp hpassword
      exact ⟨password, hne, .inr henv⟩
  obtain ⟨token, hne, htoken⟩ := haccepted
  refine ⟨basicRequest token, ?_⟩
  intro hunproven
  have hnone := hunproven.1
  rw [extractToken_basic, AuthMiddleware.tokenContext, if_neg hne, Option.or_eq_none_iff,
    Option.or_eq_none_iff] at hnone
  obtain ⟨-, hkey, hpassword⟩ := hnone
  rcases htoken with hmem | henv
  · have hsome := (AuthMiddleware.isSome_legacyKeyContext henabled).mpr hmem
    rw [hkey] at hsome
    cases hsome
  · have hsome := (AuthMiddleware.isSome_envPasswordContext hne).mpr henv
    rw [hpassword] at hsome
    cases hsome

/-- Where authentication is on and there are no keys yet, no run of the server comes to a state that
accepts a credential unless one is configured from outside: neither the administrator that the
server makes when it starts nor the one of the setup page nor any login leads to one. -/
theorem first_credential_iff (henabled : auth.enabled = true) (hkeyless : t.Keyless) :
    (∃ s now req, Relation.ReflTransGen (Step env tools takesEmpty) ⟨auth, t, []⟩ s ∧
        ¬ AuthMiddleware.Unproven env (s.tables.userStore tools now) s.auth req) ↔
      ¬ Unconfigured env auth := by
  constructor
  · rintro ⟨s, now, req, hrun, haccepted⟩ hnone
    have hlocked : Locked auth (⟨auth, t, []⟩ : AuthServer) :=
      ⟨rfl, hkeyless, List.forall_mem_nil _⟩
    exact haccepted ((hlocked.run henabled hnone hrun).unproven hnone now req)
  · intro hsome
    obtain ⟨req, hreq⟩ := exists_accepted henabled hsome (t.userStore tools 0)
    exact ⟨_, 0, req, .refl, hreq⟩

end FirstCredential

/-- A server that has been started once. -/
def startedTables : Tables :=
  Tables.empty.bootstrapAdmin Tables.sampleStoreTools Tables.sampleNow
    "c0ffee00-0000-4000-8000-000000000000" (.ok "$argon2id$")

/-- The administrator that it has made gets nothing out of it. -/
theorem first_credential_never :
    ¬ ∃ s now req, Relation.ReflTransGen
        (Step (fun _ => none) Tables.sampleStoreTools false) ⟨{}, startedTables, []⟩ s ∧
      ¬ AuthMiddleware.Unproven (fun _ => none) (s.tables.userStore Tables.sampleStoreTools now)
        s.auth req := by
  have hempty : Tables.empty.Keyless := ⟨rfl, List.forall_mem_nil _⟩
  have hstarted : startedTables.Keyless := hempty.bootstrapAdmin (by decide) _ _
  intro hreached
  refine (first_credential_iff rfl hstarted).mp hreached ⟨rfl, ?_⟩
  intro password henv
  cases henv

end AuthServer

end TokenDealer
