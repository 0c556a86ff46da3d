import Mathlib.Data.List.Induction
import TokenDealer.AdminFrame
import TokenDealer.CredentialSoundness

set_option autoImplicit true

namespace TokenDealer

/-- What a request for a new key draws. -/
structure KeyDraw where
  now : Utc
  id : String
  plaintext : String
  deriving DecidableEq, Repr

def AdminWorld.drawing (w : AdminWorld) (draw : KeyDraw) : AdminWorld :=
  { w with now := draw.now, id := draw.id, plaintext := draw.plaintext }

/-- The keys of a user, the newest first by the text of its time. -/
def Tables.listApiKeys (tools : StoreTools) (now : Utc) (userId : String) (t : Tables) :
    Except Sql.ColumnError (List ApiKey) :=
  ((t.apiKeys.rows.filter fun k => k.userId = userId).mergeSort fun a b =>
    !Str.before a.createdAt b.createdAt).mapM fun k => rowToApiKey tools now k.columns

namespace KeyEndpoints

section Handlers

variable (w : AdminWorld) (caller : UserContext)

def createOwnKey (body : Json.Value) (t : Tables) : AdminResponse × Tables :=
  let name := (body.getStr "name").getD "default"
  match t.createApiKey w.store w.now w.id w.plaintext caller.userId name with
  | .ok (_, t) =>
    (.ok 200 [("api_key", .string w.plaintext),
      ("warning", .string "Save this key — it won't be shown again.")], t)
  | .error e => (.error 500 (w.describe e), t)

def keyJson (k : ApiKey) : Json.Value :=
  .object [("id", .string k.id), ("name", .string k.name), ("prefix", .string k.keyPrefix),
    ("created_at", .string (Calendar.rfc3339 k.createdAt)),
    ("last_used_at", (k.lastUsedAt.map fun d => .string (Calendar.rfc3339 d)).getD .null),
    ("revoked", .bool k.revoked)]

def listOwnKeys (t : Tables) : AdminResponse :=
  match t.listApiKeys w.store w.now caller.userId with
  | .ok keys => .ok 200 [("keys", .array (keys.map keyJson))]
  | .error e => .error 500 (w.describe (.column e))

/-- The check that a deletion begins with. A list that cannot be read counts as empty. -/
def ownsKey (id : String) (t : Tables) : Bool :=
  match t.listApiKeys w.store w.now caller.userId with
  | .ok keys => keys.any fun k => k.id = id
  | .error _ => false

def deleteOwnKey (id : String) (t : Tables) : AdminResponse × Tables :=
  if ownsKey w caller id t then (.ok 200 [("status", .string "deleted")], t.deleteApiKey id)
  else (.error 404 "not found", t)

end Handlers

/-- A statement that a request makes. A deletion makes two, its check and the deletion proper; other
requests may come between them. -/
inductive Event where
  | createOwnKey (caller : UserContext) (draw : KeyDraw) (body : Json.Value)
  | adminCreateKey (caller : UserContext) (draw : KeyDraw) (userIdPath : String)
      (body : AdminCreateKeyReq)
  | deleteUser (caller : UserContext) (id : String)
  | checkKey (caller : UserContext) (now : Utc) (id : String)
  | deleteKey (caller : UserContext) (id : String)
  | other (op : {op : StoreOp // op.editsApiKeys = false})

/-- The tables and the deletions that have passed their check. -/
structure State where
  tables : Tables := .empty
  checked : List (UserContext × String) := []

namespace Event

/-- The id drawn for a new key. -/
def newId : Event → Option String
  | createOwnKey _ draw _ | adminCreateKey _ draw _ _ => some draw.id
  | _ => none

/-- The user that an administrator makes a key for. -/
def target (userIdPath : String) (body : AdminCreateKeyReq) : String :=
  if userIdPath = "__self__" then body.userId else userIdPath

/-- The request is answered with a new key for a user. -/
def Gives (w : AdminWorld) (t : Tables) (e : Event) (keyId plaintext userId : String) : Prop :=
  (∃ caller now body, e = createOwnKey caller ⟨now, keyId, plaintext⟩ body ∧
      caller.userId = userId ∧
      (KeyEndpoints.createOwnKey (w.drawing ⟨now, keyId, plaintext⟩) caller body t).1.IsSuccess) ∨
    ∃ caller now path body, e = adminCreateKey caller ⟨now, keyId, plaintext⟩ path body ∧
      target path body = userId ∧
      (Admin.adminCreateKey (w.drawing ⟨now, keyId, plaintext⟩) caller path body t).1.IsSuccess

/-- The user takes the key away, or an administrator the user. -/
def Takes (e : Event) (keyId userId : String) : Prop :=
  (∃ caller, e = deleteKey caller keyId ∧ caller.userId = userId) ∨
    ∃ caller, e = deleteUser caller userId ∧ caller.isAdmin = true

end Event

variable (w : AdminWorld)

def State.step (s : State) : Event → State
  | .createOwnKey caller draw body =>
    { s with tables := (createOwnKey (w.drawing draw) caller body s.tables).2 }
  | .adminCreateKey caller draw userIdPath body =>
    { s with tables := (Admin.adminCreateKey (w.drawing draw) caller userIdPath body s.tables).2 }
  | .deleteUser caller id => { s with tables := (Admin.deleteUser w caller id s.tables).2 }
  | .checkKey caller now id =>
    if ownsKey { w with now := now } caller id s.tables then
      { s with checked := (caller, id) :: s.checked }
    else s
  | .deleteKey caller id =>
    if (caller, id) ∈ s.checked then
      { tables := s.tables.deleteApiKey id, checked := s.checked.erase (caller, id) }
    else s
  | .other op => { s with tables := s.tables.step w.store op }

def run (events : List Event) : State := events.foldl (State.step w) {}

/-- No key is deleted without its check, and no id is drawn twice. -/
structure Proper (events : List Event) : Prop where
  newIds : (events.filterMap Event.newId).Nodup
  checked : History.Always (fun front e => ∀ caller id, e = .deleteKey caller id →
    (caller, id) ∈ (run w front).checked) events

def Held (events : List Event) (keyId plaintext userId : String) : Prop :=
  History.Since (fun front e => e.Gives w (run w front).tables keyId plaintext userId)
    (fun e => e.Takes keyId userId) events

section Lists

variable {tools : StoreTools} {now : Utc} {t : Tables}

theorem rowToApiKey_row (tools : StoreTools) (now : Utc) (k : ApiKeyRow) :
    ∃ key, rowToApiKey tools now k.columns = .ok key ∧ key.id = k.id := by
  obtain ⟨id, userId, keyHash, keyPrefix, name, lastUsedAt, expiresAt, createdAt, revoked⟩ := k
  cases lastUsedAt <;> cases expiresAt <;> exact ⟨_, rfl, rfl⟩

theorem mapM_named {f : α → Except ε β} {name : α → γ} {name' : β → γ}
    (h : ∀ a, ∃ b, f a = .ok b ∧ name' b = name a) (as : List α) :
    ∃ bs, as.mapM f = .ok bs ∧ bs.map name' = as.map name := by
  induction as with
  | nil => exact ⟨[], rfl, rfl⟩
  | cons a as ih =>
    obtain ⟨b, hb, hname⟩ := h a
    obtain ⟨bs, hbs, hnames⟩ := ih
    refine ⟨b :: bs, ?_, ?_⟩
    · rw [List.mapM_cons, hb, hbs]
      rfl
    · rw [List.map_cons, List.map_cons, hname, hnames]

/-- The list of a user has the user's keys and no others. -/
theorem listApiKeys_eq_ok (tools : StoreTools) (now : Utc) (userId : String) (t : Tables) :
    ∃ keys : List ApiKey, t.listApiKeys tools now userId = .ok keys ∧
      ∀ id, id ∈ keys.map ApiKey.id ↔ ∃ k ∈ t.apiKeys.rows, k.userId = userId ∧ k.id = id := by
  obtain ⟨keys, hkeys, hids⟩ := mapM_named (rowToApiKey_row tools now)
    ((t.apiKeys.rows.filter fun k => k.userId = userId).mergeSort fun a b =>
      !Str.before a.createdAt b.createdAt)
  refine ⟨keys, hkeys, ?_⟩
  intro id
  rw [hids, List.mem_map]
  constructor
  · intro h
    obtain ⟨k, hk, hid⟩ := h
    obtain ⟨hk, howner⟩ := List.mem_filter.mp (List.mem_mergeSort.mp hk)
    exact ⟨k, hk, of_decide_eq_true howner, hid⟩
  · intro h
    obtain ⟨k, hk, howner, hid⟩ := h
    exact ⟨k, List.mem_mergeSort.mpr (List.mem_filter.mpr ⟨hk, decide_eq_true howner⟩), hid⟩

theorem ownsKey_iff {w : AdminWorld} {caller : UserContext} {keyId : String} :
    ownsKey w caller keyId t = true ↔
      ∃ k ∈ t.apiKeys.rows, k.userId = caller.userId ∧ k.id = keyId := by
  obtain ⟨keys, hkeys, hids⟩ := listApiKeys_eq_ok w.store w.now caller.userId t
  rw [ownsKey, hkeys, ← hids, List.mem_map]
  dsimp only
  rw [List.any_eq_true]
  simp only [decide_eq_true_eq]

end Lists

section Rows

variable {tools : StoreTools} {t : Tables} {op : StoreOp}

/-- A row of the keys after a call has been there before, or the call is for a key of this id. -/
theorem mem_rows_step (hop : ∀ id, op ≠ .revokeApiKey id)
    (hk : k ∈ (t.step tools op).apiKeys.rows) :
    (∃ a ∈ t.apiKeys.rows, a.id = k.id ∧ a.userId = k.userId ∧ a.keyHash = k.keyHash ∧
        a.revoked = k.revoked) ∨
      ∃ now plaintext name, op = .createApiKey now k.id plaintext k.userId name ∧
        k.keyHash = tools.sha256Hex plaintext ∧ k.revoked = false := by
  have hsame : ∀ {t' : Tables}, t'.apiKeys = t.apiKeys → k ∈ t'.apiKeys.rows →
      ∃ a ∈ t.apiKeys.rows, a.id = k.id ∧ a.userId = k.userId ∧ a.keyHash = k.keyHash ∧
        a.revoked = k.revoked := by
    intro t' hkeys hk
    exact ⟨k, hkeys ▸ hk, rfl, rfl, rfl, rfl⟩
  have hkept : ∀ {t' : Tables} {p : ApiKeyRow → Bool}, t'.apiKeys = t.apiKeys.deleteWhere p →
      k ∈ t'.apiKeys.rows → ∃ a ∈ t.apiKeys.rows, a.id = k.id ∧ a.userId = k.userId ∧
        a.keyHash = k.keyHash ∧ a.revoked = k.revoked := by
    intro t' p hkeys hk
    rw [hkeys] at hk
    exact ⟨k, (Sql.Table.mem_deleteWhere.mp hk).1, rfl, rfl, rfl, rfl⟩
  cases op with
  | revokeApiKey id => exact absurd rfl (hop id)
  | createUser now id email name hashed role =>
    exact .inl (hsame (Tables.apiKeys_createUser tools t now id email name hashed role) hk)
  | createSession now id token userId userAgent ip ttlHours =>
    exact .inl (hsame
      (Tables.apiKeys_createSession tools t now id token userId userAgent ip ttlHours) hk)
  | getSession now token =>
    rw [Tables.step_getSession] at hk
    exact .inl (hsame rfl hk)
  | deleteSession | deleteUserSessions => exact .inl (hsame rfl hk)
  | deleteApiKey id => exact .inl (hkept rfl hk)
  | deleteUser id =>
    obtain ⟨t', hok, -, hkeys, -⟩ := Tables.deleteUser_eq_ok t id
    have hstep : t.step tools (.deleteUser id) = t' := Tables.step_of_ok hok
    rw [hstep] at hk
    exact .inl (hkept hkeys hk)
  | getUserByApiKey now plaintext =>
    rcases Tables.step_getUserByApiKey tools t now plaintext with hstep | ⟨id, hstep⟩
    · rw [hstep] at hk
      exact .inl (hsame rfl hk)
    · rw [hstep] at hk
      obtain ⟨a, ha, rfl⟩ := Tables.mem_updateApiKeys.mp hk
      refine .inl ⟨a, ha, ?_⟩
      split <;> exact ⟨rfl, rfl, rfl, rfl⟩
  | createApiKey now id plaintext userId name =>
    rcases Tables.step_creates tools t (.createApiKey now id plaintext userId name) rfl with
      ⟨created, t', hok, hstep⟩ | ⟨e, -, hstep⟩
    · obtain ⟨row, hinsert, rfl, rfl, hhash, -, hlive, -⟩ := Tables.createApiKey_eq_ok hok
      rw [hstep] at hk
      rcases (Sql.Table.mem_insert hinsert).mp hk with hold | rfl
      · exact .inl (hsame rfl hold)
      · exact .inr ⟨now, plaintext, name, rfl, hhash, hlive⟩
    · rw [hstep] at hk
      exact .inl (hsame rfl hk)

end Rows

section Steps

variable {w : AdminWorld} {s : State} {t : Tables} {caller : UserContext}

/-- The call of the store that an event makes. -/
def Event.storeOp (s : State) : Event → Option StoreOp
  | .createOwnKey caller draw body => some (.createApiKey draw.now draw.id draw.plaintext
      caller.userId ((body.getStr "name").getD "default"))
  | .adminCreateKey caller draw userIdPath body =>
    if caller.isAdmin = true ∧ target userIdPath body ≠ "" then
      some (.createApiKey draw.now draw.id draw.plaintext (target userIdPath body) body.name)
    else none
  | .deleteUser caller id => if caller.isAdmin = true then some (.deleteUser id) else none
  | .checkKey _ _ _ => none
  | .deleteKey caller id => if (caller, id) ∈ s.checked then some (.deleteApiKey id) else none
  | .other op => some op

theorem createOwnKey_snd (w : AdminWorld) (caller : UserContext) (body : Json.Value) (t : Tables) :
    (createOwnKey w caller body t).2 = t.step w.store (.createApiKey w.now w.id w.plaintext
      caller.userId ((body.getStr "name").getD "default")) := by
  rcases Tables.step_creates w.store t (.createApiKey w.now w.id w.plaintext caller.userId
    ((body.getStr "name").getD "default")) rfl with ⟨key, t', hok, hstep⟩ | ⟨e, hok, hstep⟩
  · rw [createOwnKey, hstep, hok]
  · rw [createOwnKey, hstep, hok]

theorem adminCreateKey_snd (w : AdminWorld) (caller : UserContext) (path : String)
    (body : AdminCreateKeyReq) (t : Tables) :
    (Admin.adminCreateKey w caller path body t).2 =
      if caller.isAdmin = true ∧ Event.target path body ≠ "" then
        t.step w.store
          (.createApiKey w.now w.id w.plaintext (Event.target path body) body.name)
      else t := by
  rw [Admin.adminCreateKey, Admin.adminOnly, Event.target]
  cases caller.isAdmin with
  | false => rfl
  | true =>
    rw [if_neg (by decide : ¬ (!true) = true)]
    dsimp only
    generalize (if path = "__self__" then body.userId else path) = target
    by_cases htarget : target = ""
    · rw [if_pos htarget, if_neg fun h => h.2 htarget]
    · rw [if_neg htarget, if_pos ⟨rfl, htarget⟩]
      rcases Tables.step_creates w.store t
        (.createApiKey w.now w.id w.plaintext target body.name) rfl with
        ⟨key, t', hok, hstep⟩ | ⟨e, hok, hstep⟩
      · rw [hstep, hok]
      · rw [hstep, hok]

theorem createOwnKey_isSuccess {body : Json.Value} :
    (createOwnKey w caller body t).1.IsSuccess ↔ ∃ key t', t.createApiKey w.store w.now w.id
      w.plaintext caller.userId ((body.getStr "name").getD "default") = .ok (key, t') := by
  rw [createOwnKey]
  cases t.createApiKey w.store w.now w.id w.plaintext caller.userId
    ((body.getStr "name").getD "default") with
  | ok created => exact iff_of_true (by decide : 200 < 300) ⟨_, _, rfl⟩
  | error e =>
    refine iff_of_false (by decide : ¬ 500 < 300) ?_
    intro h
    obtain ⟨key, t', hok⟩ := h
    cases hok

theorem adminCreateKey_isSuccess {path : String} {body : AdminCreateKeyReq} :
    (Admin.adminCreateKey w caller path body t).1.IsSuccess ↔
      (caller.isAdmin = true ∧ Event.target path body ≠ "") ∧ ∃ key t', t.createApiKey w.store
        w.now w.id w.plaintext (Event.target path body) body.name = .ok (key, t') := by
  rw [Admin.adminCreateKey, Admin.adminOnly, Event.target]
  cases caller.isAdmin with
  | false => exact iff_of_false (by decide : ¬ 403 < 300) fun h => Bool.noConfusion h.1.1
  | true =>
    rw [if_neg (by decide : ¬ (!true) = true)]
    dsimp only
    generalize (if path = "__self__" then body.userId else path) = target
    by_cases htarget : target = ""
    · rw [if_pos htarget]
      exact iff_of_false (by decide : ¬ 400 < 300) fun h => h.1.2 htarget
    · rw [if_neg htarget]
      cases t.createApiKey w.store w.now w.id w.plaintext target body.name with
      | ok created => exact iff_of_true (by decide : 200 < 300) ⟨⟨rfl, htarget⟩, _, _, rfl⟩
      | error e =>
        refine iff_of_false (by decide : ¬ 500 < 300) ?_
        intro h
        obtain ⟨-, key, t', hok⟩ := h
        cases hok

theorem deleteUser_snd (w : AdminWorld) (caller : UserContext) (id : String) (t : Tables) :
    (Admin.deleteUser w caller id t).2 =
      if caller.isAdmin = true then t.step w.store (.deleteUser id) else t := by
  rw [Admin.deleteUser, Admin.adminOnly]
  cases caller.isAdmin with
  | false => rfl
  | true =>
    obtain ⟨t', hok, -⟩ := Tables.deleteUser_eq_ok t id
    have hstep : t.step w.store (.deleteUser id) = t' := Tables.step_of_ok hok
    rw [hstep, hok]
    rfl

/-- An event makes one call of the store or none. -/
theorem tables_step (w : AdminWorld) (s : State) (e : Event) :
    (s.step w e).tables = (e.storeOp s).elim s.tables (s.tables.step w.store) := by
  cases e with
  | createOwnKey caller draw body => exact createOwnKey_snd (w.drawing draw) caller body s.tables
  | adminCreateKey caller draw path body =>
    have hsnd := adminCreateKey_snd (w.drawing draw) caller path body s.tables
    rw [State.step, Event.storeOp, hsnd]
    split <;> rfl
  | deleteUser caller id =>
    rw [State.step, Event.storeOp, deleteUser_snd]
    split <;> rfl
  | checkKey caller now id =>
    rw [State.step]
    split <;> rfl
  | deleteKey caller id =>
    rw [State.step, Event.storeOp]
    split <;> rfl
  | other op => rfl

/-- All that a call can come from. -/
theorem storeOp_cases {e : Event} (h : e.storeOp s = some op) :
    (∃ caller draw body, e = .createOwnKey caller draw body ∧ op = .createApiKey draw.now draw.id
      draw.plaintext caller.userId ((body.getStr "name").getD "default")) ∨
    (∃ caller draw path body, e = .adminCreateKey caller draw path body ∧
      (caller.isAdmin = true ∧ Event.target path body ≠ "") ∧ op = .createApiKey draw.now draw.id
        draw.plaintext (Event.target path body) body.name) ∨
    (∃ caller id, e = .deleteUser caller id ∧ caller.isAdmin = true ∧ op = .deleteUser id) ∨
    (∃ caller id, e = .deleteKey caller id ∧ (caller, id) ∈ s.checked ∧
      op = .deleteApiKey id) ∨
    op.editsApiKeys = false := by
  cases e with
  | createOwnKey caller draw body =>
    cases h
    exact .inl ⟨caller, draw, body, rfl, rfl⟩
  | adminCreateKey caller draw path body =>
    obtain ⟨hadmin, hop⟩ := Option.ite_none_right_eq_some.mp h
    cases hop
    exact .inr (.inl ⟨caller, draw, path, body, rfl, hadmin, rfl⟩)
  | deleteUser caller id =>
    obtain ⟨hadmin, hop⟩ := Option.ite_none_right_eq_some.mp h
    cases hop
    exact .inr (.inr (.inl ⟨caller, id, rfl, hadmin, rfl⟩))
  | checkKey => cases h
  | deleteKey caller id =>
    obtain ⟨hchecked, hop⟩ := Option.ite_none_right_eq_some.mp h
    cases hop
    exact .inr (.inr (.inr (.inl ⟨caller, id, rfl, hchecked, rfl⟩)))
  | other op =>
    cases h
    exact .inr (.inr (.inr (.inr op.2)))

theorem storeOp_ne_revoke (s : State) (e : Event) (id : String) :
    e.storeOp s ≠ some (.revokeApiKey id) := by
  intro h
  rcases storeOp_cases h with ⟨_, _, _, -, hop⟩ | ⟨_, _, _, _, -, -, hop⟩ | ⟨_, _, -, -, hop⟩ |
    ⟨_, _, -, -, hop⟩ | hop <;> cases hop

/-- A key is created under the id that was drawn for it. -/
theorem newId_of_storeOp {e : Event}
    (h : e.storeOp s = some (.createApiKey now keyId plaintext userId name)) :
    e.newId = some keyId := by
  rcases storeOp_cases h with ⟨_, _, _, rfl, hop⟩ | ⟨_, _, _, _, rfl, -, hop⟩ |
    ⟨_, _, -, -, hop⟩ | ⟨_, _, -, -, hop⟩ | hop <;> cases hop <;> rfl

end Steps

section Runs

variable {w : AdminWorld} {events front : List Event} {e : Event} {keyId plaintext userId : String}

theorem run_concat (w : AdminWorld) (front : List Event) (e : Event) :
    run w (front ++ [e]) = (run w front).step w e := by
  rw [run, List.foldl_append]
  rfl

theorem newIds_concat (front : List Event) (e : Event) :
    (front ++ [e]).filterMap Event.newId = front.filterMap Event.newId ++ e.newId.toList := by
  rw [List.filterMap_append]
  cases h : e.newId with
  | none => rw [List.filterMap_cons_none h, List.filterMap_nil, Option.toList_none]
  | some id => rw [List.filterMap_cons_some h, List.filterMap_nil, Option.toList_some]

theorem Proper.of_concat (h : Proper w (front ++ [e])) : Proper w front where
  newIds := by
    have hids := h.newIds
    rw [newIds_concat] at hids
    exact (List.nodup_append.mp hids).1
  checked := h.checked.front

/-- What is known of the keys at any time: their ids have been drawn, and a deletion that has passed
its check is for a key of its caller, for as long as there is one of this id. -/
structure Sound (w : AdminWorld) (events : List Event) : Prop where
  drawn : ∀ k ∈ (run w events).tables.apiKeys.rows, k.id ∈ events.filterMap Event.newId
  live : ∀ k ∈ (run w events).tables.apiKeys.rows,
    k.revoked = false ∧ ∃ plaintext, k.keyHash = w.store.sha256Hex plaintext
  owned : ∀ c ∈ (run w events).checked, c.2 ∈ events.filterMap Event.newId ∧
    ∀ k ∈ (run w events).tables.apiKeys.rows, k.id = c.2 → k.userId = c.1.userId

/-- A row after an event has been there before, or is that of the key that the event makes. -/
theorem mem_rows_event {s : State} (hk : k ∈ (s.step w e).tables.apiKeys.rows) :
    (∃ a ∈ s.tables.apiKeys.rows, a.id = k.id ∧ a.userId = k.userId ∧ a.keyHash = k.keyHash ∧
        a.revoked = k.revoked) ∨
      e.newId = some k.id ∧ k.revoked = false ∧
        ∃ plaintext, k.keyHash = w.store.sha256Hex plaintext := by
  rw [tables_step] at hk
  cases hop : e.storeOp s with
  | none =>
    rw [hop] at hk
    exact .inl ⟨k, hk, rfl, rfl, rfl, rfl⟩
  | some op =>
    rw [hop] at hk
    have hne : ∀ id, op ≠ .revokeApiKey id := by
      rintro id rfl
      exact storeOp_ne_revoke s e id hop
    rcases mem_rows_step hne hk with hold | ⟨now, plaintext, name, rfl, hhash, hlive⟩
    · exact .inl hold
    · exact .inr ⟨newId_of_storeOp hop, hlive, plaintext, hhash⟩

/-- A check that has been passed is an old one, or the event is the check. -/
theorem mem_checked_event {s : State} (hc : c ∈ (s.step w e).checked) :
    c ∈ s.checked ∨ ∃ now, e = .checkKey c.1 now c.2 ∧
      ∃ k ∈ s.tables.apiKeys.rows, k.userId = c.1.userId ∧ k.id = c.2 := by
  cases e with
  | createOwnKey | adminCreateKey | deleteUser | other => exact .inl hc
  | checkKey caller now id =>
    rw [State.step] at hc
    split at hc
    · next howns =>
      rcases List.mem_cons.mp hc with rfl | hold
      · exact .inr ⟨now, rfl, ownsKey_iff.mp howns⟩
      · exact .inl hold
    · exact .inl hc
  | deleteKey caller id =>
    rw [State.step] at hc
    split at hc
    · exact .inl (List.mem_of_mem_erase hc)
    · exact .inl hc

theorem Sound.step (h : Sound w front) (hnew : ∀ id ∈ e.newId, id ∉ front.filterMap Event.newId) :
    Sound w (front ++ [e]) where
  drawn := by
    intro k hk
    rw [run_concat] at hk
    rw [newIds_concat, List.mem_append]
    rcases mem_rows_event hk with ⟨a, ha, hid, -⟩ | ⟨hid, -⟩
    · exact .inl (hid ▸ h.drawn a ha)
    · rw [hid]
      exact .inr (List.mem_singleton.mpr rfl)
  live := by
    intro k hk
    rw [run_concat] at hk
    rcases mem_rows_event hk with ⟨a, ha, -, -, hhash, hrevoked⟩ | ⟨-, hlive⟩
    · rw [← hhash, ← hrevoked]
      exact h.live a ha
    · exact hlive
  owned := by
    intro c hc
    rw [run_concat] at hc ⊢
    have hbefore : c.2 ∈ front.filterMap Event.newId ∧
        ∀ a ∈ (run w front).tables.apiKeys.rows, a.id = c.2 → a.userId = c.1.userId := by
      rcases mem_checked_event hc with hold | ⟨now, rfl, k, hk, howner, hid⟩
      · exact h.owned c hold
      · refine ⟨hid ▸ h.drawn k hk, ?_⟩
        intro a ha haid
        -- Two rows of one id are one row.
        have hsame : a = k := Sql.Table.eq_of_clash ha hk (.inl (haid.trans hid.symm))
        rw [hsame, howner]
    refine ⟨?_, ?_⟩
    · rw [newIds_concat]
      exact List.mem_append_left _ hbefore.1
    · intro k hk hid
      rcases mem_rows_event hk with ⟨a, ha, haid, howner, -⟩ | ⟨hdrawn, -⟩
      · rw [← howner]
        exact hbefore.2 a ha (haid.trans hid)
      · exact absurd (hid ▸ hbefore.1) (hnew k.id hdrawn)

theorem Proper.sound (h : Proper w events) : Sound w events := by
  induction events using List.reverseRecOn with
  | nil =>
    refine ⟨?_, ?_, ?_⟩
    · exact fun k hk => absurd hk List.not_mem_nil
    · exact fun k hk => absurd hk List.not_mem_nil
    · exact fun c hc => absurd hc List.not_mem_nil
  | append_singleton front e ih =>
    have hids := h.newIds
    rw [newIds_concat] at hids
    refine (ih h.of_concat).step ?_
    intro id hid hfront
    exact (List.nodup_append.mp hids).2.2 id hfront id (Option.mem_toList.mpr hid) rfl

theorem gives_iff {s : State} : e.Gives w s.tables keyId plaintext userId ↔
    ∃ op, e.storeOp s = some op ∧ Tables.Issues w.store s.tables op keyId plaintext userId := by
  constructor
  · intro h
    rcases h with ⟨caller, now, body, rfl, rfl, hok⟩ | ⟨caller, now, path, body, rfl, rfl, hok⟩
    · obtain ⟨key, t', hok⟩ := createOwnKey_isSuccess.mp hok
      exact ⟨_, rfl, Tables.issues_createApiKey.mpr ⟨⟨rfl, rfl, rfl⟩, key, t', hok⟩⟩
    · obtain ⟨hadmin, key, t', hok⟩ := adminCreateKey_isSuccess.mp hok
      exact ⟨_, if_pos hadmin, Tables.issues_createApiKey.mpr ⟨⟨rfl, rfl, rfl⟩, key, t', hok⟩⟩
  · rintro ⟨op, hop, now, name, key, t', rfl, hok⟩
    rcases storeOp_cases hop with ⟨caller, draw, body, rfl, hcall⟩ |
      ⟨caller, draw, path, body, rfl, hadmin, hcall⟩ | ⟨_, _, -, -, hcall⟩ |
      ⟨_, _, -, -, hcall⟩ | hcall
    · cases hcall
      exact .inl ⟨caller, draw.now, body, rfl, rfl, createOwnKey_isSuccess.mpr ⟨key, t', hok⟩⟩
    · cases hcall
      exact .inr ⟨caller, draw.now, path, body, rfl, rfl,
        adminCreateKey_isSuccess.mpr ⟨hadmin, key, t', hok⟩⟩
    · cases hcall
    · cases hcall
    · cases hcall

/-- Of a key that is there, a deletion that has passed its check is by the key's user. -/
theorem takes_iff (h : Proper w (front ++ [e]))
    (hkey : Tables.HasApiKey w.store (run w front).tables keyId plaintext userId) :
    e.Takes keyId userId ↔
      ∃ op, e.storeOp (run w front) = some op ∧ op.Revokes keyId userId := by
  constructor
  · rintro (⟨caller, rfl, -⟩ | ⟨caller, rfl, hadmin⟩)
    · have hchecked := h.checked front _ [] rfl caller keyId rfl
      exact ⟨.deleteApiKey keyId, if_pos hchecked, .inr (.inl rfl)⟩
    · exact ⟨.deleteUser userId, if_pos hadmin, .inr (.inr rfl)⟩
  · rintro ⟨op, hop, hrevokes⟩
    rcases storeOp_cases hop with ⟨_, _, _, -, rfl⟩ | ⟨_, _, _, _, -, -, rfl⟩ |
      ⟨caller, id, rfl, hadmin, rfl⟩ | ⟨caller, id, rfl, hchecked, rfl⟩ | hedits
    · rcases hrevokes with hop | hop | hop <;> cases hop
    · rcases hrevokes with hop | hop | hop <;> cases hop
    · rcases hrevokes with hop | hop | hop <;> cases hop
      exact .inr ⟨caller, rfl, hadmin⟩
    · rcases hrevokes with hop | hop | hop <;> cases hop
      obtain ⟨k, hk, hid, -, howner, -⟩ := hkey
      have howned := (h.of_concat.sound.owned _ hchecked).2 k hk hid
      exact .inl ⟨caller, rfl, howned.symm.trans howner⟩
    · rcases hrevokes with rfl | rfl | rfl <;> cases hedits

/-- A key is there when a request is answered with it, or was there and is not taken away. -/
theorem hasApiKey_event (hsha : Function.Injective w.store.sha256Hex)
    (h : Proper w (front ++ [e])) :
    Tables.HasApiKey w.store (run w (front ++ [e])).tables keyId plaintext userId ↔
      e.Gives w (run w front).tables keyId plaintext userId ∨
        Tables.HasApiKey w.store (run w front).tables keyId plaintext userId ∧
          ¬ e.Takes keyId userId := by
  have htaken : Tables.HasApiKey w.store (run w front).tables keyId plaintext userId ∧
      ¬ e.Takes keyId userId ↔
      Tables.HasApiKey w.store (run w front).tables keyId plaintext userId ∧
        ¬ ∃ op, e.storeOp (run w front) = some op ∧ op.Revokes keyId userId :=
    and_congr_right fun hkey => not_congr (takes_iff h hkey)
  rw [run_concat, tables_step, gives_iff, htaken]
  cases hop : e.storeOp (run w front) with
  | none => simp
  | some op =>
    have hstep : Tables.HasApiKey w.store ((run w front).tables.step w.store op) keyId plaintext
        userId ↔
        Tables.Issues w.store (run w front).tables op keyId plaintext userId ∨
          Tables.HasApiKey w.store (run w front).tables keyId plaintext userId ∧
            ¬ op.Revokes keyId userId := Tables.hasApiKey_step hsha
    simpa using hstep

theorem hasApiKey_iff (hsha : Function.Injective w.store.sha256Hex) (h : Proper w events) :
    Tables.HasApiKey w.store (run w events).tables keyId plaintext userId ↔
      Held w events keyId plaintext userId := by
  refine History.allowed_iff_since
    (fun s : State => Tables.HasApiKey w.store s.tables keyId plaintext userId) ?_ ?_ ?_ h
  · exact fun front e h => h.of_concat
  · intro hempty
    obtain ⟨k, hk, -⟩ := hempty
    exact absurd hk List.not_mem_nil
  · exact fun front e h => hasApiKey_event hsha h

/-- Where no request of the same user is about to delete the key, a deletion that nothing comes
between does what its handler does. -/
theorem deleteOwnKey_alone {s : State} {caller : UserContext}
    (hfree : (caller, keyId) ∉ s.checked) :
    (s.step w (.checkKey caller w.now keyId)).step w (.deleteKey caller keyId) =
      { s with tables := (deleteOwnKey w caller keyId s.tables).2 } := by
  rw [deleteOwnKey, State.step, State.step]
  by_cases howns : ownsKey w caller keyId s.tables = true
  · rw [if_pos howns, if_pos howns, if_pos List.mem_cons_self, List.erase_cons_head]
  · rw [if_neg howns, if_neg howns, if_neg hfree]

/-- Whatever the requests for keys and their deletions do between each other's statements, a user's
keys are those that requests were answered with for the user, but for those that the user has
deleted since and those of users that an administrator has deleted. They are the keys that let the
user in, and the ones that the user's list shows. -/
theorem own_keys (hsha : Function.Injective w.store.sha256Hex) (h : Proper w events) (now : Utc) :
    (∀ plaintext u, Tables.AcceptsKey w.store (run w events).tables now plaintext u ↔
      (∃ keyId, Held w events keyId plaintext u.id) ∧
        Tables.HasUser (run w events).tables u) ∧
    ∀ caller, ∃ keys : List ApiKey, listOwnKeys { w with now := now } caller (run w events).tables =
        .ok 200 [("keys", .array (keys.map keyJson))] ∧
      ∀ keyId, keyId ∈ keys.map ApiKey.id ↔
        ∃ plaintext, Held w events keyId plaintext caller.userId := by
  constructor
  · intro plaintext u
    rw [Tables.acceptsKey_iff]
    refine and_congr_left fun _ => exists_congr fun keyId => ?_
    exact hasApiKey_iff hsha h
  · intro caller
    obtain ⟨keys, hkeys, hids⟩ := listApiKeys_eq_ok w.store now caller.userId (run w events).tables
    refine ⟨keys, ?_, ?_⟩
    · rw [listOwnKeys, hkeys]
    · intro keyId
      rw [hids]
      constructor
      · intro hlisted
        obtain ⟨k, hk, howner, hid⟩ := hlisted
        obtain ⟨hlive, plaintext, hhash⟩ := h.sound.live k hk
        exact ⟨plaintext, (hasApiKey_iff hsha h).mp ⟨k, hk, hid, hhash, howner, hlive⟩⟩
      · intro hheld
        obtain ⟨plaintext, hheld⟩ := hheld
        obtain ⟨k, hk, hid, -, howner, -⟩ := (hasApiKey_iff hsha h).mpr hheld
        exact ⟨k, hk, howner, hid⟩

end Runs

section Samples

def sampleCaller : UserContext :=
  AuthMiddleware.userContext Tables.sampleUser "api_key" (some (Tables.keyPrefix Tables.sampleKey))
    none

/-- While the sample user deletes a key, the user gets another one. -/
def sampleFront : List Event :=
  [.other ⟨.createUser Tables.sampleNow "u1" "ada@example.com" "Ada" (.ok none) .user, rfl⟩,
    .createOwnKey sampleCaller ⟨Tables.sampleNow, "k1", Tables.sampleKey⟩ .null,
    .checkKey sampleCaller Tables.sampleNow "k1",
    .createOwnKey sampleCaller ⟨Tables.sampleNow, "k2", Tables.sampleToken⟩ .null]

def sampleEvents : List Event := sampleFront ++ [.deleteKey sampleCaller "k1"]

theorem proper_sample : Proper RouterState.sampleAdminWorld sampleEvents where
  newIds := by decide
  checked := by
    refine History.always_concat.mpr ⟨?_, ?_⟩
    · rintro front e back heq caller keyId rfl
      have hmem : Event.deleteKey caller keyId ∈ sampleFront :=
        heq ▸ List.mem_append_right front List.mem_cons_self
      simp [sampleFront] at hmem
    · intro caller keyId heq
      cases heq
      have howns : ownsKey { RouterState.sampleAdminWorld with now := Tables.sampleNow }
          sampleCaller "k1" (run RouterState.sampleAdminWorld (sampleFront.take 2)).tables = true :=
        ownsKey_iff.mpr ⟨_, List.mem_cons_self, rfl, rfl⟩
      have hchecked : (run RouterState.sampleAdminWorld (sampleFront.take 3)).checked =
          [(sampleCaller, "k1")] := by
        rw [show sampleFront.take 3 = sampleFront.take 2 ++
          [.checkKey sampleCaller Tables.sampleNow "k1"] from rfl, run_concat, State.step,
          if_pos howns]
        rfl
      have hsame : (run RouterState.sampleAdminWorld sampleFront).checked =
          (run RouterState.sampleAdminWorld (sampleFront.take 3)).checked := rfl
      rw [hsame, hchecked]
      exact List.mem_cons_self

theorem own_keys_sample :
    (∀ plaintext u, Tables.AcceptsKey RouterState.sampleAdminWorld.store
        (run RouterState.sampleAdminWorld sampleEvents).tables Tables.sampleNow plaintext u ↔
      (∃ keyId, Held RouterState.sampleAdminWorld sampleEvents keyId plaintext u.id) ∧
        Tables.HasUser (run RouterState.sampleAdminWorld sampleEvents).tables u) ∧
    ∀ caller, ∃ keys : List ApiKey,
      listOwnKeys { RouterState.sampleAdminWorld with now := Tables.sampleNow } caller
          (run RouterState.sampleAdminWorld sampleEvents).tables =
        .ok 200 [("keys", .array (keys.map keyJson))] ∧
      ∀ keyId, keyId ∈ keys.map ApiKey.id ↔
        ∃ plaintext, Held RouterState.sampleAdminWorld sampleEvents keyId plaintext caller.userId :=
  own_keys Tables.sampleSha256_injective proper_sample Tables.sampleNow

end Samples

end KeyEndpoints

end TokenDealer
