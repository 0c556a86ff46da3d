import TokenDealer.History
import TokenDealer.UserTables

set_option autoImplicit true

namespace TokenDealer

/-- A call of the store, with what it draws at random and reads off the clock. -/
inductive StoreOp where
  | createUser (now : Utc) (id email name : String) (hashed : Except String (Option String))
    (role : UserRole)
  | createApiKey (now : Utc) (id plaintext userId name : String)
  | getUserByApiKey (now : Utc) (plaintext : String)
  | revokeApiKey (keyId : String)
  | deleteApiKey (keyId : String)
  | createSession (now : Utc) (id token userId : String) (userAgent ip : Option String)
    (ttlHours : Int64)
  | getSession (now : Utc) (token : String)
  | deleteSession (id : String)
  | deleteUserSessions (userId : String)
  | deleteUser (id : String)

namespace StoreOp

def editsUsers : StoreOp → Bool
  | createUser .. | deleteUser _ => true
  | _ => false

/-- Does the call insert, revoke or delete keys? -/
def editsApiKeys : StoreOp → Bool
  | createApiKey .. | revokeApiKey _ | deleteApiKey _ | deleteUser _ => true
  | _ => false

def editsSessions : StoreOp → Bool
  | createSession .. | deleteSession _ | deleteUserSessions _ | deleteUser _ => true
  | _ => false

/-- The call takes a key from its user. -/
def Revokes (op : StoreOp) (keyId userId : String) : Prop :=
  op = revokeApiKey keyId ∨ op = deleteApiKey keyId ∨ op = deleteUser userId

/-- The call ends a session of a user. -/
def Ends (op : StoreOp) (sessionId userId : String) : Prop :=
  op = deleteSession sessionId ∨ op = deleteUserSessions userId ∨ op = deleteUser userId

end StoreOp

namespace Tables

section Runs

variable (tools : StoreTools)

def apply (t : Tables) : StoreOp → Except StoreError Tables
  | .createUser now id email name hashed role =>
    (t.createUser tools now id email name hashed role).map Prod.snd
  | .createApiKey now id plaintext userId name =>
    (t.createApiKey tools now id plaintext userId name).map Prod.snd
  | .getUserByApiKey now plaintext => .ok (t.getUserByApiKey tools now plaintext).2
  | .revokeApiKey keyId => .ok (t.revokeApiKey keyId)
  | .deleteApiKey keyId => .ok (t.deleteApiKey keyId)
  | .createSession now id token userId userAgent ip ttlHours =>
    (t.createSession tools now id token userId userAgent ip ttlHours).map Prod.snd
  | .getSession now token => .ok (t.getSession tools now token).2
  | .deleteSession id => .ok (t.deleteSession id)
  | .deleteUserSessions userId => .ok (t.deleteUserSessions userId)
  | .deleteUser id => t.deleteUser id

/-- A call that fails leaves the tables as they were. -/
def step (t : Tables) (op : StoreOp) : Tables :=
  match t.apply tools op with
  | .ok t' => t'
  | .error _ => t

def run (ops : List StoreOp) : Tables := ops.foldl (step tools) empty

/-- The call creates this user. -/
def Creates (t : Tables) (op : StoreOp) (u : User) : Prop :=
  ∃ now id email name hashed role user t', op = .createUser now id email name hashed role ∧
    t.createUser tools now id email name hashed role = .ok (user, t') ∧ user.toUser = u

/-- The call issues this key to a user. -/
def Issues (t : Tables) (op : StoreOp) (keyId plaintext userId : String) : Prop :=
  ∃ now name key t', op = .createApiKey now keyId plaintext userId name ∧
    t.createApiKey tools now keyId plaintext userId name = .ok (key, t')

/-- The call opens this session for a user. -/
def Opens (t : Tables) (op : StoreOp) (id token userId : String) (expires : Utc) : Prop :=
  ∃ now userAgent ip ttlHours session t',
    op = .createSession now id token userId userAgent ip ttlHours ∧
    t.createSession tools now id token userId userAgent ip ttlHours = .ok (session, t') ∧
    session.expiresAt = expires

def HasUser (t : Tables) (u : User) : Prop := ∃ r ∈ t.users.rows, r.user = u

/-- The row of a key that is not revoked. -/
def HasApiKey (t : Tables) (keyId plaintext userId : String) : Prop :=
  ∃ k ∈ t.apiKeys.rows, k.id = keyId ∧ k.keyHash = tools.sha256Hex plaintext ∧
    k.userId = userId ∧ k.revoked = false

/-- The row of a session with the text of its last moment. -/
def HasSession (t : Tables) (id token userId expires : String) : Prop :=
  ∃ s ∈ t.sessions.rows, s.id = id ∧ s.sessionHash = tools.sha256Hex token ∧
    s.userId = userId ∧ s.expiresAt = expires

end Runs

section Steps

variable {tools : StoreTools} {t t' : Tables} {op : StoreOp} {u : User} {id : String}

theorem run_concat (ops : List StoreOp) (op : StoreOp) :
    run tools (ops ++ [op]) = (run tools ops).step tools op := by
  rw [run, List.foldl_append]
  rfl

theorem step_of_ok (h : t.apply tools op = .ok t') : t.step tools op = t' := by
  rw [step, h]

/-- A call that creates something has done so, or has failed and left the tables alone. -/
theorem step_creates (tools : StoreTools) (t : Tables) (op : StoreOp)
    {x : Except StoreError (α × Tables)} (h : t.apply tools op = x.map Prod.snd) :
    (∃ a t', x = .ok (a, t') ∧ t.step tools op = t') ∨ ∃ e, x = .error e ∧ t.step tools op = t := by
  cases x with
  | ok created =>
    obtain ⟨a, t'⟩ := created
    exact .inl ⟨a, t', rfl, step_of_ok h⟩
  | error e =>
    have hfailed : t.apply tools op = .error e := h
    refine .inr ⟨e, rfl, ?_⟩
    rw [step, hfailed]

theorem creates_createUser : Creates tools t (.createUser now id email name hashed role) u ↔
    ∃ user t', t.createUser tools now id email name hashed role = .ok (user, t') ∧
      user.toUser = u := by
  constructor
  · intro h
    obtain ⟨_, _, _, _, _, _, user, t', heq, hok, huser⟩ := h
    cases heq
    exact ⟨user, t', hok, huser⟩
  · intro h
    obtain ⟨user, t', hok, huser⟩ := h
    exact ⟨now, id, email, name, hashed, role, user, t', rfl, hok, huser⟩

theorem issues_createApiKey :
    Issues tools t (.createApiKey now id issued owner name) keyId plaintext userId ↔
      (id = keyId ∧ issued = plaintext ∧ owner = userId) ∧
        ∃ key t', t.createApiKey tools now id issued owner name = .ok (key, t') := by
  constructor
  · intro h
    obtain ⟨_, _, key, t', heq, hok⟩ := h
    cases heq
    exact ⟨⟨rfl, rfl, rfl⟩, key, t', hok⟩
  · intro h
    obtain ⟨⟨rfl, rfl, rfl⟩, key, t', hok⟩ := h
    exact ⟨now, name, key, t', rfl, hok⟩

theorem opens_createSession :
    Opens tools t (.createSession now id opened owner userAgent ip ttlHours) sessionId token userId
        last ↔
      (id = sessionId ∧ opened = token ∧ owner = userId) ∧
        ∃ session t', t.createSession tools now id opened owner userAgent ip ttlHours =
          .ok (session, t') ∧ session.expiresAt = last := by
  constructor
  · intro h
    obtain ⟨_, _, _, _, session, t', heq, hok, hlast⟩ := h
    cases heq
    exact ⟨⟨rfl, rfl, rfl⟩, session, t', hok, hlast⟩
  · intro h
    obtain ⟨⟨rfl, rfl, rfl⟩, session, t', hok, hlast⟩ := h
    exact ⟨now, userAgent, ip, ttlHours, session, t', rfl, hok, hlast⟩

/-- A lookup only notes when it was made. -/
theorem step_getUserByApiKey (tools : StoreTools) (t : Tables) (now : Utc) (plaintext : String) :
    t.step tools (.getUserByApiKey now plaintext) = t ∨
      ∃ id, t.step tools (.getUserByApiKey now plaintext) = t.touchApiKey now id := by
  rw [step_of_ok rfl, getUserByApiKey]
  split
  · exact .inl rfl
  · dsimp only
    split
    · exact .inl rfl
    · exact .inl rfl
    · exact .inr ⟨_, rfl⟩

theorem step_getSession (tools : StoreTools) (t : Tables) (now : Utc) (token : String) :
    t.step tools (.getSession now token) = t := by
  rw [step_of_ok rfl]
  rcases getSession_cases tools t now token with h | ⟨e, h⟩
  · rw [h]
  · rw [h]

theorem step_users (h : op.editsUsers = false) : (t.step tools op).users = t.users := by
  cases op with
  | createUser | deleteUser => cases h
  | createApiKey now id plaintext userId name =>
    rcases step_creates tools t (.createApiKey now id plaintext userId name) rfl with
      ⟨created, t', hok, hstep⟩ | ⟨e, -, hstep⟩
    · obtain ⟨-, -, -, -, -, -, -, husers, -⟩ := createApiKey_eq_ok hok
      rw [hstep]
      exact husers
    · rw [hstep]
  | createSession now id token userId userAgent ip ttlHours =>
    rcases step_creates tools t (.createSession now id token userId userAgent ip ttlHours) rfl with
      ⟨created, t', hok, hstep⟩ | ⟨e, -, hstep⟩
    · obtain ⟨-, -, -, -, -, -, -, husers, -⟩ := createSession_eq_ok hok
      rw [hstep]
      exact husers
    · rw [hstep]
  | getUserByApiKey now plaintext =>
    rcases step_getUserByApiKey tools t now plaintext with h | ⟨id, h⟩ <;> rw [h]
    rfl
  | getSession now token => rw [step_getSession]
  | revokeApiKey | deleteApiKey | deleteSession | deleteUserSessions => rfl

theorem step_sessions (h : op.editsSessions = false) :
    (t.step tools op).sessions = t.sessions := by
  cases op with
  | createSession | deleteSession | deleteUserSessions | deleteUser => cases h
  | createUser now id email name hashed role =>
    rcases step_creates tools t (.createUser now id email name hashed role) rfl with
      ⟨created, t', hok, hstep⟩ | ⟨e, -, hstep⟩
    · obtain ⟨-, -, -, -, -, hsessions⟩ := createUser_eq_ok hok
      rw [hstep]
      exact hsessions
    · rw [hstep]
  | createApiKey now id plaintext userId name =>
    rcases step_creates tools t (.createApiKey now id plaintext userId name) rfl with
      ⟨created, t', hok, hstep⟩ | ⟨e, -, hstep⟩
    · obtain ⟨-, -, -, -, -, -, -, -, hsessions, -⟩ := createApiKey_eq_ok hok
      rw [hstep]
      exact hsessions
    · rw [hstep]
  | getUserByApiKey now plaintext =>
    rcases step_getUserByApiKey tools t now plaintext with h | ⟨id, h⟩ <;> rw [h]
    rfl
  | getSession now token => rw [step_getSession]
  | revokeApiKey | deleteApiKey => rfl

section Creations

variable (tools : StoreTools) (t : Tables)

/-- A new user comes without keys. -/
theorem apiKeys_createUser (now : Utc) (id email name : String)
    (hashed : Except String (Option String)) (role : UserRole) :
    (t.step tools (.createUser now id email name hashed role)).apiKeys = t.apiKeys := by
  rcases step_creates tools t (.createUser now id email name hashed role) rfl with
    ⟨created, t', hok, hstep⟩ | ⟨e, -, hstep⟩
  · obtain ⟨-, -, -, -, hkeys, -⟩ := createUser_eq_ok hok
    rw [hstep, hkeys]
  · rw [hstep]

theorem apiKeys_createSession (now : Utc) (id token userId : String) (userAgent ip : Option String)
    (ttlHours : Int64) :
    (t.step tools (.createSession now id token userId userAgent ip ttlHours)).apiKeys =
      t.apiKeys := by
  rcases step_creates tools t (.createSession now id token userId userAgent ip ttlHours) rfl with
    ⟨created, t', hok, hstep⟩ | ⟨e, -, hstep⟩
  · obtain ⟨-, -, -, -, -, -, -, -, hkeys, -⟩ := createSession_eq_ok hok
    rw [hstep, hkeys]
  · rw [hstep]

end Creations

theorem hasApiKey_update {f : ApiKeyRow → ApiKeyRow}
    {hf : ∀ k, (f k).id = k.id ∧ (f k).keyHash = k.keyHash ∧ (f k).userId = k.userId}
    (hrevoked : ∀ k, (f k).revoked = k.revoked) :
    HasApiKey tools (t.updateApiKeys f hf) keyId plaintext userId ↔
      HasApiKey tools t keyId plaintext userId := by
  constructor
  · intro hthere
    obtain ⟨k, hk, hid, hhash, howner, hlive⟩ := hthere
    obtain ⟨a, ha, rfl⟩ := mem_updateApiKeys.mp hk
    exact ⟨a, ha, (hf a).1.symm.trans hid, (hf a).2.1.symm.trans hhash,
      (hf a).2.2.symm.trans howner, (hrevoked a).symm.trans hlive⟩
  · intro hthere
    obtain ⟨a, ha, hid, hhash, howner, hlive⟩ := hthere
    exact ⟨f a, mem_updateApiKeys.mpr ⟨a, ha, rfl⟩, (hf a).1.trans hid, (hf a).2.1.trans hhash,
      (hf a).2.2.trans howner, (hrevoked a).trans hlive⟩

theorem hasApiKey_step_frame (h : op.editsApiKeys = false) :
    HasApiKey tools (t.step tools op) keyId plaintext userId ↔
      HasApiKey tools t keyId plaintext userId := by
  have hsame : ∀ {t' : Tables}, t'.apiKeys = t.apiKeys →
      (HasApiKey tools t' keyId plaintext userId ↔ HasApiKey tools t keyId plaintext userId) := by
    intro t' hkeys
    rw [HasApiKey, hkeys, HasApiKey]
  cases op with
  | createApiKey | revokeApiKey | deleteApiKey | deleteUser => cases h
  | createUser now id email name hashed role =>
    exact hsame (apiKeys_createUser tools t now id email name hashed role)
  | createSession now id token userId userAgent ip ttlHours =>
    exact hsame (apiKeys_createSession tools t now id token userId userAgent ip ttlHours)
  | getUserByApiKey now plaintext =>
    rcases step_getUserByApiKey tools t now plaintext with h | ⟨id, h⟩
    · rw [h]
    · rw [h]
      exact hasApiKey_update fun k => by split <;> rfl
  | getSession now token => rw [step_getSession]
  | deleteSession | deleteUserSessions => rfl

theorem hasUser_createUser :
    HasUser (t.step tools (.createUser now id email name hashed role)) u ↔
      Creates tools t (.createUser now id email name hashed role) u ∨ HasUser t u := by
  rcases step_creates tools t (.createUser now id email name hashed role) rfl with
    ⟨user, t', hok, hstep⟩ | ⟨e, hok, hstep⟩
  · obtain ⟨row, hinsert, hrow, -⟩ := createUser_eq_ok hok
    have hcreates : Creates tools t (.createUser now id email name hashed role) u ↔
        row.user = u := by
      rw [creates_createUser, hrow, hok]
      simp
    rw [hstep, hcreates]
    exact Sql.Table.exists_mem_insert hinsert
  · have hcreates : ¬ Creates tools t (.createUser now id email name hashed role) u := by
      rw [creates_createUser, hok]
      simp
    rw [hstep, or_iff_right hcreates]

/-- A user is there when the call creates it, or was there and is not deleted. -/
theorem hasUser_step : HasUser (t.step tools op) u ↔
    Creates tools t op u ∨ HasUser t u ∧ op ≠ .deleteUser u.id := by
  cases hedits : op.editsUsers with
  | false =>
    have hcreates : ¬ Creates tools t op u := by
      intro h
      obtain ⟨_, _, _, _, _, _, _, _, rfl, -⟩ := h
      cases hedits
    have hdelete : op ≠ .deleteUser u.id := by
      rintro rfl
      cases hedits
    rw [HasUser, step_users hedits, or_iff_right hcreates, and_iff_left hdelete, HasUser]
  | true =>
    cases op with
    | createUser now id email name hashed role =>
      have hdelete : StoreOp.createUser now id email name hashed role ≠ .deleteUser u.id := by
        intro h
        cases h
      rw [and_iff_left hdelete]
      exact hasUser_createUser
    | deleteUser id =>
      obtain ⟨t', hok, husers, -⟩ := deleteUser_eq_ok t id
      have hstep : t.step tools (.deleteUser id) = t' := step_of_ok hok
      have hcreates : ¬ Creates tools t (.deleteUser id) u := by
        intro hcreated
        obtain ⟨_, _, _, _, _, _, _, _, heq, -⟩ := hcreated
        cases heq
      rw [hstep, or_iff_right hcreates, HasUser, husers]
      apply Sql.Table.exists_mem_deleteWhere
      intro r hr
      rw [decide_eq_true_eq, StoreOp.deleteUser.injEq, ← hr, eq_comm]
      rfl
    | createApiKey | getUserByApiKey | revokeApiKey | deleteApiKey | createSession | getSession
      | deleteSession | deleteUserSessions => cases hedits

theorem hasApiKey_deleteWhere {p : ApiKeyRow → Bool} {q : Prop}
    (hp : ∀ k : ApiKeyRow, k.id = keyId → k.userId = userId → (p k = true ↔ q))
    (hkeys : t'.apiKeys = t.apiKeys.deleteWhere p) :
    HasApiKey tools t' keyId plaintext userId ↔
      HasApiKey tools t keyId plaintext userId ∧ ¬ q := by
  rw [HasApiKey, hkeys]
  apply Sql.Table.exists_mem_deleteWhere
  intro k hk
  obtain ⟨hid, -, howner, -⟩ := hk
  exact hp k hid howner

theorem hasApiKey_revokeApiKey : HasApiKey tools (t.revokeApiKey revoked) keyId plaintext userId ↔
    HasApiKey tools t keyId plaintext userId ∧ revoked ≠ keyId := by
  constructor
  · intro hthere
    obtain ⟨k, hk, hid, hhash, howner, hlive⟩ := hthere
    obtain ⟨a, ha, rfl⟩ := mem_updateApiKeys.mp hk
    split at hlive
    · cases hlive
    · rename_i hne
      rw [if_neg hne] at hid hhash howner
      exact ⟨⟨a, ha, hid, hhash, howner, hlive⟩, fun h => hne (hid.trans h.symm)⟩
  · intro hthere
    obtain ⟨⟨a, ha, hid, hhash, howner, hlive⟩, hne⟩ := hthere
    refine ⟨a, mem_updateApiKeys.mpr ⟨a, ha, if_neg ?_⟩, hid, hhash, howner, hlive⟩
    exact fun h => hne (h.symm.trans hid)

theorem hasApiKey_createApiKey (hsha : Function.Injective tools.sha256Hex) :
    HasApiKey tools (t.step tools (.createApiKey now id issued owner name)) keyId plaintext userId ↔
      Issues tools t (.createApiKey now id issued owner name) keyId plaintext userId ∨
        HasApiKey tools t keyId plaintext userId := by
  rcases step_creates tools t (.createApiKey now id issued owner name) rfl with
    ⟨key, t', hok, hstep⟩ | ⟨e, hok, hstep⟩
  · obtain ⟨row, hinsert, rfl, rfl, hhash, -, hlive, -⟩ := createApiKey_eq_ok hok
    have hissues : Issues tools t (.createApiKey now row.id issued row.userId name) keyId plaintext
        userId ↔ row.id = keyId ∧ row.keyHash = tools.sha256Hex plaintext ∧
          row.userId = userId ∧ row.revoked = false := by
      rw [issues_createApiKey, hok, hhash, hsha.eq_iff, hlive]
      simp
    rw [hstep, hissues]
    exact Sql.Table.exists_mem_insert hinsert
  · have hissues : ¬ Issues tools t (.createApiKey now id issued owner name) keyId plaintext
        userId := by
      rw [issues_createApiKey, hok]
      simp
    rw [hstep, or_iff_right hissues]

/-- A key is there when the call issues it, or was there and is not taken away. -/
theorem hasApiKey_step (hsha : Function.Injective tools.sha256Hex) :
    HasApiKey tools (t.step tools op) keyId plaintext userId ↔
      Issues tools t op keyId plaintext userId ∨
        HasApiKey tools t keyId plaintext userId ∧ ¬ op.Revokes keyId userId := by
  have hissues : (∀ now id plaintext userId name,
      op ≠ .createApiKey now id plaintext userId name) →
      ¬ Issues tools t op keyId plaintext userId := by
    rintro hne ⟨_, _, _, _, heq, -⟩
    exact hne _ _ _ _ _ heq
  cases hedits : op.editsApiKeys with
  | false =>
    have hrevokes : ¬ op.Revokes keyId userId := by
      rintro (rfl | rfl | rfl) <;> cases hedits
    rw [hasApiKey_step_frame hedits, or_iff_right (hissues ?_), and_iff_left hrevokes]
    rintro _ _ _ _ _ rfl
    cases hedits
  | true =>
    cases op with
    | createApiKey now id issued owner name =>
      have hrevokes : ¬ (StoreOp.createApiKey now id issued owner name).Revokes keyId userId := by
        rintro (h | h | h) <;> cases h
      rw [and_iff_left hrevokes]
      exact hasApiKey_createApiKey hsha
    | revokeApiKey id =>
      have hrevokes : (StoreOp.revokeApiKey id).Revokes keyId userId ↔ id = keyId := by
        simp only [StoreOp.Revokes, StoreOp.revokeApiKey.injEq, reduceCtorEq, or_false]
      have hstep : t.step tools (.revokeApiKey id) = t.revokeApiKey id := step_of_ok rfl
      rw [or_iff_right (hissues (by intros; intro h; cases h)), hrevokes, hstep]
      exact hasApiKey_revokeApiKey
    | deleteApiKey id =>
      have hrevokes : (StoreOp.deleteApiKey id).Revokes keyId userId ↔ id = keyId := by
        simp only [StoreOp.Revokes, StoreOp.deleteApiKey.injEq, reduceCtorEq, or_false, false_or]
      have hstep : t.step tools (.deleteApiKey id) = t.deleteApiKey id := step_of_ok rfl
      rw [or_iff_right (hissues (by intros; intro h; cases h)), hrevokes, hstep]
      refine hasApiKey_deleteWhere ?_ rfl
      rintro k rfl -
      rw [decide_eq_true_eq, eq_comm]
    | deleteUser id =>
      have hrevokes : (StoreOp.deleteUser id).Revokes keyId userId ↔ id = userId := by
        simp only [StoreOp.Revokes, StoreOp.deleteUser.injEq, reduceCtorEq, false_or]
      obtain ⟨t', hok, -, hkeys, -⟩ := deleteUser_eq_ok t id
      have hstep : t.step tools (.deleteUser id) = t' := step_of_ok hok
      rw [or_iff_right (hissues (by intros; intro h; cases h)), hrevokes, hstep]
      refine hasApiKey_deleteWhere ?_ hkeys
      rintro k - rfl
      rw [decide_eq_true_eq, eq_comm]
    | createUser | getUserByApiKey | createSession | getSession | deleteSession
      | deleteUserSessions => cases hedits

theorem hasSession_deleteWhere {p : SessionRow → Bool} {q : Prop}
    (hp : ∀ s : SessionRow, s.id = sessionId → s.userId = userId → (p s = true ↔ q))
    (hsessions : t'.sessions = t.sessions.deleteWhere p) :
    HasSession tools t' sessionId token userId expires ↔
      HasSession tools t sessionId token userId expires ∧ ¬ q := by
  rw [HasSession, hsessions]
  apply Sql.Table.exists_mem_deleteWhere
  intro s hs
  obtain ⟨hid, -, howner, -⟩ := hs
  exact hp s hid howner

theorem hasSession_createSession (hsha : Function.Injective tools.sha256Hex) :
    HasSession tools (t.step tools (.createSession now id opened owner userAgent ip ttlHours))
        sessionId token userId expires ↔
      (∃ last, Calendar.rfc3339 last = expires ∧ Opens tools t
        (.createSession now id opened owner userAgent ip ttlHours) sessionId token userId last) ∨
        HasSession tools t sessionId token userId expires := by
  rcases step_creates tools t (.createSession now id opened owner userAgent ip ttlHours) rfl with
    ⟨session, t', hok, hstep⟩ | ⟨e, hok, hstep⟩
  · obtain ⟨row, hinsert, rfl, rfl, hhash, hexpires, -⟩ := createSession_eq_ok hok
    have hopens : (∃ last, Calendar.rfc3339 last = expires ∧ Opens tools t
        (.createSession now row.id opened row.userId userAgent ip ttlHours) sessionId token
          userId last) ↔ row.id = sessionId ∧ row.sessionHash = tools.sha256Hex token ∧
            row.userId = userId ∧ row.expiresAt = expires := by
      simp only [opens_createSession, hok, hhash, hsha.eq_iff, hexpires]
      simp [and_comm, and_assoc, and_left_comm]
    rw [hstep, hopens]
    exact Sql.Table.exists_mem_insert hinsert
  · have hopens : ¬ ∃ last, Calendar.rfc3339 last = expires ∧ Opens tools t
        (.createSession now id opened owner userAgent ip ttlHours) sessionId token userId
          last := by
      simp only [opens_createSession, hok]
      simp
    rw [hstep, or_iff_right hopens]

/-- A session is there when the call opens it, or was there and is not ended. -/
theorem hasSession_step (hsha : Function.Injective tools.sha256Hex) :
    HasSession tools (t.step tools op) sessionId token userId expires ↔
      (∃ last, Calendar.rfc3339 last = expires ∧ Opens tools t op sessionId token userId last) ∨
        HasSession tools t sessionId token userId expires ∧ ¬ op.Ends sessionId userId := by
  have hopens : (∀ now id token userId userAgent ip ttlHours,
      op ≠ .createSession now id token userId userAgent ip ttlHours) →
      ¬ ∃ last, Calendar.rfc3339 last = expires ∧
        Opens tools t op sessionId token userId last := by
    rintro hne ⟨_, -, _, _, _, _, _, _, heq, -⟩
    exact hne _ _ _ _ _ _ _ heq
  cases hedits : op.editsSessions with
  | false =>
    have hends : ¬ op.Ends sessionId userId := by
      rintro (rfl | rfl | rfl) <;> cases hedits
    rw [or_iff_right (hopens ?_), and_iff_left hends, HasSession, step_sessions hedits, HasSession]
    rintro _ _ _ _ _ _ _ rfl
    cases hedits
  | true =>
    cases op with
    | createSession now id opened owner userAgent ip ttlHours =>
      have hends : ¬ (StoreOp.createSession now id opened owner userAgent ip ttlHours).Ends
          sessionId userId := by
        rintro (h | h | h) <;> cases h
      rw [and_iff_left hends]
      exact hasSession_createSession hsha
    | deleteSession id =>
      have hends : (StoreOp.deleteSession id).Ends sessionId userId ↔ id = sessionId := by
        simp only [StoreOp.Ends, StoreOp.deleteSession.injEq, reduceCtorEq, or_false]
      have hstep : t.step tools (.deleteSession id) = t.deleteSession id := step_of_ok rfl
      rw [or_iff_right (hopens (by intros; intro h; cases h)), hends, hstep]
      refine hasSession_deleteWhere ?_ rfl
      rintro s rfl -
      rw [decide_eq_true_eq, eq_comm]
    | deleteUserSessions owner =>
      have hends : (StoreOp.deleteUserSessions owner).Ends sessionId userId ↔ owner = userId := by
        simp only [StoreOp.Ends, StoreOp.deleteUserSessions.injEq, reduceCtorEq, or_false,
          false_or]
      have hstep : t.step tools (.deleteUserSessions owner) = t.deleteUserSessions owner :=
        step_of_ok rfl
      rw [or_iff_right (hopens (by intros; intro h; cases h)), hends, hstep]
      refine hasSession_deleteWhere ?_ rfl
      rintro s - rfl
      rw [decide_eq_true_eq, eq_comm]
    | deleteUser id =>
      have hends : (StoreOp.deleteUser id).Ends sessionId userId ↔ id = userId := by
        simp only [StoreOp.Ends, StoreOp.deleteUser.injEq, reduceCtorEq, false_or]
      obtain ⟨t', hok, -, -, hsessions⟩ := deleteUser_eq_ok t id
      have hstep : t.step tools (.deleteUser id) = t' := step_of_ok hok
      rw [or_iff_right (hopens (by intros; intro h; cases h)), hends, hstep]
      refine hasSession_deleteWhere ?_ hsessions
      rintro s - rfl
      rw [decide_eq_true_eq, eq_comm]
    | createUser | createApiKey | getUserByApiKey | revokeApiKey | deleteApiKey
      | getSession => cases hedits

end Steps

end Tables

end TokenDealer
