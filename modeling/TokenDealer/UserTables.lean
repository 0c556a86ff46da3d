import TokenDealer.AuthMiddleware
import TokenDealer.Calendar
import TokenDealer.SqlTable
import TokenDealer.Toml

set_option autoImplicit true

namespace TokenDealer

/-- An instant of the calendar, in nanoseconds from the first day of the year zero. -/
abbrev Utc := Int

namespace UserRole

def asStr : UserRole → String
  | .admin => "admin"
  | .user => "user"

def parse (s : String) : UserRole := if s = "admin" then .admin else .user

theorem parse_asStr (role : UserRole) : parse role.asStr = role := by
  cases role <;> decide

end UserRole

/-- What the store calls outside the router. -/
structure StoreTools where
  sha256Hex : String → String
  lowercase : String → String
  parseRfc3339 : String → Option Utc

inductive StoreError where
  | message (text : String)
  | unique
  | foreignKey
  | outOfRange
  | column (error : Sql.ColumnError)
  deriving DecidableEq, Repr

structure UserRecord extends User where
  passwordHash : Option String
  createdAt : Utc
  lastLoginAt : Option Utc
  deriving DecidableEq, Repr

structure ApiKey where
  id : String
  userId : String
  keyHash : String
  keyPrefix : String
  name : String
  lastUsedAt : Option Utc
  expiresAt : Option Utc
  createdAt : Utc
  revoked : Bool
  deriving DecidableEq, Repr

structure Session where
  id : String
  userId : String
  sessionHash : String
  userAgent : Option String
  ip : Option String
  createdAt : Utc
  expiresAt : Utc
  lastSeenAt : Utc
  deriving DecidableEq, Repr

structure UserRow where
  id : String
  email : String
  name : String
  passwordHash : Option String
  role : String
  metadata : String
  createdAt : String
  lastLoginAt : Option String
  deriving DecidableEq, Repr

structure ApiKeyRow where
  id : String
  userId : String
  keyHash : String
  keyPrefix : String
  name : String
  lastUsedAt : Option String
  expiresAt : Option String
  createdAt : String
  revoked : Bool
  deriving DecidableEq, Repr

structure SessionRow where
  id : String
  userId : String
  sessionHash : String
  userAgent : Option String
  ip : Option String
  createdAt : String
  expiresAt : String
  lastSeenAt : String
  deriving DecidableEq, Repr

/-- The key of a row of the usage table. -/
structure UsageRow where
  userId : String
  day : String
  deriving DecidableEq, Repr

def UserRow.Clash (a b : UserRow) : Prop := a.id = b.id ∨ a.email = b.email

def ApiKeyRow.Clash (a b : ApiKeyRow) : Prop := a.id = b.id ∨ a.keyHash = b.keyHash

def SessionRow.Clash (a b : SessionRow) : Prop := a.id = b.id ∨ a.sessionHash = b.sessionHash

instance : DecidableRel UserRow.Clash := fun a b =>
  inferInstanceAs (Decidable (a.id = b.id ∨ a.email = b.email))

instance : DecidableRel ApiKeyRow.Clash := fun a b =>
  inferInstanceAs (Decidable (a.id = b.id ∨ a.keyHash = b.keyHash))

instance : DecidableRel SessionRow.Clash := fun a b =>
  inferInstanceAs (Decidable (a.id = b.id ∨ a.sessionHash = b.sessionHash))

instance : Std.Symm UserRow.Clash := ⟨fun _ _ h => h.imp Eq.symm Eq.symm⟩

instance : Std.Symm ApiKeyRow.Clash := ⟨fun _ _ h => h.imp Eq.symm Eq.symm⟩

instance : Std.Symm SessionRow.Clash := ⟨fun _ _ h => h.imp Eq.symm Eq.symm⟩

/-- The tables of the users. Every key, session and usage row is of a user that is there. -/
structure Tables where
  users : Sql.Table UserRow UserRow.Clash
  apiKeys : Sql.Table ApiKeyRow ApiKeyRow.Clash
  sessions : Sql.Table SessionRow SessionRow.Clash
  tokenUsage : Sql.Table UsageRow Eq
  apiKeys_user : ∀ k ∈ apiKeys.rows, ∃ u ∈ users.rows, u.id = k.userId
  sessions_user : ∀ s ∈ sessions.rows, ∃ u ∈ users.rows, u.id = s.userId
  tokenUsage_user : ∀ r ∈ tokenUsage.rows, ∃ u ∈ users.rows, u.id = r.userId

namespace UserRow

def columns (u : UserRow) : Sql.Row :=
  [.text u.id, .text u.email, .text u.name, .ofOption u.passwordHash, .text u.role,
    .text u.metadata, .text u.createdAt, .ofOption u.lastLoginAt]

end UserRow

namespace ApiKeyRow

def columns (k : ApiKeyRow) : Sql.Row :=
  [.text k.id, .text k.userId, .text k.keyHash, .text k.keyPrefix, .text k.name,
    .ofOption k.lastUsedAt, .ofOption k.expiresAt, .text k.createdAt,
    .integer (if k.revoked then 1 else 0)]

end ApiKeyRow

namespace SessionRow

def columns (s : SessionRow) : Sql.Row :=
  [.text s.id, .text s.userId, .text s.sessionHash, .ofOption s.userAgent, .ofOption s.ip,
    .text s.createdAt, .text s.expiresAt, .text s.lastSeenAt]

end SessionRow

section Rows

variable (tools : StoreTools) (now : Utc)

/-- A text that is no time of this format is read as the current time. -/
def parseDt (s : String) : Utc := (tools.parseRfc3339 s).getD now

/-- The columns of a user from a given one on. The metadata is read for its type only. -/
def readUser (first : Nat) (row : Sql.Row) : Except Sql.ColumnError UserRecord := do
  let role ← row.getText (first + 4)
  let _ ← row.getText (first + 5)
  let createdAt ← row.getText (first + 6)
  let lastLoginAt ← row.getOptText (first + 7)
  let id ← row.getText first
  let email ← row.getText (first + 1)
  let name ← row.getText (first + 2)
  let passwordHash ← row.getOptText (first + 3)
  return {
    id := id
    email := email
    name := name
    passwordHash := passwordHash
    role := UserRole.parse role
    createdAt := parseDt tools now createdAt
    lastLoginAt := lastLoginAt.map (parseDt tools now) }

def rowToUser : Sql.Row → Except Sql.ColumnError UserRecord := readUser tools now 0

def rowToUserFromKey : Sql.Row → Except Sql.ColumnError UserRecord := readUser tools now 9

def rowToUserFromSession : Sql.Row → Except Sql.ColumnError UserRecord := readUser tools now 9

def rowToApiKey (row : Sql.Row) : Except Sql.ColumnError ApiKey := do
  let lastUsedAt ← row.getOptText 5
  let expiresAt ← row.getOptText 6
  let createdAt ← row.getText 7
  let revoked ← row.getInteger 8
  let id ← row.getText 0
  let userId ← row.getText 1
  let keyHash ← row.getText 2
  let keyPrefix ← row.getText 3
  let name ← row.getText 4
  return {
    id := id
    userId := userId
    keyHash := keyHash
    keyPrefix := keyPrefix
    name := name
    lastUsedAt := lastUsedAt.map (parseDt tools now)
    expiresAt := expiresAt.map (parseDt tools now)
    createdAt := parseDt tools now createdAt
    revoked := revoked ≠ 0 }

def rowToSession (row : Sql.Row) : Except Sql.ColumnError Session := do
  let createdAt ← row.getText 5
  let expiresAt ← row.getText 6
  let lastSeenAt ← row.getText 7
  let id ← row.getText 0
  let userId ← row.getText 1
  let sessionHash ← row.getText 2
  let userAgent ← row.getOptText 3
  let ip ← row.getOptText 4
  return {
    id := id
    userId := userId
    sessionHash := sessionHash
    userAgent := userAgent
    ip := ip
    createdAt := parseDt tools now createdAt
    expiresAt := parseDt tools now expiresAt
    lastSeenAt := parseDt tools now lastSeenAt }

end Rows

/-- What a row of the users says of its user. -/
def UserRow.user (u : UserRow) : User := ⟨u.id, u.email, u.name, UserRole.parse u.role⟩

/-- The session query asks for one column less than the key query; the user of a session is read
from the places of the key query all the same. -/
theorem rowToUserFromSession_columns (tools : StoreTools) (now : Utc) (s : SessionRow)
    (u : UserRow) : ∃ e, rowToUserFromSession tools now (s.columns ++ u.columns) = .error e := by
  obtain ⟨id, email, name, passwordHash, role, metadata, createdAt, lastLoginAt⟩ := u
  cases lastLoginAt with
  | none => exact ⟨.invalidColumnType 15, rfl⟩
  | some lastLoginAt => exact ⟨.invalidColumnIndex 16, rfl⟩

theorem rowToApiKey_columns (tools : StoreTools) (now : Utc) (k : ApiKeyRow) (u : UserRow) :
    ∃ key, rowToApiKey tools now (k.columns ++ u.columns) = .ok key ∧
      key.keyPrefix = k.keyPrefix := by
  obtain ⟨id, userId, keyHash, keyPrefix, name, lastUsedAt, expiresAt, createdAt, revoked⟩ := k
  cases lastUsedAt <;> cases expiresAt <;> exact ⟨_, rfl, rfl⟩

theorem rowToUserFromKey_columns (tools : StoreTools) (now : Utc) (k : ApiKeyRow) (u : UserRow) :
    ∃ user, rowToUserFromKey tools now (k.columns ++ u.columns) = .ok user ∧
      user.toUser = u.user := by
  obtain ⟨id, email, name, passwordHash, role, metadata, createdAt, lastLoginAt⟩ := u
  cases passwordHash <;> cases lastLoginAt <;> exact ⟨_, rfl, rfl⟩

namespace Tables

def empty : Tables where
  users := .empty
  apiKeys := .empty
  sessions := .empty
  tokenUsage := .empty
  apiKeys_user := fun _ h => absurd h List.not_mem_nil
  sessions_user := fun _ h => absurd h List.not_mem_nil
  tokenUsage_user := fun _ h => absurd h List.not_mem_nil

theorem owner_of_insert {users users' : Sql.Table UserRow UserRow.Clash}
    (h : users.insert row = some users') (howner : ∃ u ∈ users.rows, u.id = userId) :
    ∃ u ∈ users'.rows, u.id = userId := by
  obtain ⟨u, hu, hid⟩ := howner
  exact ⟨u, (Sql.Table.mem_insert h).mpr (.inl hu), hid⟩

section Statements

variable (t : Tables)

def insertUser (row : UserRow) : Except StoreError Tables :=
  match h : t.users.insert row with
  | none => .error .unique
  | some users =>
    .ok { t with
      users := users
      apiKeys_user := fun k hk => owner_of_insert h (t.apiKeys_user k hk)
      sessions_user := fun s hs => owner_of_insert h (t.sessions_user s hs)
      tokenUsage_user := fun r hr => owner_of_insert h (t.tokenUsage_user r hr) }

def insertApiKey (row : ApiKeyRow) : Except StoreError Tables :=
  match h : t.apiKeys.insert row with
  | none => .error .unique
  | some apiKeys =>
    if howner : ∃ u ∈ t.users.rows, u.id = row.userId then
      .ok { t with
        apiKeys := apiKeys
        apiKeys_user := fun k hk =>
          ((Sql.Table.mem_insert h).mp hk).elim (t.apiKeys_user k) fun heq => heq ▸ howner }
    else .error .foreignKey

def insertSession (row : SessionRow) : Except StoreError Tables :=
  match h : t.sessions.insert row with
  | none => .error .unique
  | some sessions =>
    if howner : ∃ u ∈ t.users.rows, u.id = row.userId then
      .ok { t with
        sessions := sessions
        sessions_user := fun s hs =>
          ((Sql.Table.mem_insert h).mp hs).elim (t.sessions_user s) fun heq => heq ▸ howner }
    else .error .foreignKey

/-- Change columns of the keys that no constraint is about. -/
def updateApiKeys (f : ApiKeyRow → ApiKeyRow)
    (hf : ∀ k, (f k).id = k.id ∧ (f k).keyHash = k.keyHash ∧ (f k).userId = k.userId) : Tables :=
  { t with
    apiKeys := t.apiKeys.update f fun a b h => by
      rwa [ApiKeyRow.Clash, (hf a).1, (hf b).1, (hf a).2.1, (hf b).2.1] at h
    apiKeys_user := by
      intro k hk
      obtain ⟨a, ha, rfl⟩ := Sql.Table.mem_update.mp hk
      rw [(hf a).2.2]
      exact t.apiKeys_user a ha }

def updateSessions (f : SessionRow → SessionRow)
    (hf : ∀ s, (f s).id = s.id ∧ (f s).sessionHash = s.sessionHash ∧ (f s).userId = s.userId) :
    Tables :=
  { t with
    sessions := t.sessions.update f fun a b h => by
      rwa [SessionRow.Clash, (hf a).1, (hf b).1, (hf a).2.1, (hf b).2.1] at h
    sessions_user := by
      intro s hs
      obtain ⟨a, ha, rfl⟩ := Sql.Table.mem_update.mp hs
      rw [(hf a).2.2]
      exact t.sessions_user a ha }

def deleteApiKeysWhere (p : ApiKeyRow → Bool) : Tables :=
  { t with
    apiKeys := t.apiKeys.deleteWhere p
    apiKeys_user := fun k hk => t.apiKeys_user k (Sql.Table.mem_deleteWhere.mp hk).1 }

def deleteSessionsWhere (p : SessionRow → Bool) : Tables :=
  { t with
    sessions := t.sessions.deleteWhere p
    sessions_user := fun s hs => t.sessions_user s (Sql.Table.mem_deleteWhere.mp hs).1 }

def deleteUsageWhere (p : UsageRow → Bool) : Tables :=
  { t with
    tokenUsage := t.tokenUsage.deleteWhere p
    tokenUsage_user := fun r hr => t.tokenUsage_user r (Sql.Table.mem_deleteWhere.mp hr).1 }

/-- A user that other rows are of cannot go. -/
def deleteUserRow (userId : String) : Except StoreError Tables :=
  if h : (∀ k ∈ t.apiKeys.rows, k.userId ≠ userId) ∧ (∀ s ∈ t.sessions.rows, s.userId ≠ userId) ∧
      ∀ r ∈ t.tokenUsage.rows, r.userId ≠ userId then
    have hkeep : ∀ {other}, other ≠ userId → (∃ u ∈ t.users.rows, u.id = other) →
        ∃ u ∈ (t.users.deleteWhere fun u => u.id = userId).rows, u.id = other := by
      rintro other hne ⟨u, hu, rfl⟩
      exact ⟨u, Sql.Table.mem_deleteWhere.mpr ⟨hu, decide_eq_false hne⟩, rfl⟩
    .ok { t with
      users := t.users.deleteWhere fun u => u.id = userId
      apiKeys_user := fun k hk => hkeep (h.1 k hk) (t.apiKeys_user k hk)
      sessions_user := fun s hs => hkeep (h.2.1 s hs) (t.sessions_user s hs)
      tokenUsage_user := fun r hr => hkeep (h.2.2 r hr) (t.tokenUsage_user r hr) }
  else .error .foreignKey

end Statements

section Operations

variable (tools : StoreTools) (t : Tables) (now : Utc)

/-- The password, when there is one, comes hashed or not at all. -/
def createUser (id email name : String) (hashed : Except String (Option String))
    (role : UserRole) : Except StoreError (UserRecord × Tables) :=
  let email := tools.lowercase (Str.trim email)
  if email = "" ∨ '@' ∉ email.toList then .error (.message "invalid email")
  else
    match hashed with
    | .error e => .error (.message s!"argon2 hash failed: {e}")
    | .ok passwordHash => do
      let t ← t.insertUser
        { id := id
          email := email
          name := name
          passwordHash := passwordHash
          role := role.asStr
          metadata := "\x7b\x7d"
          createdAt := Calendar.sqlTimestamp now
          lastLoginAt := none }
      return ({ id := id, email := email, name := name, role := role,
                passwordHash := passwordHash, createdAt := now, lastLoginAt := none }, t)

def deleteUser (id : String) : Except StoreError Tables :=
  let t := t.deleteApiKeysWhere fun k => k.userId = id
  let t := t.deleteSessionsWhere fun s => s.userId = id
  let t := t.deleteUsageWhere fun r => r.userId = id
  t.deleteUserRow id

/-- The first characters of a key are kept in the clear. -/
def keyPrefix (plaintext : String) : String := String.ofList (plaintext.toList.take 12)

def createApiKey (id plaintext userId name : String) : Except StoreError (ApiKey × Tables) := do
  let keyHash := tools.sha256Hex plaintext
  let t ← t.insertApiKey
    { id := id
      userId := userId
      keyHash := keyHash
      keyPrefix := keyPrefix plaintext
      name := name
      lastUsedAt := none
      expiresAt := none
      createdAt := Calendar.sqlTimestamp now
      revoked := false }
  return ({ id := id, userId := userId, keyHash := keyHash, keyPrefix := keyPrefix plaintext,
            name := name, lastUsedAt := none, expiresAt := none, createdAt := now,
            revoked := false }, t)

def touchApiKey (id : String) : Tables :=
  t.updateApiKeys
    (fun k => if k.id = id then { k with lastUsedAt := some (Calendar.sqlTimestamp now) } else k)
    fun k => by split <;> exact ⟨rfl, rfl, rfl⟩

/-- The keys with this hash that are not revoked, with their users. -/
def selectApiKey (keyHash : String) : List (ApiKeyRow × UserRow) :=
  Sql.join (t.apiKeys.rows.filter fun k => k.keyHash = keyHash && !k.revoked) t.users.rows
    fun k u => u.id = k.userId

def getUserByApiKey (plaintext : String) :
    Except Sql.ColumnError (Option (UserRecord × ApiKey)) × Tables :=
  match (t.selectApiKey (tools.sha256Hex plaintext)).head? with
  | none => (.ok none, t)
  | some (k, u) =>
    let row := k.columns ++ u.columns
    match rowToApiKey tools now row, rowToUserFromKey tools now row with
    | .error e, _ => (.error e, t)
    | .ok _, .error e => (.error e, t)
    | .ok key, .ok user => (.ok (some (user, key)), t.touchApiKey now key.id)

def revokeApiKey (keyId : String) : Tables :=
  t.updateApiKeys (fun k => if k.id = keyId then { k with revoked := true } else k)
    fun k => by split <;> exact ⟨rfl, rfl, rfl⟩

def deleteApiKey (keyId : String) : Tables := t.deleteApiKeysWhere fun k => k.id = keyId

/-- The instants a date can be written for. -/
def minUtc : Utc := Calendar.daysBefore (-262143) * Calendar.nanosPerDay

def maxUtc : Utc := Calendar.daysBefore 262143 * Calendar.nanosPerDay - 1

def addHours (hours : Int64) : Option Utc :=
  let sum := now + hours.toInt * 3600000000000
  if minUtc ≤ sum ∧ sum ≤ maxUtc then some sum else none

def createSession (id token userId : String) (userAgent ip : Option String) (ttlHours : Int64) :
    Except StoreError (Session × Tables) :=
  match addHours now ttlHours with
  | none => .error .outOfRange
  | some expires => do
    let sessionHash := tools.sha256Hex token
    let t ← t.insertSession
      { id := id
        userId := userId
        sessionHash := sessionHash
        userAgent := userAgent
        ip := ip
        createdAt := Calendar.sqlTimestamp now
        expiresAt := Calendar.rfc3339 expires
        lastSeenAt := Calendar.sqlTimestamp now }
    return ({ id := id, userId := userId, sessionHash := sessionHash, userAgent := userAgent,
              ip := ip, createdAt := now, expiresAt := expires, lastSeenAt := now }, t)

def touchSession (id : String) : Tables :=
  t.updateSessions
    (fun s => if s.id = id then { s with lastSeenAt := Calendar.sqlTimestamp now } else s)
    fun s => by split <;> exact ⟨rfl, rfl, rfl⟩

/-- The sessions with this hash that expire later by the text of their time. -/
def selectSession (sessionHash : String) : List (SessionRow × UserRow) :=
  Sql.join
    (t.sessions.rows.filter fun s =>
      s.sessionHash = sessionHash && Str.before (Calendar.sqlTimestamp now) s.expiresAt)
    t.users.rows fun s u => u.id = s.userId

def getSession (token : String) :
    Except Sql.ColumnError (Option (Session × UserRecord)) × Tables :=
  match (t.selectSession now (tools.sha256Hex token)).head? with
  | none => (.ok none, t)
  | some (s, u) =>
    let row := s.columns ++ u.columns
    match rowToSession tools now row, rowToUserFromSession tools now row with
    | .error e, _ => (.error e, t)
    | .ok _, .error e => (.error e, t)
    | .ok session, .ok user => (.ok (some (session, user)), t.touchSession now session.id)

def deleteSession (id : String) : Tables := t.deleteSessionsWhere fun s => s.id = id

def deleteUserSessions (userId : String) : Tables :=
  t.deleteSessionsWhere fun s => s.userId = userId

def pruneExpiredSessions : Tables :=
  t.deleteSessionsWhere fun s => Str.before s.expiresAt (Calendar.sqlTimestamp now)

/-- What the middleware asks of the tables. An error counts as no answer. -/
def userStore : UserStore where
  getUserByApiKey plaintext :=
    match (t.getUserByApiKey tools now plaintext).1 with
    | .ok (some (user, key)) => some (user.toUser, key.keyPrefix)
    | _ => none
  getSession token :=
    match (t.getSession tools now token).1 with
    | .ok (some (session, user)) => some (user.toUser, session.id)
    | _ => none

end Operations

section Spec

variable {tools : StoreTools} {t t' : Tables} {now : Utc} {id : String}

theorem mem_updateApiKeys {f : ApiKeyRow → ApiKeyRow}
    {hf : ∀ k, (f k).id = k.id ∧ (f k).keyHash = k.keyHash ∧ (f k).userId = k.userId} :
    k ∈ (t.updateApiKeys f hf).apiKeys.rows ↔ ∃ a ∈ t.apiKeys.rows, f a = k := List.mem_map

theorem insertUser_eq_ok (h : t.insertUser row = .ok t') :
    t.users.insert row = some t'.users ∧ t'.apiKeys = t.apiKeys ∧ t'.sessions = t.sessions := by
  rw [insertUser] at h
  split at h
  · cases h
  · cases h
    exact ⟨‹_›, rfl, rfl⟩

theorem insertUser_clash {row : UserRow}
    (h : ∃ u ∈ t.users.rows, UserRow.Clash u row) : t.insertUser row = .error .unique := by
  obtain ⟨u, hu, hclash⟩ := h
  rw [insertUser]
  split
  · rfl
  · next hinsert => exact ((Sql.Table.insert_eq_some hinsert).1 u hu hclash).elim

theorem insertUser_free (row : UserRow)
    (h : ∀ u ∈ t.users.rows, ¬ UserRow.Clash u row) :
    ∃ t', t.insertUser row = .ok t' ∧ t'.users.rows = t.users.rows ++ [row] := by
  rw [insertUser]
  split
  · next hinsert =>
    rw [Sql.Table.insert, dif_pos h] at hinsert
    cases hinsert
  · next hinsert => exact ⟨_, rfl, (Sql.Table.insert_eq_some hinsert).2⟩

theorem insertApiKey_eq_ok (h : t.insertApiKey row = .ok t') :
    t.apiKeys.insert row = some t'.apiKeys ∧ t'.users = t.users ∧ t'.sessions = t.sessions ∧
      ∃ u ∈ t.users.rows, u.id = row.userId := by
  rw [insertApiKey] at h
  split at h
  · cases h
  · split at h
    · cases h
      exact ⟨‹_›, rfl, rfl, ‹_›⟩
    · cases h

theorem insertSession_eq_ok (h : t.insertSession row = .ok t') :
    t.sessions.insert row = some t'.sessions ∧ t'.users = t.users ∧ t'.apiKeys = t.apiKeys ∧
      ∃ u ∈ t.users.rows, u.id = row.userId := by
  rw [insertSession] at h
  split at h
  · cases h
  · split at h
    · cases h
      exact ⟨‹_›, rfl, rfl, ‹_›⟩
    · cases h

/-- The rows of a user go before the user, so that no constraint is in the way. -/
theorem deleteUser_eq_ok (t : Tables) (id : String) : ∃ t', t.deleteUser id = .ok t' ∧
    t'.users = t.users.deleteWhere (fun u => u.id = id) ∧
    t'.apiKeys = t.apiKeys.deleteWhere (fun k => k.userId = id) ∧
    t'.sessions = t.sessions.deleteWhere (fun s => s.userId = id) := by
  have hgone : ∀ {ρ : Type} {clash : ρ → ρ → Prop} {table : Sql.Table ρ clash} {owner : ρ → String},
      ∀ r ∈ (table.deleteWhere fun r => owner r = id).rows, owner r ≠ id := by
    intro ρ clash table owner r hr
    exact of_decide_eq_false (Sql.Table.mem_deleteWhere.mp hr).2
  rw [deleteUser, deleteUserRow, dif_pos ⟨hgone, hgone, hgone⟩]
  exact ⟨_, rfl, rfl, rfl, rfl⟩

/-- A new user is read back as it was created. -/
theorem createUser_eq_ok (h : t.createUser tools now id email name hashed role = .ok (user, t')) :
    ∃ row : UserRow, t.users.insert row = some t'.users ∧ row.user = user.toUser ∧
      user.id = id ∧ t'.apiKeys = t.apiKeys ∧ t'.sessions = t.sessions := by
  simp only [createUser] at h
  split at h
  · cases h
  · split at h
    · cases h
    · obtain ⟨t₁, hinsert, hok⟩ := Toml.bind_eq_ok.mp h
      cases hok
      obtain ⟨husers, hkeys, hsessions⟩ := insertUser_eq_ok hinsert
      refine ⟨_, husers, ?_, rfl, hkeys, hsessions⟩
      rw [UserRow.user, UserRole.parse_asStr]

theorem createApiKey_eq_ok (h : t.createApiKey tools now id plaintext userId name = .ok (key, t')) :
    ∃ row : ApiKeyRow, t.apiKeys.insert row = some t'.apiKeys ∧ row.id = id ∧
      row.userId = userId ∧ row.keyHash = tools.sha256Hex plaintext ∧
      row.keyPrefix = keyPrefix plaintext ∧ row.revoked = false ∧ t'.users = t.users ∧
      t'.sessions = t.sessions ∧ ∃ u ∈ t.users.rows, u.id = userId := by
  rw [createApiKey] at h
  obtain ⟨t₁, hinsert, hok⟩ := Toml.bind_eq_ok.mp h
  cases hok
  obtain ⟨hkeys, husers, hsessions, howner⟩ := insertApiKey_eq_ok hinsert
  exact ⟨_, hkeys, rfl, rfl, rfl, rfl, rfl, husers, hsessions, howner⟩

theorem createSession_eq_ok
    (h : t.createSession tools now id token userId userAgent ip ttlHours = .ok (session, t')) :
    ∃ row : SessionRow, t.sessions.insert row = some t'.sessions ∧ row.id = id ∧
      row.userId = userId ∧ row.sessionHash = tools.sha256Hex token ∧
      row.expiresAt = Calendar.rfc3339 session.expiresAt ∧
      addHours now ttlHours = some session.expiresAt ∧ t'.users = t.users ∧
      t'.apiKeys = t.apiKeys ∧ ∃ u ∈ t.users.rows, u.id = userId := by
  rw [createSession] at h
  split at h
  · cases h
  · obtain ⟨t₁, hinsert, hok⟩ := Toml.bind_eq_ok.mp h
    cases hok
    obtain ⟨hsessions, husers, hkeys, howner⟩ := insertSession_eq_ok hinsert
    exact ⟨_, hsessions, rfl, rfl, rfl, rfl, ‹_›, husers, hkeys, howner⟩

/-- A session that is found is not read, so that nothing is noted of it either. -/
theorem getSession_cases (tools : StoreTools) (t : Tables) (now : Utc) (token : String) :
    t.getSession tools now token = (.ok none, t) ∨
      ∃ e, t.getSession tools now token = (.error e, t) := by
  rw [getSession]
  cases (t.selectSession now (tools.sha256Hex token)).head? with
  | none => exact .inl rfl
  | some found =>
    obtain ⟨s, u⟩ := found
    obtain ⟨e, he⟩ := rowToUserFromSession_columns tools now s u
    dsimp only
    rw [he]
    cases rowToSession tools now (s.columns ++ u.columns) with
    | error e' => exact .inr ⟨e', rfl⟩
    | ok session => exact .inr ⟨e, rfl⟩

theorem getSession_ne_some (tools : StoreTools) (t : Tables) (now : Utc) (token : String)
    (found : Session × UserRecord) : (t.getSession tools now token).1 ≠ .ok (some found) := by
  intro h
  rcases getSession_cases tools t now token with hnone | ⟨e, herror⟩
  · rw [hnone] at h
    cases h
  · rw [herror] at h
    cases h

theorem mem_selectApiKey : (k, r) ∈ t.selectApiKey keyHash ↔
    (k ∈ t.apiKeys.rows ∧ k.keyHash = keyHash ∧ k.revoked = false) ∧
      r ∈ t.users.rows ∧ r.id = k.userId := by
  rw [selectApiKey, Sql.mem_join, List.mem_filter, Bool.and_eq_true, decide_eq_true_eq,
    decide_eq_true_eq, Bool.not_eq_true']

/-- The hash and the user's id leave one row at most. -/
theorem head?_selectApiKey :
    (t.selectApiKey keyHash).head? = some p ↔ p ∈ t.selectApiKey keyHash := by
  refine Sql.head?_eq_some_iff ?_
  rintro ⟨k, r⟩ hp ⟨l, s⟩ hq
  obtain ⟨⟨hk, hkhash, -⟩, hr, hrid⟩ := mem_selectApiKey.mp hp
  obtain ⟨⟨hl, hlhash, -⟩, hs, hsid⟩ := mem_selectApiKey.mp hq
  have hkl : k = l := Sql.Table.eq_of_clash hk hl (.inr (hkhash.trans hlhash.symm))
  subst hkl
  have hrs : r = s := Sql.Table.eq_of_clash hr hs (.inl (hrid.trans hsid.symm))
  rw [hrs]

/-- A lookup finds the user of the one key row with the hash that is not revoked. -/
theorem getUserByApiKey_eq_some (tools : StoreTools) (t : Tables) (now : Utc) (plaintext : String)
    (u : User) (front : String) :
    (∃ user key, (t.getUserByApiKey tools now plaintext).1 = .ok (some (user, key)) ∧
      user.toUser = u ∧ key.keyPrefix = front) ↔
    ∃ k r, (k, r) ∈ t.selectApiKey (tools.sha256Hex plaintext) ∧ k.keyPrefix = front ∧
      r.user = u := by
  constructor
  · intro hfound
    obtain ⟨user, key, h, rfl, rfl⟩ := hfound
    rw [getUserByApiKey] at h
    split at h
    · cases h
    · rename_i k r hhead
      obtain ⟨key', hkey, hfront⟩ := rowToApiKey_columns tools now k r
      obtain ⟨user', huser, htoUser⟩ := rowToUserFromKey_columns tools now k r
      simp only [hkey, huser] at h
      cases h
      exact ⟨k, r, head?_selectApiKey.mp hhead, hfront.symm, htoUser.symm⟩
  · intro h
    obtain ⟨k, r, hmem, rfl, rfl⟩ := h
    obtain ⟨key, hkey, hfront⟩ := rowToApiKey_columns tools now k r
    obtain ⟨user, huser, htoUser⟩ := rowToUserFromKey_columns tools now k r
    refine ⟨user, key, ?_, htoUser, hfront⟩
    rw [getUserByApiKey, head?_selectApiKey.mpr hmem]
    simp only [hkey, huser]

end Spec

end Tables

end TokenDealer
