import TokenDealer.CredentialSoundness
import TokenDealer.Rfc3339

set_option autoImplicit true

namespace TokenDealer

inductive TimeFormat where
  | timestamp
  | rfc3339
  deriving DecidableEq, Repr

/-- A time as it is written into a column. A timestamp of the database has whole seconds. -/
structure StoredTime where
  time : Utc
  format : TimeFormat
  fourDigits : Calendar.FourDigits (Calendar.dayOf time)
  whole : format = .timestamp → time % 1000000000 = 0

def StoredTime.text (t : StoredTime) : String :=
  match t.format with
  | .timestamp => Calendar.sqlTimestamp t.time
  | .rfc3339 => Calendar.rfc3339 t.time

/-- The parser of RFC 3339 reads what is written in that format, and nothing without a zone. -/
structure ReadsRfc3339 (tools : StoreTools) : Prop where
  rfc3339 : ∀ t, Calendar.FourDigits (Calendar.dayOf t) →
    tools.parseRfc3339 (Calendar.rfc3339 t) = some t
  timestamp : ∀ t, Calendar.FourDigits (Calendar.dayOf t) →
    tools.parseRfc3339 (Calendar.sqlTimestamp t) = none

/-- The rows with these times in their columns. -/
def UserRow.stamped (u : UserRow) (created : StoredTime) (lastLogin : Option StoredTime) :
    UserRow :=
  { u with createdAt := created.text, lastLoginAt := lastLogin.map StoredTime.text }

def ApiKeyRow.stamped (k : ApiKeyRow) (lastUsed expires : Option StoredTime)
    (created : StoredTime) : ApiKeyRow :=
  { k with
    lastUsedAt := lastUsed.map StoredTime.text
    expiresAt := expires.map StoredTime.text
    createdAt := created.text }

def SessionRow.stamped (s : SessionRow) (created expires lastSeen : StoredTime) : SessionRow :=
  { s with createdAt := created.text, expiresAt := expires.text, lastSeenAt := lastSeen.text }

/-- What a row says of its user, key or session but for the times. -/
def UserRow.recordAt (u : UserRow) (created : Utc) (lastLogin : Option Utc) : UserRecord where
  toUser := u.user
  passwordHash := u.passwordHash
  createdAt := created
  lastLoginAt := lastLogin

def ApiKeyRow.keyAt (k : ApiKeyRow) (lastUsed expires : Option Utc) (created : Utc) : ApiKey where
  id := k.id
  userId := k.userId
  keyHash := k.keyHash
  keyPrefix := k.keyPrefix
  name := k.name
  lastUsedAt := lastUsed
  expiresAt := expires
  createdAt := created
  revoked := k.revoked

def SessionRow.sessionAt (s : SessionRow) (created expires lastSeen : Utc) : Session where
  id := s.id
  userId := s.userId
  sessionHash := s.sessionHash
  userAgent := s.userAgent
  ip := s.ip
  createdAt := created
  expiresAt := expires
  lastSeenAt := lastSeen

section Statement

variable (tools : StoreTools)

/-- A row is read with the times that are stored in it, and each time in the same way. -/
structure ReadBack (read : Utc → Except Sql.ColumnError α) (P : α → Prop) : Prop where
  stored : ∀ now, ∃ a, read now = .ok a ∧ P a
  same : ∀ now now', read now = read now'

def UserReadBack (u : UserRow) (created : StoredTime) (lastLogin : Option StoredTime) : Prop :=
  ReadBack (fun now => rowToUser tools now (u.stamped created lastLogin).columns) fun user =>
    user.createdAt = created.time ∧ user.lastLoginAt = lastLogin.map StoredTime.time

def ApiKeyReadBack (k : ApiKeyRow) (lastUsed expires : Option StoredTime) (created : StoredTime) :
    Prop :=
  ReadBack (fun now => rowToApiKey tools now (k.stamped lastUsed expires created).columns)
    fun key => key.lastUsedAt = lastUsed.map StoredTime.time ∧
      key.expiresAt = expires.map StoredTime.time ∧ key.createdAt = created.time

def SessionReadBack (s : SessionRow) (created expires lastSeen : StoredTime) : Prop :=
  ReadBack (fun now => rowToSession tools now (s.stamped created expires lastSeen).columns)
    fun session => session.createdAt = created.time ∧ session.expiresAt = expires.time ∧
      session.lastSeenAt = lastSeen.time

end Statement

section Reading

variable {tools : StoreTools}

/-- A time that is not in the format of the parser is read as the current time. -/
def StoredTime.readAt (now : Utc) (t : StoredTime) : Utc :=
  if t.format = .rfc3339 then t.time else now

theorem parseDt_text (htools : ReadsRfc3339 tools) (now : Utc) (t : StoredTime) :
    parseDt tools now t.text = t.readAt now := by
  rw [parseDt, StoredTime.text, StoredTime.readAt]
  cases t.format with
  | timestamp =>
    dsimp only
    rw [htools.timestamp _ t.fourDigits]
    rfl
  | rfc3339 =>
    dsimp only
    rw [htools.rfc3339 _ t.fourDigits]
    rfl

theorem readAt_eq_iff (t : StoredTime) :
    (∀ now, t.readAt now = t.time) ↔ t.format = .rfc3339 := by
  simp only [StoredTime.readAt]
  constructor
  · intro hread
    by_contra hformat
    have hnext := hread (t.time + 1)
    rw [if_neg hformat] at hnext
    exact Int.ne_of_gt (Int.lt_succ t.time) hnext
  · intro hformat now
    exact if_pos hformat

theorem map_readAt_eq_iff (t : Option StoredTime) :
    (∀ now, t.map (StoredTime.readAt now) = t.map StoredTime.time) ↔
      ∀ t' ∈ t, t'.format = .rfc3339 := by
  cases t with
  | none => exact iff_of_true (fun _ => rfl) nofun
  | some t =>
    simp only [Option.map_some, Option.some.injEq, readAt_eq_iff, Option.mem_def, forall_eq']

theorem rowToUser_stamped (htools : ReadsRfc3339 tools) (now : Utc) (u : UserRow)
    (created : StoredTime) (lastLogin : Option StoredTime) :
    rowToUser tools now (u.stamped created lastLogin).columns =
      .ok (u.recordAt (created.readAt now) (lastLogin.map (StoredTime.readAt now))) := by
  have hread := parseDt_text htools now
  obtain ⟨id, email, name, passwordHash, role, metadata, createdAt, lastLoginAt⟩ := u
  rw [← hread created, ← funext hread]
  cases passwordHash <;> cases lastLogin <;> rfl

theorem rowToApiKey_stamped (htools : ReadsRfc3339 tools) (now : Utc) (k : ApiKeyRow)
    (lastUsed expires : Option StoredTime) (created : StoredTime) :
    rowToApiKey tools now (k.stamped lastUsed expires created).columns =
      .ok (k.keyAt (lastUsed.map (StoredTime.readAt now)) (expires.map (StoredTime.readAt now))
        (created.readAt now)) := by
  have hread := parseDt_text htools now
  obtain ⟨id, userId, keyHash, keyPrefix, name, lastUsedAt, expiresAt, createdAt, revoked⟩ := k
  rw [← hread created, ← funext hread]
  cases lastUsed <;> cases expires <;> cases revoked <;> rfl

theorem rowToSession_stamped (htools : ReadsRfc3339 tools) (now : Utc) (s : SessionRow)
    (created expires lastSeen : StoredTime) :
    rowToSession tools now (s.stamped created expires lastSeen).columns =
      .ok (s.sessionAt (created.readAt now) (expires.readAt now) (lastSeen.readAt now)) := by
  have hread := parseDt_text htools now
  obtain ⟨id, userId, sessionHash, userAgent, ip, createdAt, expiresAt, lastSeenAt⟩ := s
  rw [← hread created, ← hread expires, ← hread lastSeen]
  cases userAgent <;> cases ip <;> rfl

/-- A row is read back when it is read with the stored times at every time, and these leave no
choice. -/
theorem readBack_iff {read : Utc → Except Sql.ColumnError α} {P : α → Prop} {f : Utc → α}
    (hread : ∀ now, read now = .ok (f now))
    (hone : ∀ now now', P (f now) → P (f now') → f now = f now') :
    ReadBack read P ↔ ∀ now, P (f now) := by
  constructor
  · intro h now
    obtain ⟨a, ha, hP⟩ := h.stored now
    cases (hread now).symm.trans ha
    exact hP
  · intro h
    refine ⟨fun now => ⟨f now, hread now, h now⟩, ?_⟩
    intro now now'
    rw [hread, hread, hone now now' (h now) (h now')]

theorem userReadBack_iff (htools : ReadsRfc3339 tools) (u : UserRow) (created : StoredTime)
    (lastLogin : Option StoredTime) : UserReadBack tools u created lastLogin ↔
      created.format = .rfc3339 ∧ ∀ t ∈ lastLogin, t.format = .rfc3339 := by
  rw [UserReadBack, readBack_iff fun now => rowToUser_stamped htools now u created lastLogin]
  · exact forall_and.trans (and_congr (readAt_eq_iff created) (map_readAt_eq_iff lastLogin))
  · rintro now now' ⟨hcreated, hlogin⟩ ⟨hcreated', hlogin'⟩
    exact congrArg₂ u.recordAt (hcreated.trans hcreated'.symm) (hlogin.trans hlogin'.symm)

theorem apiKeyReadBack_iff (htools : ReadsRfc3339 tools) (k : ApiKeyRow)
    (lastUsed expires : Option StoredTime) (created : StoredTime) :
    ApiKeyReadBack tools k lastUsed expires created ↔
      (∀ t ∈ lastUsed, t.format = .rfc3339) ∧ (∀ t ∈ expires, t.format = .rfc3339) ∧
        created.format = .rfc3339 := by
  rw [ApiKeyReadBack,
    readBack_iff fun now => rowToApiKey_stamped htools now k lastUsed expires created]
  · exact forall_and.trans (and_congr (map_readAt_eq_iff lastUsed)
      (forall_and.trans (and_congr (map_readAt_eq_iff expires) (readAt_eq_iff created))))
  · rintro now now' ⟨hused, hexpires, hcreated⟩ ⟨hused', hexpires', hcreated'⟩
    exact congr (congrArg₂ k.keyAt (hused.trans hused'.symm) (hexpires.trans hexpires'.symm))
      (hcreated.trans hcreated'.symm)

theorem sessionReadBack_iff (htools : ReadsRfc3339 tools) (s : SessionRow)
    (created expires lastSeen : StoredTime) :
    SessionReadBack tools s created expires lastSeen ↔
      created.format = .rfc3339 ∧ expires.format = .rfc3339 ∧ lastSeen.format = .rfc3339 := by
  rw [SessionReadBack,
    readBack_iff fun now => rowToSession_stamped htools now s created expires lastSeen]
  · exact forall_and.trans (and_congr (readAt_eq_iff created)
      (forall_and.trans (and_congr (readAt_eq_iff expires) (readAt_eq_iff lastSeen))))
  · rintro now now' ⟨hcreated, hexpires, hseen⟩ ⟨hcreated', hexpires', hseen'⟩
    exact congr (congrArg₂ s.sessionAt (hcreated.trans hcreated'.symm)
      (hexpires.trans hexpires'.symm)) (hseen.trans hseen'.symm)

end Reading

/-- The times of a row are read back exactly when all of them are written as RFC 3339 has them. -/
theorem times_read_back_iff {tools : StoreTools} (htools : ReadsRfc3339 tools) :
    (∀ u created lastLogin, UserReadBack tools u created lastLogin ↔
      created.format = .rfc3339 ∧ ∀ t ∈ lastLogin, t.format = .rfc3339) ∧
    (∀ k lastUsed expires created, ApiKeyReadBack tools k lastUsed expires created ↔
      (∀ t ∈ lastUsed, t.format = .rfc3339) ∧ (∀ t ∈ expires, t.format = .rfc3339) ∧
        created.format = .rfc3339) ∧
    ∀ s created expires lastSeen, SessionReadBack tools s created expires lastSeen ↔
      created.format = .rfc3339 ∧ expires.format = .rfc3339 ∧ lastSeen.format = .rfc3339 :=
  ⟨userReadBack_iff htools, apiKeyReadBack_iff htools, sessionReadBack_iff htools⟩

section Samples

def zonedTools : StoreTools where
  sha256Hex := Tables.sampleSha256
  lowercase := id
  parseRfc3339 := Rfc3339.parse

theorem zonedTools_reads : ReadsRfc3339 zonedTools :=
  ⟨fun _ => Rfc3339.parse_rfc3339, fun _ => Rfc3339.parse_sqlTimestamp⟩

theorem times_read_back_sample :
    (∀ u created lastLogin, UserReadBack zonedTools u created lastLogin ↔
      created.format = .rfc3339 ∧ ∀ t ∈ lastLogin, t.format = .rfc3339) ∧
    (∀ k lastUsed expires created, ApiKeyReadBack zonedTools k lastUsed expires created ↔
      (∀ t ∈ lastUsed, t.format = .rfc3339) ∧ (∀ t ∈ expires, t.format = .rfc3339) ∧
        created.format = .rfc3339) ∧
    ∀ s created expires lastSeen, SessionReadBack zonedTools s created expires lastSeen ↔
      created.format = .rfc3339 ∧ expires.format = .rfc3339 ∧ lastSeen.format = .rfc3339 :=
  times_read_back_iff zonedTools_reads

/-- The time that the schema gives a row by itself. -/
def sampleCreated : StoredTime where
  time := Tables.sampleNow
  format := .timestamp
  fourDigits := ⟨by decide, by decide⟩
  whole _ := by decide

/-- A user created by the program was created just now, whenever one asks. -/
theorem creation_time_forgotten :
    ¬ ∀ (tools : StoreTools), ReadsRfc3339 tools → ∀ u created lastLogin,
      UserReadBack tools u created lastLogin := by
  intro hall
  have hread := hall zonedTools zonedTools_reads
    ⟨"u1", "ada@example.com", "Ada", none, "user", "{}", "", none⟩ sampleCreated none
  obtain ⟨hformat, -⟩ := (userReadBack_iff zonedTools_reads _ _ _).mp hread
  cases hformat

end Samples

end TokenDealer
