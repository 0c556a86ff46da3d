import TokenDealer.Admin
import TokenDealer.CredentialSoundness

set_option autoImplicit true

namespace TokenDealer

namespace Tables

variable (t : Tables)

/-- Change columns of the users that no constraint is about. -/
def updateUsers (f : UserRow → UserRow) (hf : ∀ u, (f u).id = u.id ∧ (f u).email = u.email) :
    Tables :=
  have howner : ∀ {userId}, (∃ u ∈ t.users.rows, u.id = userId) →
      ∃ u ∈ t.users.rows.map f, u.id = userId := by
    rintro userId ⟨u, hu, rfl⟩
    exact ⟨f u, List.mem_map.mpr ⟨u, hu, rfl⟩, (hf u).1⟩
  { t with
    users := t.users.update f fun a b h => by
      rwa [UserRow.Clash, (hf a).1, (hf b).1, (hf a).2, (hf b).2] at h
    apiKeys_user := fun k hk => howner (t.apiKeys_user k hk)
    sessions_user := fun s hs => howner (t.sessions_user s hs)
    tokenUsage_user := fun r hr => howner (t.tokenUsage_user r hr) }

def getUser (tools : StoreTools) (now : Utc) (id : String) :
    Except StoreError (Option UserRecord) :=
  match t.users.rows.find? fun u => u.id = id with
  | none => .ok none
  | some u => ((rowToUser tools now u.columns).map some).mapError .column

def setPassword (userId newHash : String) : Tables :=
  t.updateUsers (fun u => if u.id = userId then { u with passwordHash := some newHash } else u)
    fun u => by split <;> exact ⟨rfl, rfl⟩

/-- The hash is the one that is drawn for this call. -/
def updatePassword (userId newPassword : String) (hashed : Except String String)
    (written : Except StoreError Unit) : Except StoreError Tables :=
  if newPassword = "" then .error (.message "password must not be empty")
  else
    match hashed with
    | .error e => .error (.message s!"argon2 hash failed: {e}")
    | .ok newHash => do
      let _ ← written
      if t.users.rows.any fun u => u.id = userId then return t.setPassword userId newHash
      else throw (.message s!"user not found: {userId}")

variable {t} {t' : Tables}

theorem updatePassword_eq_ok
    (h : t.updatePassword userId newPassword hashed written = .ok t') :
    ∃ newHash, hashed = .ok newHash ∧ (∃ u ∈ t.users.rows, u.id = userId) ∧
      t' = t.setPassword userId newHash := by
  unfold updatePassword at h
  split at h
  · cases h
  · cases hashed with
    | error e => cases h
    | ok newHash =>
      obtain ⟨u, -, hset⟩ := Toml.bind_eq_ok.mp h
      split at hset
      · next hthere =>
        cases hset
        obtain ⟨u, hu, hid⟩ := List.any_eq_true.mp hthere
        exact ⟨newHash, rfl, ⟨u, hu, of_decide_eq_true hid⟩, rfl⟩
      · cases hset

end Tables

structure RotatePasswordReq where
  currentPassword : String
  newPassword : String
  deriving DecidableEq, Repr

/-- What happens outside the handler: what the statements report, and the hashes. -/
structure RotationWorld where
  store : StoreTools
  now : Utc
  verifyPassword : String → String → Bool
  hash : String → Except String String
  queried : Except StoreError Unit
  updated : Except StoreError Unit
  pruned : Except StoreError Unit

namespace Admin

variable (w : RotationWorld) (caller : UserContext) (body : RotatePasswordReq) (t : Tables)

/-- A failure to delete the sessions goes unnoticed. -/
def rotatePassword : AdminResponse × Tables :=
  if body.newPassword = "" then (.error 400 "new_password must not be empty", t)
  else
    match w.queried.bind fun _ => t.getUser w.store w.now caller.userId with
    | .error _ => (.error 500 "internal error", t)
    | .ok none => (.error 404 "user not found", t)
    | .ok (some user) =>
      match user.passwordHash with
      | none => (.error 400 "user has no password set; cannot rotate", t)
      | some storedHash =>
        if !w.verifyPassword body.currentPassword storedHash then
          (.error 401 "current_password is wrong", t)
        else
          match t.updatePassword caller.userId body.newPassword (w.hash body.newPassword)
            w.updated with
          | .error _ => (.error 500 "internal error", t)
          | .ok t =>
            (.ok 200 [("status", .string "ok")],
              match w.pruned with
              | .error _ => t
              | .ok _ => t.deleteUserSessions caller.userId)

/-- The call is made through a session of the caller, which is shown by its token. -/
structure Through (s : SessionRow) (token : String) : Prop where
  mem : s ∈ t.sessions.rows
  owned : s.userId = caller.userId
  presented : caller.sessionId = some s.id
  hashed : w.store.sha256Hex token = s.sessionHash

/-- A token opens a session. -/
def Accepts (t : Tables) (token : String) : Prop :=
  ∃ found, (t.getSession w.store w.now token).1 = .ok (some found)

/-- The caller's session stays, the user's other ones go, the rest is as it was, and the old
password is no longer the one. -/
structure KeepsCaller (s : SessionRow) (token : String) (t' : Tables) : Prop where
  stays : Accepts w t' token
  others : ∀ s' ∈ t.sessions.rows, s'.userId = caller.userId → s' ≠ s → ∀ token',
    w.store.sha256Hex token' = s'.sessionHash → ¬ Accepts w t' token'
  otherUsers : ∀ s', s'.userId ≠ caller.userId → (s' ∈ t'.sessions.rows ↔ s' ∈ t.sessions.rows)
  apiKeys : t'.apiKeys = t.apiKeys
  oldPassword : ∀ u ∈ t'.users.rows, u.id = caller.userId → ∀ h, u.passwordHash = some h →
    w.verifyPassword body.currentPassword h = false

variable {w caller body t} {s : SessionRow} {token : String}

/-- A rotation that succeeds has set the password, and has deleted the sessions of the user unless
that failed. -/
theorem rotatePassword_success (h : (rotatePassword w caller body t).1.IsSuccess) :
    ∃ newHash, w.hash body.newPassword = .ok newHash ∧
      (∃ u ∈ t.users.rows, u.id = caller.userId) ∧
      (rotatePassword w caller body t).2 =
        match w.pruned with
        | .error _ => t.setPassword caller.userId newHash
        | .ok _ => (t.setPassword caller.userId newHash).deleteUserSessions caller.userId := by
  have hfails : ∀ {status message}, 300 ≤ status →
      ¬ (AdminResponse.error status message).IsSuccess := fun hle => Nat.not_lt.mpr hle
  rw [rotatePassword] at h ⊢
  by_cases hempty : body.newPassword = ""
  · rw [if_pos hempty] at h
    exact absurd h (hfails (by decide))
  rw [if_neg hempty] at h ⊢
  cases hfound : w.queried.bind fun _ => t.getUser w.store w.now caller.userId with
  | error e =>
    rw [hfound] at h
    exact absurd h (hfails (by decide))
  | ok found =>
    rw [hfound] at h
    cases found with
    | none => exact absurd h (hfails (by decide))
    | some user =>
      dsimp only at h ⊢
      cases hstored : user.passwordHash with
      | none =>
        rw [hstored] at h
        exact absurd h (hfails (by decide))
      | some storedHash =>
        rw [hstored] at h
        dsimp only at h ⊢
        cases hverify : w.verifyPassword body.currentPassword storedHash with
        | false =>
          rw [hverify] at h
          exact absurd h (hfails (by decide))
        | true =>
          rw [hverify] at h
          simp only [Bool.not_true, Bool.false_eq_true, if_false] at h ⊢
          cases hupdate : t.updatePassword caller.userId body.newPassword
            (w.hash body.newPassword) w.updated with
          | error e =>
            rw [hupdate] at h
            exact absurd h (hfails (by decide))
          | ok t' =>
            obtain ⟨newHash, hhash, howner, rfl⟩ := Tables.updatePassword_eq_ok hupdate
            exact ⟨newHash, hhash, howner, rfl⟩

theorem rotatePassword_apiKeys (h : (rotatePassword w caller body t).1.IsSuccess) :
    (rotatePassword w caller body t).2.apiKeys = t.apiKeys := by
  obtain ⟨newHash, -, -, htables⟩ := rotatePassword_success h
  rw [htables]
  cases w.pruned <;> rfl

/-- Which sessions are left. -/
theorem mem_rotatePassword_sessions (h : (rotatePassword w caller body t).1.IsSuccess) :
    s ∈ (rotatePassword w caller body t).2.sessions.rows ↔
      s ∈ t.sessions.rows ∧ (w.pruned.isOk = true → s.userId ≠ caller.userId) := by
  obtain ⟨newHash, -, -, htables⟩ := rotatePassword_success h
  rw [htables]
  cases w.pruned with
  | error e => exact (and_iff_left nofun).symm
  | ok u =>
    refine Sql.Table.mem_deleteWhere.trans (and_congr_right fun _ => ?_)
    rw [decide_eq_false_iff_not]
    exact ⟨fun hne _ => hne, fun hne => hne rfl⟩

/-- The old password still is the one exactly when the new one is the same. -/
theorem rotatePassword_oldPassword_iff (h : (rotatePassword w caller body t).1.IsSuccess)
    (hargon : ∀ p newHash, w.hash p = .ok newHash →
      ∀ q, w.verifyPassword q newHash = true ↔ q = p) :
    (∀ u ∈ (rotatePassword w caller body t).2.users.rows, u.id = caller.userId →
        ∀ stored, u.passwordHash = some stored →
          w.verifyPassword body.currentPassword stored = false) ↔
      body.currentPassword ≠ body.newPassword := by
  obtain ⟨newHash, hhash, ⟨u, hu, hid⟩, htables⟩ := rotatePassword_success h
  have husers : (rotatePassword w caller body t).2.users =
      (t.setPassword caller.userId newHash).users := by
    rw [htables]
    cases w.pruned <;> rfl
  have hmem : ∀ v, v ∈ (t.setPassword caller.userId newHash).users.rows → v.id = caller.userId →
      v.passwordHash = some newHash := by
    intro v hv hvid
    obtain ⟨r, hr, rfl⟩ := List.mem_map.mp hv
    by_cases hrid : r.id = caller.userId
    · rw [if_pos hrid]
    · rw [if_neg hrid] at hvid
      exact absurd hvid hrid
  rw [husers, ne_eq, ← hargon _ _ hhash, Bool.not_eq_true]
  constructor
  · intro hall
    refine hall { u with passwordHash := some newHash } ?_ hid newHash rfl
    exact List.mem_map.mpr ⟨u, hu, if_pos hid⟩
  · intro hold v hv hvid stored hstored
    cases (hmem v hv hvid).symm.trans hstored
    exact hold

/-- A rotation through a session does not keep that session: its row goes with those of the other
sessions, and where it stays it is not accepted. -/
theorem rotatePassword_drops_caller (h : (rotatePassword w caller body t).1.IsSuccess)
    (hthrough : Through w caller t s token) :
    ¬ KeepsCaller w caller body t s token (rotatePassword w caller body t).2 ∧
      (s ∈ (rotatePassword w caller body t).2.sessions.rows ↔ w.pruned.isOk = false) := by
  constructor
  · intro hkeeps
    obtain ⟨found, hfound⟩ := hkeeps.stays
    exact Tables.getSession_ne_some _ _ _ _ _ hfound
  · rw [mem_rotatePassword_sessions h, and_iff_right hthrough.mem]
    simp only [hthrough.owned, ne_eq, not_true_eq_false, imp_false, Bool.not_eq_true]

section Samples

def sampleWorld : RotationWorld where
  store := Tables.sampleStoreTools
  now := Tables.sampleNow
  verifyPassword p hash := hash = "argon2:" ++ p
  hash p := .ok ("argon2:" ++ p)
  queried := .ok ()
  updated := .ok ()
  pruned := .ok ()

/-- A user who has logged in with a password. -/
def sampleTables : Tables := Tables.run Tables.sampleStoreTools
  [.createUser Tables.sampleNow "u1" "ada@example.com" "Ada" (.ok (some "argon2:first")) .user,
    .createSession Tables.sampleNow "s1" Tables.sampleToken "u1" none none 720]

def sampleSession : SessionRow where
  id := "s1"
  userId := "u1"
  sessionHash := "3138bb9bc78df27c473ecfd1410f7bd45ebac1f59cf3ff9cfe4db77aab7aedd3"
  userAgent := none
  ip := none
  createdAt := Calendar.sqlTimestamp Tables.sampleNow
  expiresAt := Calendar.rfc3339 Tables.sampleExpires
  lastSeenAt := Calendar.sqlTimestamp Tables.sampleNow

def sampleCaller : UserContext where
  userId := "u1"
  email := "ada@example.com"
  name := "Ada"
  role := .user
  via := "session"
  sessionId := some "s1"

theorem rotate_sample :
    (rotatePassword sampleWorld sampleCaller ⟨"first", "second"⟩ sampleTables).1.IsSuccess := by
  change (rotatePassword sampleWorld sampleCaller ⟨"first", "second"⟩ sampleTables).1.status < 300
  decide +kernel

theorem through_sample : Through sampleWorld sampleCaller sampleTables sampleSession
    Tables.sampleToken := by
  refine ⟨?_, rfl, rfl, ?_⟩ <;> decide +kernel

theorem rotatePassword_drops_sample :
    ¬ KeepsCaller sampleWorld sampleCaller ⟨"first", "second"⟩ sampleTables sampleSession
        Tables.sampleToken
        (rotatePassword sampleWorld sampleCaller ⟨"first", "second"⟩ sampleTables).2 ∧
      (sampleSession ∈
          (rotatePassword sampleWorld sampleCaller ⟨"first", "second"⟩
            sampleTables).2.sessions.rows ↔ sampleWorld.pruned.isOk = false) :=
  rotatePassword_drops_caller rotate_sample through_sample

/-- The caller of a rotation that succeeds is logged out. -/
theorem rotation_logs_out :
    ¬ ∀ (w : RotationWorld) (caller : UserContext) (body : RotatePasswordReq) (t : Tables)
      (s : SessionRow) (token : String), Through w caller t s token →
      (rotatePassword w caller body t).1.IsSuccess →
        KeepsCaller w caller body t s token (rotatePassword w caller body t).2 := by
  intro hall
  obtain ⟨found, hfound⟩ := (hall sampleWorld sampleCaller ⟨"first", "second"⟩ sampleTables
    sampleSession Tables.sampleToken through_sample rotate_sample).stays
  exact Tables.getSession_ne_some _ _ _ _ _ hfound

end Samples

end Admin

end TokenDealer
