import Mathlib.Logic.Equiv.Basic
import TokenDealer.CredentialHistory

set_option autoImplicit true

namespace TokenDealer

namespace Tables

section Definitions

variable (tools : StoreTools)

/-- The user has been created and not deleted since. -/
def UserExists (ops : List StoreOp) (u : User) : Prop :=
  History.Since (fun front op => Creates tools (run tools front) op u)
    (fun op => op = .deleteUser u.id) ops

/-- The key has been issued to the user and neither revoked nor deleted since. -/
def KeyIssued (ops : List StoreOp) (keyId plaintext userId : String) : Prop :=
  History.Since (fun front op => Issues tools (run tools front) op keyId plaintext userId)
    (fun op => op = .revokeApiKey keyId ∨ op = .deleteApiKey keyId) ops

/-- The session has been opened for the user and not deleted since, neither alone nor with the
others of the user. -/
def SessionOpen (ops : List StoreOp) (id token userId : String) (expires : Utc) : Prop :=
  History.Since (fun front op => Opens tools (run tools front) op id token userId expires)
    (fun op => op = .deleteSession id ∨ op = .deleteUserSessions userId) ops

def KeyLive (ops : List StoreOp) (plaintext : String) (u : User) : Prop :=
  (∃ keyId, KeyIssued tools ops keyId plaintext u.id) ∧ UserExists tools ops u

def SessionLive (ops : List StoreOp) (token : String) (u : User) (now : Utc) : Prop :=
  (∃ id expires, SessionOpen tools ops id token u.id expires ∧ now < expires) ∧
    UserExists tools ops u

def AcceptsKey (t : Tables) (now : Utc) (plaintext : String) (u : User) : Prop :=
  ∃ user key, (t.getUserByApiKey tools now plaintext).1 = .ok (some (user, key)) ∧
    user.toUser = u

def AcceptsSession (t : Tables) (now : Utc) (token : String) (u : User) : Prop :=
  ∃ session user, (t.getSession tools now token).1 = .ok (some (session, user)) ∧
    user.toUser = u

end Definitions

/-- The ids drawn for users. -/
def createdIds (ops : List StoreOp) : List String :=
  ops.filterMap fun
    | .createUser _ id _ _ _ _ => some id
    | _ => none

section

variable {tools : StoreTools} {ops : List StoreOp} {u : User}

theorem hasUser_run : HasUser (run tools ops) u ↔ UserExists tools ops u := by
  refine History.holds_iff_since (fun t => HasUser t u) ?_ ?_ ops
  · intro h
    obtain ⟨r, hr, -⟩ := h
    exact absurd hr List.not_mem_nil
  · intro front op
    rw [run_concat]
    exact hasUser_step

theorem hasApiKey_run (hsha : Function.Injective tools.sha256Hex) :
    HasApiKey tools (run tools ops) keyId plaintext userId ↔
      History.Since (fun front op => Issues tools (run tools front) op keyId plaintext userId)
        (fun op => op.Revokes keyId userId) ops := by
  refine History.holds_iff_since (fun t => HasApiKey tools t keyId plaintext userId)
    ?_ ?_ ops
  · intro h
    obtain ⟨k, hk, -⟩ := h
    exact absurd hk List.not_mem_nil
  · intro front op
    rw [run_concat]
    exact hasApiKey_step hsha

theorem mem_createdIds_of_creates (h : Creates tools t op u) (rest : List StoreOp) :
    u.id ∈ createdIds (op :: rest) := by
  obtain ⟨now, id, email, name, hashed, role, user, t', rfl, hok, rfl⟩ := h
  obtain ⟨-, -, -, hid, -⟩ := createUser_eq_ok hok
  exact List.mem_cons.mpr (.inl hid)

theorem createdIds_append (a b : List StoreOp) :
    createdIds (a ++ b) = createdIds a ++ createdIds b := List.filterMap_append

theorem mem_createdIds_of_exists (h : UserExists tools ops u) : u.id ∈ createdIds ops := by
  obtain ⟨front, op, back, rfl, hcreates, -⟩ := h
  rw [createdIds_append]
  exact List.mem_append_right _ (mem_createdIds_of_creates hcreates back)

theorem mem_createdIds_of_owner (h : ∃ r ∈ (run tools ops).users.rows, r.id = userId) :
    userId ∈ createdIds ops := by
  obtain ⟨r, hr, rfl⟩ := h
  exact mem_createdIds_of_exists (hasUser_run.mp ⟨r, hr, rfl⟩)

/-- With ids that are not drawn twice, a user who exists has not been deleted since anything was
made for them. -/
theorem not_deleted_since (hids : (createdIds ops).Nodup) (hexists : UserExists tools ops u)
    (hops : ops = front ++ op :: back)
    (howner : ∃ r ∈ (run tools front).users.rows, r.id = u.id) :
    StoreOp.deleteUser u.id ∉ back := by
  intro hmem
  obtain ⟨a, b, rfl⟩ := List.append_of_mem hmem
  have hsplit : ops = (front ++ op :: a) ++ .deleteUser u.id :: b := by
    rw [hops, List.append_assoc, List.cons_append]
  rw [UserExists, hsplit] at hexists
  obtain ⟨c, e, d, rfl, hcreates⟩ := hexists.started_after rfl (by
    rintro f ⟨_, _, _, _, _, _, _, _, heq, -⟩
    cases heq)
  have hfirst : u.id ∈ createdIds (front ++ op :: a) := by
    rw [createdIds_append]
    exact List.mem_append_left _ (mem_createdIds_of_owner howner)
  have hagain : u.id ∈ createdIds (.deleteUser u.id :: (c ++ e :: d)) := by
    rw [← List.cons_append, createdIds_append]
    exact List.mem_append_right _ (mem_createdIds_of_creates hcreates d)
  rw [hsplit, createdIds_append] at hids
  exact (List.nodup_append.mp hids).2.2 _ hfirst _ hagain rfl

/-- So the rows that go with a user need not be looked for among the deleted. -/
theorem keyIssued_iff (hids : (createdIds ops).Nodup) (hexists : UserExists tools ops u) :
    KeyIssued tools ops keyId plaintext u.id ↔
      History.Since (fun front op => Issues tools (run tools front) op keyId plaintext u.id)
        (fun op => op.Revokes keyId u.id) ops := by
  constructor
  · intro h
    obtain ⟨front, op, back, hops, hissues, hback⟩ := h
    refine ⟨front, op, back, hops, hissues, ?_⟩
    rintro later hlater (hrevoke | hdelete | rfl)
    · exact hback later hlater (.inl hrevoke)
    · exact hback later hlater (.inr hdelete)
    · obtain ⟨now, name, key, t', -, hok⟩ := hissues
      obtain ⟨-, -, -, -, -, -, -, -, -, howner⟩ := createApiKey_eq_ok hok
      exact not_deleted_since hids hexists hops howner hlater
  · exact fun h => h.imp_stop fun op hop => hop.imp_right .inl

theorem acceptsKey_iff : AcceptsKey tools t now plaintext u ↔
    (∃ keyId, HasApiKey tools t keyId plaintext u.id) ∧ HasUser t u := by
  constructor
  · intro haccepts
    obtain ⟨user, key, h, huser⟩ := haccepts
    obtain ⟨k, r, hmem, -, rfl⟩ :=
      (getUserByApiKey_eq_some tools t now plaintext u key.keyPrefix).mp
      ⟨user, key, h, huser, rfl⟩
    obtain ⟨⟨hk, hhash, hlive⟩, hr, hid⟩ := mem_selectApiKey.mp hmem
    exact ⟨⟨k.id, k, hk, rfl, hhash, hid.symm, hlive⟩, r, hr, rfl⟩
  · intro h
    obtain ⟨⟨keyId, k, hk, -, hhash, howner, hlive⟩, r, hr, rfl⟩ := h
    obtain ⟨user, key, h, huser, -⟩ :=
      (getUserByApiKey_eq_some tools t now plaintext r.user k.keyPrefix).mpr
        ⟨k, r, mem_selectApiKey.mpr ⟨⟨hk, hhash, hlive⟩, hr, howner.symm⟩, rfl, rfl⟩
    exact ⟨user, key, h, huser⟩

theorem acceptsKey_run (hsha : Function.Injective tools.sha256Hex)
    (hids : (createdIds ops).Nodup) :
    AcceptsKey tools (run tools ops) now plaintext u ↔ KeyLive tools ops plaintext u := by
  rw [acceptsKey_iff, hasUser_run, KeyLive]
  refine and_congr_left fun hexists => exists_congr fun keyId => ?_
  rw [hasApiKey_run hsha, keyIssued_iff hids hexists]

theorem not_acceptsSession : ¬ AcceptsSession tools t now token u := by
  intro haccepts
  obtain ⟨session, user, h, -⟩ := haccepts
  exact getSession_ne_some tools t now token (session, user) h

/-- A key is accepted for a user exactly when it has been issued to the user, neither revoked nor
deleted since, and the user exists. Of the tokens of sessions this is true exactly while they are
of no live session: a session that is found cannot be read. -/
theorem credentials_sound_iff (hsha : Function.Injective tools.sha256Hex)
    (hids : (createdIds ops).Nodup) (now : Utc) :
    (∀ plaintext u, AcceptsKey tools (run tools ops) now plaintext u ↔
      KeyLive tools ops plaintext u) ∧
    ∀ token, (∀ u, AcceptsSession tools (run tools ops) now token u ↔
        SessionLive tools ops token u now) ↔
      ∀ u, ¬ SessionLive tools ops token u now := by
  refine ⟨fun plaintext u => acceptsKey_run hsha hids, fun token => forall_congr' fun u => ?_⟩
  rw [iff_false_left not_acceptsSession]

theorem hasSession_run (hsha : Function.Injective tools.sha256Hex) :
    HasSession tools (run tools ops) sessionId token userId expires ↔
      History.Since (fun front op => ∃ last, Calendar.rfc3339 last = expires ∧
          Opens tools (run tools front) op sessionId token userId last)
        (fun op => op.Ends sessionId userId) ops := by
  refine History.holds_iff_since
    (fun t => HasSession tools t sessionId token userId expires) ?_ ?_ ops
  · intro h
    obtain ⟨s, hs, -⟩ := h
    exact absurd hs List.not_mem_nil
  · intro front op
    rw [run_concat]
    exact hasSession_step hsha

end

section Samples

def sampleKey : String :=
  "tk-0000000000000000000000000000000000000000000000000000000000000000"

def sampleToken : String := "1111111111111111111111111111111111111111111111111111111111111111"

/-- The hashes of the two sample credentials, exchanged with them. -/
def sampleSha256 (s : String) : String :=
  Equiv.swap sampleKey "05f4067cefac9ccce8491f5e34d0fc6f2305ce90d3380d21dc94309ab86083c4"
    (Equiv.swap sampleToken "3138bb9bc78df27c473ecfd1410f7bd45ebac1f59cf3ff9cfe4db77aab7aedd3" s)

theorem sampleSha256_injective : Function.Injective sampleSha256 :=
  (Equiv.injective _).comp (Equiv.injective _)

def sampleStoreTools : StoreTools where
  sha256Hex := sampleSha256
  lowercase := id
  parseRfc3339 _ := none

/-- The first of January 2026. -/
def sampleNow : Utc := 63934444800000000000

/-- Thirty days later. -/
def sampleExpires : Utc := 63937036800000000000

/-- A user with a key and a session. -/
def sampleOps : List StoreOp :=
  [.createUser sampleNow "u1" "ada@example.com" "Ada" (.ok none) .user,
    .createApiKey sampleNow "k1" sampleKey "u1" "default",
    .createSession sampleNow "s1" sampleToken "u1" none none 720]

def sampleUser : User := ⟨"u1", "ada@example.com", "Ada", .user⟩

theorem credentials_sound_sample :
    (∀ plaintext u,
      AcceptsKey sampleStoreTools (run sampleStoreTools sampleOps) sampleNow plaintext u ↔
        KeyLive sampleStoreTools sampleOps plaintext u) ∧
    ∀ token,
      (∀ u, AcceptsSession sampleStoreTools (run sampleStoreTools sampleOps) sampleNow token u ↔
        SessionLive sampleStoreTools sampleOps token u sampleNow) ↔
      ∀ u, ¬ SessionLive sampleStoreTools sampleOps token u sampleNow :=
  credentials_sound_iff sampleSha256_injective (by decide) sampleNow

theorem sampleUser_exists : UserExists sampleStoreTools sampleOps sampleUser := by
  refine ⟨[], _, _, rfl,
    ⟨sampleNow, "u1", "ada@example.com", "Ada", .ok none, .user, _, _, rfl, rfl, rfl⟩, ?_⟩
  rintro later hlater rfl
  simp only [List.mem_cons, reduceCtorEq, List.not_mem_nil, or_self] at hlater

/-- A session that has just been opened is not accepted. -/
theorem session_not_accepted :
    SessionLive sampleStoreTools sampleOps sampleToken sampleUser sampleNow ∧
    ¬ AcceptsSession sampleStoreTools (run sampleStoreTools sampleOps) sampleNow sampleToken
      sampleUser := by
  refine ⟨⟨⟨"s1", sampleExpires, ⟨[_, _], _, [], rfl, ?_, ?_⟩, by decide⟩, sampleUser_exists⟩,
    not_acceptsSession⟩
  · exact ⟨sampleNow, none, none, 720, _, _, rfl, rfl, rfl⟩
  · exact fun _ h => absurd h List.not_mem_nil

end Samples

end Tables

end TokenDealer
