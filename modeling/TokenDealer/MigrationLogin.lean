import Mathlib.Logic.Equiv.Basic
import Mathlib.Tactic.Tauto
import TokenDealer.ConfigToml
import TokenDealer.Migration

set_option autoImplicit true

namespace TokenDealer

open ConfigService AuthMiddleware

/-- A request to a protected path with nothing but a bearer token. -/
def bearer (t : String) : AuthRequest where
  authorization := some ("Bearer " ++ t)
  method := "POST"
  path := "/v1/chat/completions"

/-- The middleware passes a request on for its bearer token. -/
def Accepts (env : String → Option String) (store : UserStore) (auth : AuthConfig) (t : String) :
    Prop :=
  ∃ context, middleware env store auth (bearer t) = .next context

/-- A token is accepted against the configuration that a file loads as. -/
def LoginAt (toml : Toml.Text) (env : String → Option String) (store : UserStore)
    (file : ConfigFile) (t : String) : Prop :=
  ∃ auth, loadAuth toml file = .ok auth ∧ Accepts env store auth t

/-- The plaintext keys that count: an empty one never does. -/
def plaintextKeys (keys : List AuthKey) : List String :=
  (keys.map AuthKey.key).filter fun key => !isEncrypted key && key ≠ ""

/-- The ways to be accepted that do not depend on the list of keys. -/
def Elsewhere (env : String → Option String) (store : UserStore) (auth : AuthConfig)
    (presented : String) : Prop :=
  (apiKeyContext store presented).isSome = true ∨ auth.adminKey = some presented ∨
    env "ROUTER_MASTER_KEY" = some presented ∨ env "TOKEN_DEALER_ADMIN_PASSWORD" = some presented

/-- The ways to be accepted that do not depend on a plaintext key. -/
def KnownOtherwise (env : String → Option String) (store : UserStore) (auth : AuthConfig)
    (presented : String) : Prop :=
  Elsewhere env store auth presented ∨
    (presented ∈ auth.keys.map AuthKey.key ∧ isEncrypted presented = true)

section Accept

variable {env : String → Option String} {store : UserStore} {auth : AuthConfig}

theorem isSome_tokenContext (henabled : auth.enabled = true) :
    (tokenContext env store auth t).isSome = true ↔
      t ≠ "" ∧ (Elsewhere env store auth t ∨ t ∈ auth.keys.map AuthKey.key) := by
  rw [tokenContext]
  by_cases ht : t = ""
  · rw [if_pos ht]
    exact iff_of_false Bool.false_ne_true fun h => h.1 ht
  · rw [if_neg ht, Option.isSome_or, Option.isSome_or, Bool.or_eq_true, Bool.or_eq_true,
      isSome_legacyKeyContext henabled, isSome_envPasswordContext ht, mem_keysFromConfig, Elsewhere]
    tauto

theorem extractToken_bearer (t : String) : extractToken (bearer t) = Str.trim t := by
  simp only [extractToken, bearer, Str.stripPrefix_append]

theorem accepts_iff (henabled : auth.enabled = true) :
    Accepts env store auth t ↔ Str.trim t ≠ "" ∧
      (Elsewhere env store auth (Str.trim t) ∨ Str.trim t ∈ auth.keys.map AuthKey.key) := by
  rw [← isSome_tokenContext henabled, Accepts, middleware, extractToken_bearer]
  cases tokenContext env store auth (Str.trim t) with
  | some context => exact iff_of_true ⟨context, rfl⟩ rfl
  | none =>
    refine iff_of_false ?_ Bool.false_ne_true
    rintro ⟨context, h⟩
    have hrefused : anonymous auth (bearer t) = .unauthorized "invalid or missing API key" := by
      have hpublic : isPublicPath (bearer t).path = false := by
        show isPublicPath "/v1/chat/completions" = false
        decide
      have hv1 :
          (Str.startsWith (bearer t).path "/v1/" && (bearer t).method ≠ "OPTIONS") = true := by
        show (Str.startsWith "/v1/chat/completions" "/v1/" && "POST" ≠ "OPTIONS") = true
        decide
      rw [anonymous, henabled, hpublic, if_neg (by decide), if_neg (by decide), if_pos hv1]
    rw [show (none : Option UserContext).or (sessionContext store (bearer t)) = none from rfl] at h
    dsimp only at h
    rw [hrefused] at h
    cases h

end Accept

section Keys

variable {crypto : Crypto} {master : MasterKey} {nonces : Nat → List UInt8}

theorem isEncrypted_of_mem_ciphertexts (h : t ∈ ciphertexts crypto master nonces i keys) :
    isEncrypted t = true := by
  induction keys generalizing i with
  | nil => exact absurd h List.not_mem_nil
  | cons k keys ih =>
    rw [ciphertexts] at h
    split at h
    · exact ih h
    · rcases List.mem_cons.mp h with rfl | h
      · exact isEncrypted_encrypt crypto master _ _ _
      · exact ih h

theorem mem_plaintextKeys : t ∈ plaintextKeys keys ↔
    t ∈ keys.map AuthKey.key ∧ isEncrypted t = false ∧ t ≠ "" := by
  rw [plaintextKeys, List.mem_filter, Bool.and_eq_true, Bool.not_eq_true', decide_eq_true_eq]

/-- The keys after a migration: the encrypted ones from before, and the new ciphertexts. -/
theorem mem_migratedKeys : t ∈ (migratedKeys crypto master nonces i keys).map AuthKey.key ↔
    (t ∈ keys.map AuthKey.key ∧ isEncrypted t = true) ∨
      t ∈ ciphertexts crypto master nonces i keys := by
  induction keys generalizing i with
  | nil => simp [migratedKeys, ciphertexts]
  | cons k keys ih =>
    have hcons : migratedKeys crypto master nonces i (k :: keys) =
        { k with key := encryptKey crypto master nonces i k.key } ::
          migratedKeys crypto master nonces (i + 1) keys := by
      rw [migratedKeys, List.zipIdx_cons, List.map_cons, migratedKeys]
    rw [hcons, List.map_cons, List.mem_cons, ih, List.map_cons, List.mem_cons, ciphertexts]
    cases he : isEncrypted k.key with
    | true =>
      rw [encryptKey_of_encrypted crypto master nonces he, if_pos rfl]
      constructor
      · rintro (rfl | ⟨hm, hk⟩ | h)
        · exact .inl ⟨.inl rfl, he⟩
        · exact .inl ⟨.inr hm, hk⟩
        · exact .inr h
      · rintro (⟨rfl | hm, hk⟩ | h)
        · exact .inl rfl
        · exact .inr (.inl ⟨hm, hk⟩)
        · exact .inr (.inr h)
    | false =>
      rw [encryptKey_of_plaintext crypto master nonces he, if_neg Bool.false_ne_true, List.mem_cons]
      constructor
      · rintro (h | ⟨hm, hk⟩ | h)
        · exact .inr (.inl h)
        · exact .inl ⟨.inr hm, hk⟩
        · exact .inr (.inr h)
      · rintro (⟨rfl | hm, hk⟩ | h | h)
        · rw [he] at hk
          cases hk
        · exact .inr (.inl ⟨hm, hk⟩)
        · exact .inl h
        · exact .inr (.inr h)

/-- Encrypting the keys in place changes nothing for a token that is known otherwise, or is
neither a plaintext key nor one of the new ciphertexts; for every other token it does. -/
theorem accepts_migrated_iff {auth : AuthConfig} (henabled : auth.enabled = true) :
    (Accepts env store { auth with keys := migratedKeys crypto master nonces 0 auth.keys } t ↔
        Accepts env store auth t) ↔
      KnownOtherwise env store auth (Str.trim t) ∨
        (Str.trim t ∉ plaintextKeys auth.keys ∧
          Str.trim t ∉ ciphertexts crypto master nonces 0 auth.keys) := by
  have hafter :
      Accepts env store { auth with keys := migratedKeys crypto master nonces 0 auth.keys } t ↔
        Str.trim t ≠ "" ∧ (Elsewhere env store auth (Str.trim t) ∨
          Str.trim t ∈ (migratedKeys crypto master nonces 0 auth.keys).map AuthKey.key) :=
    accepts_iff henabled
  rw [hafter, accepts_iff henabled, mem_migratedKeys, KnownOtherwise, mem_plaintextKeys]
  have hexcl : Str.trim t ∈ ciphertexts crypto master nonces 0 auth.keys →
      isEncrypted (Str.trim t) = true := isEncrypted_of_mem_ciphertexts
  have hempty : isEncrypted (Str.trim t) = true → Str.trim t ≠ "" := by
    intro he h
    rw [h] at he
    cases he
  generalize Elsewhere env store auth (Str.trim t) = elsewhere
  generalize (Str.trim t ∈ auth.keys.map AuthKey.key) = key
  generalize (Str.trim t ∈ ciphertexts crypto master nonces 0 auth.keys) = new at hexcl ⊢
  generalize Str.trim t = presented at hexcl hempty ⊢
  clear hafter henabled
  cases he : isEncrypted presented with
  | true =>
    -- an encrypted token can only be lost or won as one of the new ciphertexts
    have hne := hempty he
    simp only [hne, ne_eq, not_false_eq_true, true_and, and_true, reduceCtorEq, and_false]
    tauto
  | false =>
    have hno : ¬ new := fun h => Bool.false_ne_true (he.symm.trans (hexcl h))
    simp only [hno, Bool.false_eq_true, and_false, or_false, not_false_eq_true, and_true,
      true_and]
    tauto

end Keys

/-- Once a master key is there, the file a migration leaves loads as the migrated configuration,
whether or not it had to be rewritten. -/
theorem loadAuth_migrated {toml : Toml.Text} {crypto : Crypto} {env : String → Option String}
    {master : MasterKey} {nonces : Nat → List UInt8} {file file' : ConfigFile}
    {doc : Toml.Document} (hparse : toml.parse file.text = .ok doc)
    (hload : authFromDocument doc = .ok auth)
    (hmaster : MasterKey.fromEnvStrict env readFile = .ok master)
    (hprint : toml.RoundTrips (rewrite crypto (some master) nonces doc))
    (hmigrate : migrateV01IfNeeded toml crypto env readFile nonces file = .ok file') :
    loadAuth toml file' =
      .ok { auth with keys := migratedKeys crypto master nonces 0 auth.keys } := by
  rw [migrateV01IfNeeded, hparse] at hmigrate
  dsimp only at hmigrate
  cases hneeded : hasRatelimit doc && !hasPlaintextKey doc with
  | true =>
    rw [if_pos hneeded] at hmigrate
    cases hmigrate
    have hplain : hasPlaintextKey doc = false := by
      rw [Bool.and_eq_true, Bool.not_eq_true'] at hneeded
      exact hneeded.2
    rw [migratedKeys_of_encrypted crypto master nonces (encrypted_of_hasPlaintextKey hload hplain),
      loadAuth, hparse]
    exact hload
  | false =>
    have hsome : (MasterKey.fromEnvStrict env readFile).toOption = some master := by
      rw [hmaster]
      rfl
    rw [if_neg (by rw [hneeded]; exact Bool.false_ne_true), hsome] at hmigrate
    cases hmigrate
    have hread : toml.parse (toml.print (rewrite crypto (some master) nonces doc)) =
        .ok (rewrite crypto (some master) nonces doc).sorted := hprint
    rw [loadAuth, hread]
    exact (authFromDocument_sorted _).trans (authFromDocument_rewrite hload crypto master nonces)

theorem loginAt_iff {toml : Toml.Text} {env : String → Option String} {store : UserStore}
    (h : loadAuth toml file = .ok auth) : LoginAt toml env store file t ↔
      Accepts env store auth t := by
  rw [LoginAt, h]
  constructor
  · intro hloaded
    obtain ⟨loaded, heq, haccepts⟩ := hloaded
    rw [Except.ok.inj heq]
    exact haccepts
  · exact fun haccepts => ⟨auth, rfl, haccepts⟩

/-- The migration keeps a bearer token's access exactly when the token is known otherwise than as
a plaintext key, or is neither one of these keys nor one of the ciphertexts that replace them. -/
theorem migration_login_iff {toml : Toml.Text} {crypto : Crypto} {env : String → Option String}
    {readFile : String → Option (List UInt8)} {nonces : Nat → List UInt8} {store : UserStore}
    {file file' : ConfigFile} {doc : Toml.Document} {auth : AuthConfig} {master : MasterKey}
    (hparse : toml.parse file.text = .ok doc) (hload : authFromDocument doc = .ok auth)
    (henabled : auth.enabled = true)
    (hmaster : MasterKey.fromEnvStrict env readFile = .ok master)
    (hprint : toml.RoundTrips (rewrite crypto (some master) nonces doc))
    (hmigrate : migrateV01IfNeeded toml crypto env readFile nonces file = .ok file') (t : String) :
    (LoginAt toml env store file' t ↔ LoginAt toml env store file t) ↔
      KnownOtherwise env store auth (Str.trim t) ∨
        (Str.trim t ∉ plaintextKeys auth.keys ∧
          Str.trim t ∉ ciphertexts crypto master nonces 0 auth.keys) := by
  have hbefore : loadAuth toml file = .ok auth := by
    rw [loadAuth, hparse]
    exact hload
  rw [loginAt_iff (loadAuth_migrated hparse hload hmaster hprint hmigrate), loginAt_iff hbefore]
  exact accepts_migrated_iff henabled

/-- The configuration of an old router with one client, which presents `sk-alpha`. -/
def sampleOldText : String :=
  "[auth]\nenabled = true\n\n[[auth.keys]]\nkey = \"sk-alpha\"\nname = \"alpha\"\n"

def sampleOldDocument : Toml.Document :=
  [("auth", .table
    [("enabled", .boolean true),
      ("keys", .array [.table [("key", .string "sk-alpha"), ("name", .string "alpha")]])])]

/-- The ciphertext of `sk-alpha` under the master key of bytes 0 to 31 and the nonce of bytes 0
to 11. -/
def sampleCiphertext : String := "enc:AAECAwQFBgcICQoLKOaXqa9m/B/feMt0+2y//JGtoo9SMzNW"

def sampleNewText : String :=
  "[auth]\nenabled = true\n\n[[auth.keys]]\nkey = \"" ++ sampleCiphertext ++
    "\"\nname = \"alpha\"\n\n[ratelimit]\nenabled = true\n\n[ratelimit.global]\nburst = 1200\n" ++
    "refill_per_minute = 600\n\n[ratelimit.per_key]\nburst = 120\nrefill_per_minute = 60\n"

def sampleNewDocument : Toml.Document :=
  [("auth", .table
    [("enabled", .boolean true),
      ("keys", .array [.table [("key", .string sampleCiphertext), ("name", .string "alpha")]])]),
    ("ratelimit", defaultRatelimit)]

/-- The TOML library on the old text, and on the text that it is rewritten to. It hands the members
of a table over in order. -/
def sampleToml : Toml.Text where
  print _ := sampleNewText
  parse s :=
    if s = sampleOldText then .ok sampleOldDocument
    else if s = sampleNewText then .ok sampleNewDocument.sorted
    else .error (.unknownSyntax "sample")

/-- The bytes of `sk-alpha` and what the cipher makes of them, with its tag. -/
def samplePlainBytes : List UInt8 := Utf8.encode "sk-alpha".toList

def sampleCipherBytes : List UInt8 :=
  [40, 230, 151, 169, 175, 102, 252, 31, 223, 120, 203, 116, 251, 108, 191, 252, 145, 173, 162,
    143, 82, 51, 51, 86]

/-- A cipher that agrees with the real one on `sk-alpha`. -/
def sampleCrypto : Crypto where
  aeadEncrypt _ _ plaintext := Equiv.swap samplePlainBytes sampleCipherBytes plaintext
  aeadDecrypt _ _ ct := some (Equiv.swap samplePlainBytes sampleCipherBytes ct)
  expand _ _ :=
    [113, 255, 173, 150, 113, 239, 172, 186, 212, 58, 229, 106, 139, 104, 15, 240, 41, 192, 77,
      213, 160, 146, 163, 29, 156, 85, 139, 111, 159, 200, 163, 95]

theorem sampleCrypto_decrypt_encrypt (key nonce plaintext : List UInt8) :
    sampleCrypto.aeadDecrypt key nonce (sampleCrypto.aeadEncrypt key nonce plaintext) =
      some plaintext := by
  exact congrArg some (Equiv.swap_apply_self _ _ plaintext)

def sampleEnv (name : String) : Option String :=
  if name = "ROUTER_MASTER_KEY" then
    some "000102030405060708090a0b0c0d0e0f101112131415161718191a1b1c1d1e1f"
  else none

def sampleMaster : MasterKey := ⟨(List.range 32).map UInt8.ofNat, by decide⟩

def sampleNonces (_ : Nat) : List UInt8 := (List.range 12).map UInt8.ofNat

def sampleUsers : UserStore := ⟨fun _ => none, fun _ => none⟩

theorem fromEnvStrict_sample :
    MasterKey.fromEnvStrict sampleEnv (fun _ => none) = .ok sampleMaster := by
  rfl

theorem rewrite_sample :
    rewrite sampleCrypto (some sampleMaster) sampleNonces sampleOldDocument =
      sampleNewDocument := by
  rfl

theorem parse_sampleToml (s : String) : sampleToml.parse s =
    if s = sampleOldText then .ok sampleOldDocument
    else if s = sampleNewText then .ok sampleNewDocument.sorted
    else .error (.unknownSyntax "sample") := rfl

theorem parse_sampleOldText : sampleToml.parse sampleOldText = .ok sampleOldDocument := by
  rw [parse_sampleToml, if_pos rfl]

theorem sampleNewText_ne : sampleNewText ≠ sampleOldText := by decide +kernel

theorem parse_sampleNewText : sampleToml.parse sampleNewText = .ok sampleNewDocument.sorted := by
  rw [parse_sampleToml, if_neg sampleNewText_ne, if_pos rfl]

theorem migrate_sample :
    migrateV01IfNeeded sampleToml sampleCrypto sampleEnv (fun _ => none) sampleNonces
        { text := sampleOldText } =
      .ok { text := sampleNewText, backup := some sampleOldText } := by
  rw [migrateV01IfNeeded, parse_sampleOldText]
  rfl

def sampleAuth (key : String) : AuthConfig := { enabled := true, keys := [⟨key, "alpha"⟩] }

theorem migration_login_other :
    LoginAt sampleToml sampleEnv sampleUsers
        { text := sampleNewText, backup := some sampleOldText } "sk-beta" ↔
      LoginAt sampleToml sampleEnv sampleUsers { text := sampleOldText } "sk-beta" := by
  have hprint : sampleToml.RoundTrips
      (rewrite sampleCrypto (some sampleMaster) sampleNonces sampleOldDocument) := by
    rw [rewrite_sample]
    exact parse_sampleNewText
  have hload : authFromDocument sampleOldDocument = .ok (sampleAuth "sk-alpha") := rfl
  refine (migration_login_iff parse_sampleOldText hload rfl fromEnvStrict_sample hprint
    migrate_sample "sk-beta").mpr (.inr ⟨?_, ?_⟩)
  · decide
  · decide

/-- The client of the old router is turned away by the new one, although what was encrypted can
be decrypted. -/
theorem migration_locks_out :
    (∀ key nonce plaintext, sampleCrypto.aeadDecrypt key nonce
      (sampleCrypto.aeadEncrypt key nonce plaintext) = some plaintext) ∧
    MasterKey.fromEnvStrict sampleEnv (fun _ => none) = .ok sampleMaster ∧
    migrateV01IfNeeded sampleToml sampleCrypto sampleEnv (fun _ => none) sampleNonces
        { text := sampleOldText } =
      .ok { text := sampleNewText, backup := some sampleOldText } ∧
    LoginAt sampleToml sampleEnv sampleUsers { text := sampleOldText } "sk-alpha" ∧
    ¬ LoginAt sampleToml sampleEnv sampleUsers
        { text := sampleNewText, backup := some sampleOldText } "sk-alpha" := by
  have hbefore : loadAuth sampleToml { text := sampleOldText } = .ok (sampleAuth "sk-alpha") := by
    rw [loadAuth, parse_sampleOldText]
    rfl
  have hafter : loadAuth sampleToml { text := sampleNewText, backup := some sampleOldText } =
      .ok (sampleAuth sampleCiphertext) := by
    rw [loadAuth, parse_sampleNewText]
    rfl
  rw [loginAt_iff hbefore, loginAt_iff hafter, accepts_iff rfl, accepts_iff rfl]
  refine ⟨sampleCrypto_decrypt_encrypt, fromEnvStrict_sample, migrate_sample,
    ⟨by decide, .inr (by decide)⟩, ?_⟩
  rintro ⟨-, (h | h | h | h) | h⟩
  · cases h
  · cases h
  · revert h
    decide
  · revert h
    decide
  · revert h
    decide

end TokenDealer
