import TokenDealer.AuthMiddleware
import TokenDealer.ConfigService
import Mathlib.Data.Option.Basic

set_option autoImplicit true

namespace TokenDealer

open ConfigService AuthMiddleware

section Keys

variable (crypto : Crypto) (master : MasterKey) (nonces : Nat → List UInt8)

/-- The keys of a migrated configuration: the plaintext ones encrypted in place. -/
def migratedKeys (i : Nat) (keys : List AuthKey) : List AuthKey :=
  (keys.zipIdx i).map fun (k, j) => { k with key := encryptKey crypto master nonces j k.key }

/-- What the migration writes in place of the plaintext keys. -/
def ciphertexts : Nat → List AuthKey → List String
  | _, [] => []
  | i, k :: rest =>
    if isEncrypted k.key then ciphertexts (i + 1) rest
    else master.encrypt crypto (nonces i) k.key Purpose.tomlAuthKey :: ciphertexts (i + 1) rest

theorem encryptKey_of_encrypted (h : isEncrypted key = true) :
    encryptKey crypto master nonces i key = key := by
  rw [encryptKey, if_pos h]

theorem encryptKey_of_plaintext (h : isEncrypted key = false) :
    encryptKey crypto master nonces i key =
      master.encrypt crypto (nonces i) key Purpose.tomlAuthKey := by
  rw [encryptKey, if_neg (by rw [h]; exact Bool.false_ne_true)]

theorem isEncrypted_encrypt (nonce : List UInt8) (plaintext purpose : String) :
    isEncrypted (master.encrypt crypto nonce plaintext purpose) = true :=
  Str.startsWith_append _ _

/-- An entry still decodes after its key is encrypted, to the same name under the new key. -/
theorem fromToml_encryptEntry (h : AuthKey.fromToml entry = .ok k) :
    AuthKey.fromToml (encryptEntry crypto master nonces i entry) =
      .ok { k with key := encryptKey crypto master nonces i k.key } := by
  cases entry with
  | table members =>
    simp only [AuthKey.fromToml, Toml.bind_eq_ok] at h
    obtain ⟨key, hkey, name, hname, hk⟩ := h
    cases hk
    obtain ⟨v, hv, hs⟩ := Toml.required_eq_ok.mp hkey
    have hfound : (Table.get "key" members).bind Toml.Value.asStr = some key := by
      rw [hv, Option.bind_some, hs]
    have hset : ∀ s, Toml.required (Table.set "key" (.string s) members) "key"
        Toml.Value.asStr = .ok s :=
      fun s => Toml.required_eq_ok.mpr ⟨.string s, Table.get_set_self _ _ _, rfl⟩
    have hother : ∀ s, Toml.required (Table.set "key" (.string s) members) "name"
        Toml.Value.asStr = .ok name := by
      intro s
      rw [Toml.required_congr (Table.get_set_of_ne (by decide) _ _), hname]
    simp only [encryptEntry, hfound, AuthKey.fromToml, hset, hother]
    rfl
  | _ => cases h

theorem mapM_encryptEntries (h : entries.mapM AuthKey.fromToml = .ok keys) (i : Nat) :
    (encryptEntries crypto master nonces i entries).mapM AuthKey.fromToml =
      .ok (migratedKeys crypto master nonces i keys) := by
  induction entries generalizing i keys with
  | nil =>
    cases h
    rfl
  | cons entry rest ih =>
    simp only [List.mapM_cons, Toml.bind_eq_ok] at h
    obtain ⟨k, hk, ks, hks, hkeys⟩ := h
    cases hkeys
    rw [encryptEntries, List.mapM_cons, fromToml_encryptEntry crypto master nonces hk,
      ih hks (i + 1)]
    rfl

theorem migratedKeys_of_encrypted (h : ∀ k ∈ keys, isEncrypted k.key = true) (i : Nat) :
    migratedKeys crypto master nonces i keys = keys := by
  induction keys generalizing i with
  | nil => rfl
  | cons k keys ih =>
    rw [List.forall_mem_cons] at h
    have hk := encryptKey_of_encrypted crypto master nonces (i := i) h.1
    have hrest := ih h.2 (i + 1)
    rw [migratedKeys] at hrest
    rw [migratedKeys, List.zipIdx_cons, List.map_cons, hrest]
    dsimp only
    rw [hk]

/-- The two tables on the way to the key entries are left alone, or are both there. -/
theorem encryptAuthKeys_cases (doc : Toml.Document) :
    (encryptAuthKeys crypto master nonces doc = doc ∧ authKeyEntries doc = none) ∨
    ∃ auth entries, Table.get "auth" doc = some (.table auth) ∧
      Table.get "keys" auth = some (.array entries) ∧ authKeyEntries doc = some entries ∧
      encryptAuthKeys crypto master nonces doc = Table.set "auth"
        (.table (Table.set "keys" (.array (encryptEntries crypto master nonces 0 entries)) auth))
        doc := by
  rw [encryptAuthKeys, authKeyEntries]
  cases hauth : Table.get "auth" doc with
  | none => exact .inl ⟨rfl, rfl⟩
  | some v =>
    cases v with
    | table auth =>
      dsimp only [Option.bind_some, Toml.Value.asTable, Toml.Value.get]
      cases hkeys : Table.get "keys" auth with
      | none => exact .inl ⟨rfl, rfl⟩
      | some w =>
        cases w with
        | array entries => exact .inr ⟨auth, entries, rfl, hkeys, rfl, rfl⟩
        | _ => exact .inl ⟨rfl, rfl⟩
    | _ => exact .inl ⟨rfl, rfl⟩

/-- The keys of the configuration are those of the key entries. -/
theorem mapM_authKeyEntries (h : authFromDocument doc = .ok auth) :
    ((authKeyEntries doc).getD []).mapM AuthKey.fromToml = .ok auth.keys := by
  rw [authFromDocument] at h
  rw [authKeyEntries]
  cases hauth : Table.get "auth" doc with
  | none =>
    rw [hauth] at h
    cases h
    rfl
  | some v =>
    rw [hauth] at h
    cases v with
    | table members =>
      obtain ⟨-, -, items, hitems, hkeys⟩ := AuthConfig.fromToml_table.mp h
      rw [Option.bind_some, Toml.Value.get, Toml.Value.asTable, Option.bind_some,
        Toml.bind_get_of_optional hitems]
      exact hkeys
    | _ => cases h

/-- The document that is written loads as the configuration with its plaintext keys encrypted. -/
theorem authFromDocument_encryptAuthKeys (h : authFromDocument doc = .ok auth) :
    authFromDocument (encryptAuthKeys crypto master nonces doc) =
      .ok { auth with keys := migratedKeys crypto master nonces 0 auth.keys } := by
  have hkeys := mapM_authKeyEntries h
  rcases encryptAuthKeys_cases crypto master nonces doc with ⟨hsame, hnone⟩ | hset
  · rw [hnone] at hkeys
    have hnil : [] = auth.keys := Except.ok.inj hkeys
    have hmigrated : migratedKeys crypto master nonces 0 auth.keys = auth.keys := by
      rw [← hnil]
      rfl
    rw [hsame, hmigrated]
    exact h
  · obtain ⟨members, entries, hauth, -, hentries, hset⟩ := hset
    rw [hentries] at hkeys
    rw [authFromDocument, hauth] at h
    obtain ⟨henabled, hadmin, -⟩ := AuthConfig.fromToml_table.mp h
    rw [hset, authFromDocument, Table.get_set_self]
    refine AuthConfig.fromToml_table.mpr ⟨?_, ?_, some
      (encryptEntries crypto master nonces 0 entries), ?_,
      mapM_encryptEntries crypto master nonces hkeys 0⟩
    · rw [Toml.required_congr (Table.get_set_of_ne (by decide) _ _)]
      exact henabled
    · rw [Toml.optional_congr (Table.get_set_of_ne (by decide) _ _)]
      exact hadmin
    · rw [Toml.optional, Table.get_set_self]
      rfl

end Keys

theorem isPlaintextEntry_of_ok (h : AuthKey.fromToml entry = .ok k) :
    isPlaintextEntry entry = !isEncrypted k.key := by
  cases entry with
  | table members =>
    simp only [AuthKey.fromToml, Toml.bind_eq_ok] at h
    obtain ⟨key, hkey, name, hname, hk⟩ := h
    cases hk
    obtain ⟨v, hv, hs⟩ := Toml.required_eq_ok.mp hkey
    simp only [isPlaintextEntry, Toml.Value.get, Toml.Value.asTable, Option.bind_some, hv, hs]
  | _ => cases h

theorem any_isPlaintextEntry {entries : List Toml.Value} {keys : List AuthKey}
    (h : entries.mapM AuthKey.fromToml = .ok keys)
    (hnone : entries.any isPlaintextEntry = false) : ∀ k ∈ keys, isEncrypted k.key = true := by
  induction entries generalizing keys with
  | nil =>
    cases h
    exact fun k h => absurd h List.not_mem_nil
  | cons entry rest ih =>
    simp only [List.mapM_cons, Toml.bind_eq_ok] at h
    obtain ⟨k, hk, ks, hks, hkeys⟩ := h
    cases hkeys
    rw [List.any_cons, Bool.or_eq_false_iff, isPlaintextEntry_of_ok hk, Bool.not_eq_false'] at hnone
    exact List.forall_mem_cons.mpr ⟨hnone.1, ih hks hnone.2⟩

/-- A document without plaintext keys has none in its configuration. -/
theorem encrypted_of_hasPlaintextKey (h : authFromDocument doc = .ok auth)
    (hnone : hasPlaintextKey doc = false) : ∀ k ∈ auth.keys, isEncrypted k.key = true := by
  have hkeys := mapM_authKeyEntries h
  rw [hasPlaintextKey] at hnone
  cases hentries : authKeyEntries doc with
  | none =>
    rw [hentries] at hkeys
    exact any_isPlaintextEntry hkeys rfl
  | some entries =>
    rw [hentries] at hkeys hnone
    exact any_isPlaintextEntry hkeys hnone

theorem authFromDocument_set_ratelimit (v : Toml.Value) (doc : Toml.Document) :
    authFromDocument (Table.set "ratelimit" v doc) = authFromDocument doc := by
  rw [authFromDocument, authFromDocument, Table.get_set_of_ne (by decide)]

theorem authFromDocument_rewrite (h : authFromDocument doc = .ok auth) (crypto : Crypto)
    (master : MasterKey) (nonces : Nat → List UInt8) :
    authFromDocument (rewrite crypto (some master) nonces doc) =
      .ok { auth with keys := migratedKeys crypto master nonces 0 auth.keys } := by
  have hlimited : ∀ limited, authFromDocument limited = .ok auth →
      authFromDocument (if hasPlaintextKey limited = true then
          encryptAuthKeys crypto master nonces limited else limited) =
        .ok { auth with keys := migratedKeys crypto master nonces 0 auth.keys } := by
    intro limited hload
    by_cases hplain : hasPlaintextKey limited = true
    · rw [if_pos hplain]
      exact authFromDocument_encryptAuthKeys crypto master nonces hload
    · rw [if_neg hplain, migratedKeys_of_encrypted crypto master nonces
        (encrypted_of_hasPlaintextKey hload (Bool.eq_false_iff.mpr hplain))]
      exact hload
  rw [rewrite]
  apply hlimited
  split
  · exact h
  · rw [authFromDocument_set_ratelimit, h]

end TokenDealer
