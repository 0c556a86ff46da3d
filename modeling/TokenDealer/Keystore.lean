import Mathlib.Logic.Function.Basic
import TokenDealer.Base64
import TokenDealer.Str
import TokenDealer.Utf8

set_option autoImplicit true

namespace TokenDealer

/-- The ciphers that are called: AES-256-GCM under a key and a nonce, and HKDF-SHA256. -/
structure Crypto where
  aeadEncrypt : List UInt8 → List UInt8 → List UInt8 → List UInt8
  aeadDecrypt : List UInt8 → List UInt8 → List UInt8 → Option (List UInt8)
  expand : List UInt8 → String → List UInt8

/-- The cipher undoes what it has done, and its tag leaves no ciphertext empty. -/
structure Crypto.IsAead (crypto : Crypto) : Prop where
  decrypt_encrypt : ∀ key nonce plaintext,
    crypto.aeadDecrypt key nonce (crypto.aeadEncrypt key nonce plaintext) = some plaintext
  encrypt_ne_nil : ∀ key nonce plaintext, crypto.aeadEncrypt key nonce plaintext ≠ []

inductive MasterKeyError where
  | missing
  | badFileLength (length : Nat)
  | badFormat
  | decrypt
  | badBase64
  deriving DecidableEq, Repr

structure MasterKey where
  bytes : List UInt8
  length_bytes : bytes.length = 32
  deriving DecidableEq, Repr

def nonceLen : Nat := 12

def encPrefix : String := "enc:"

namespace Purpose

def tomlAuthKey : String := "token-dealer/v0.2/auth-keys/v1"

end Purpose

/-- A byte string that is text, as a strict decoder sees it. -/
def fromUtf8 (bytes : List UInt8) : Option String :=
  let decoded := Utf8.decodeLossy bytes
  if Utf8.encode decoded = bytes then some (String.ofList decoded) else none

theorem fromUtf8_encode (s : String) : fromUtf8 (Utf8.encode s.toList) = some s := by
  rw [fromUtf8, Utf8.decodeLossy_encode, if_pos rfl, String.ofList_toList]

theorem not_blank_encode (bytes : List UInt8) :
    ∀ c ∈ Base64.encode bytes, Str.isWhitespace c = false := by
  have hdigit : ∀ n < 64, Str.isWhitespace (Base64.digit n) = false := by decide
  intro c hc
  rcases Base64.mem_encode hc with rfl | ⟨n, hn, rfl⟩
  · rfl
  · exact hdigit n hn

theorem trimList_encode (bytes : List UInt8) :
    Str.trimList (Base64.encode bytes) = Base64.encode bytes :=
  Str.trimList_eq_self (not_blank_encode bytes)

def hexDigit (c : Char) : Option Nat :=
  let n := c.toNat
  if 48 ≤ n ∧ n ≤ 57 then some (n - 48)
  else if 65 ≤ n ∧ n ≤ 70 then some (n - 55)
  else if 97 ≤ n ∧ n ≤ 102 then some (n - 87)
  else none

def hexDecode : List Char → Option (List UInt8)
  | [] => some []
  | [_] => none
  | a :: b :: rest =>
    match hexDigit a, hexDigit b, hexDecode rest with
    | some a, some b, some bytes => some (UInt8.ofNat (a * 16 + b) :: bytes)
    | _, _, _ => none

namespace MasterKey

def fromSlice (bytes : List UInt8) : Option MasterKey :=
  if h : bytes.length = 32 then some ⟨bytes, h⟩ else none

def fromHex (s : String) : Option MasterKey :=
  (hexDecode (Str.trimList s.toList)).bind fromSlice

def fromBase64 (s : String) : Option MasterKey :=
  (Base64.decode (Str.trimList s.toList)).bind fromSlice

/-- A key file comes first, then the variable: as hexadecimal, as base64, as raw bytes. -/
def fromEnvStrict (env : String → Option String) (readFile : String → Option (List UInt8)) :
    Except MasterKeyError MasterKey :=
  match env "ROUTER_MASTER_KEY_FILE" with
  | some path =>
    match readFile path with
    | none => .error .badFormat
    | some bytes =>
      match fromSlice bytes with
      | some key => .ok key
      | none => .error (.badFileLength bytes.length)
  | none =>
    match env "ROUTER_MASTER_KEY" with
    | none => .error .missing
    | some s =>
      match (fromHex s).or ((fromBase64 s).or (fromSlice (Utf8.encode s.toList))) with
      | some key => .ok key
      | none => .error .badFormat

variable (crypto : Crypto)

def deriveSubkey (master : MasterKey) (info : String) : List UInt8 :=
  crypto.expand master.bytes info

/-- The nonce is the one drawn for this call. -/
def encrypt (master : MasterKey) (nonce : List UInt8) (plaintext purpose : String) : String :=
  let ct := crypto.aeadEncrypt (master.deriveSubkey crypto purpose) nonce
    (Utf8.encode plaintext.toList)
  encPrefix ++ String.ofList (Base64.encode (nonce ++ ct))

def decrypt (master : MasterKey) (blob purpose : String) : Except MasterKeyError String :=
  match Str.stripPrefix encPrefix blob with
  | none => .error .decrypt
  | some rest =>
    match Base64.decode (Str.trimList rest.toList) with
    | none => .error .badBase64
    | some bytes =>
      if bytes.length ≤ nonceLen then .error .decrypt
      else
        match crypto.aeadDecrypt (master.deriveSubkey crypto purpose) (bytes.take nonceLen)
            (bytes.drop nonceLen) with
        | none => .error .decrypt
        | some plaintext =>
          match fromUtf8 plaintext with
          | none => .error .decrypt
          | some s => .ok s

/-- A text comes back from its encryption under the same purpose. -/
theorem decrypt_encrypt {crypto : Crypto} (hcrypto : crypto.IsAead)
    (hnonce : nonce.length = nonceLen) (master : MasterKey) (plaintext purpose : String) :
    master.decrypt crypto (master.encrypt crypto nonce plaintext purpose) purpose =
      .ok plaintext := by
  have hlength : ¬ (nonce ++ crypto.aeadEncrypt (master.deriveSubkey crypto purpose) nonce
      (Utf8.encode plaintext.toList)).length ≤ nonceLen := by
    have hct := List.length_pos_iff.mpr (hcrypto.encrypt_ne_nil
      (master.deriveSubkey crypto purpose) nonce (Utf8.encode plaintext.toList))
    rw [List.length_append]
    omega
  simp only [decrypt, encrypt, Str.stripPrefix_append, String.toList_ofList, trimList_encode,
    Base64.decode_encode, if_neg hlength, List.take_left' hnonce, List.drop_left' hnonce,
    hcrypto.decrypt_encrypt, fromUtf8_encode]

end MasterKey

inductive KeyStoreError where
  | db (message : String)
  | nonceLength
  | decrypt
  | utf8
  deriving DecidableEq, Repr

/-- The credentials table, the cache of decrypted keys and the raw key of the cipher. The table
answers a lookup with a row of ciphertext and nonce, with none, or with a failure. -/
structure KeyStore where
  db : String → Except String (Option (List UInt8 × List UInt8))
  cache : String → Option String
  cipher : List UInt8

namespace KeyStore

variable (crypto : Crypto)

def get (store : KeyStore) (providerId : String) :
    Except KeyStoreError (Option String) × KeyStore :=
  match store.cache providerId with
  | some key => (.ok (some key), store)
  | none =>
    match store.db providerId with
    | .error message => (.error (.db message), store)
    | .ok none => (.ok none, store)
    | .ok (some (ct, nonce)) =>
      if nonce.length ≠ nonceLen then (.error .nonceLength, store)
      else
        match crypto.aeadDecrypt store.cipher nonce ct with
        | none => (.error .decrypt, store)
        | some plaintext =>
          match fromUtf8 plaintext with
          | none => (.error .utf8, store)
          | some key =>
            (.ok (some key),
              { store with cache := Function.update store.cache providerId (some key) })

/-- The write to the table may fail, which leaves the cache as it was. -/
def set (store : KeyStore) (nonce : List UInt8) (written : Except String Unit)
    (providerId plaintext : String) : Except KeyStoreError Unit × KeyStore :=
  let ct := crypto.aeadEncrypt store.cipher nonce (Utf8.encode plaintext.toList)
  match written with
  | .error message => (.error (.db message), store)
  | .ok () =>
    (.ok (),
      { store with
        db := Function.update store.db providerId (.ok (some (ct, nonce)))
        cache := Function.update store.cache providerId (some plaintext) })

def delete (store : KeyStore) (deleted : Except String Unit) (providerId : String) :
    Except KeyStoreError Unit × KeyStore :=
  match deleted with
  | .error message => (.error (.db message), store)
  | .ok () =>
    (.ok (),
      { store with
        db := Function.update store.db providerId (.ok none)
        cache := Function.update store.cache providerId none })

/-- The two stores give the same answers. -/
def SameAnswers (store store' : KeyStore) : Prop :=
  ∀ p, (store'.get crypto p).1 = (store.get crypto p).1

/-- A lookup leaves the store as it was, or caches the answer it gave. -/
theorem get_state (store : KeyStore) (p : String) :
    (store.get crypto p).2 = store ∨ ∃ key, (store.get crypto p).1 = .ok (some key) ∧
      (store.get crypto p).2 =
        { store with cache := Function.update store.cache p (some key) } := by
  unfold get
  split
  · exact .inl rfl
  · split
    · exact .inl rfl
    · exact .inl rfl
    · split
      · exact .inl rfl
      · split
        · exact .inl rfl
        · split
          · exact .inl rfl
          · exact .inr ⟨_, rfl, rfl⟩

/-- An answer depends on the entry of its provider alone. -/
theorem get_congr {store store' : KeyStore} (hcache : store.cache q = store'.cache q)
    (hdb : store.db q = store'.db q) (hcipher : store.cipher = store'.cipher) :
    (store.get crypto q).1 = (store'.get crypto q).1 := by
  rw [get, get, hcache, hdb, hcipher]
  split
  · rfl
  · split <;> try rfl
    split
    · rfl
    · split
      · rfl
      · split <;> rfl

/-- What a lookup puts into the cache changes no later answer. -/
theorem get_after_get (store : KeyStore) (p q : String) :
    ((store.get crypto p).2.get crypto q).1 = (store.get crypto q).1 := by
  rcases store.get_state crypto p with h | ⟨key, hkey, h⟩
  · rw [h]
  · rw [h]
    by_cases hq : q = p
    · subst hq
      rw [hkey]
      simp only [get, Function.update_self]
    · exact get_congr crypto (Function.update_of_ne hq _ _) rfl rfl

theorem get_after_set (h : q ≠ p) (store : KeyStore) (nonce : List UInt8)
    (written : Except String Unit) (plaintext : String) :
    ((store.set crypto nonce written p plaintext).2.get crypto q).1 = (store.get crypto q).1 := by
  cases written with
  | error message => rfl
  | ok _ =>
    exact get_congr crypto (Function.update_of_ne h _ _) (Function.update_of_ne h _ _) rfl

theorem get_after_set_self (store : KeyStore) (nonce : List UInt8) (p plaintext : String) :
    (store.set crypto nonce (.ok ()) p plaintext).2.get crypto p =
      (.ok (some plaintext), (store.set crypto nonce (.ok ()) p plaintext).2) := by
  simp only [set, get, Function.update_self]

/-- Writing changes no answer where the text is there already or the table refuses it. -/
theorem sameAnswers_set_iff {store : KeyStore} {nonce : List UInt8}
    {written : Except String Unit} {p plaintext : String} :
    store.SameAnswers crypto (store.set crypto nonce written p plaintext).2 ↔
      (written.isOk = true → (store.get crypto p).1 = .ok (some plaintext)) := by
  cases written with
  | error message => exact iff_of_true (fun _ => rfl) fun h => absurd h Bool.false_ne_true
  | ok u =>
    constructor
    · intro h _
      rw [← h p, get_after_set_self]
    · intro h q
      by_cases hq : q = p
      · rw [hq, get_after_set_self, h rfl]
      · exact store.get_after_set crypto hq nonce _ plaintext

theorem sameAnswers_delete_iff {store : KeyStore} {deleted : Except String Unit} {p : String} :
    store.SameAnswers crypto (store.delete deleted p).2 ↔
      (deleted.isOk = true → (store.get crypto p).1 = .ok none) := by
  cases deleted with
  | error message => exact iff_of_true (fun _ => rfl) fun h => absurd h Bool.false_ne_true
  | ok u =>
    have hself : ((store.delete (.ok u) p).2.get crypto p).1 = .ok none := by
      simp only [delete, get, Function.update_self]
    constructor
    · intro h _
      rw [← h p, hself]
    · intro h q
      by_cases hq : q = p
      · rw [hq, hself, h rfl]
      · exact get_congr crypto (Function.update_of_ne hq _ _) (Function.update_of_ne hq _ _) rfl

end KeyStore

/-- All that a key is resolved from: the process environment, the encrypted store and the master
key. -/
structure Keys where
  crypto : Crypto
  env : String → Option String
  uppercase : String → String
  master : MasterKey
  store : KeyStore

def envVarFor (uppercase : String → String) (providerId : String) : String :=
  String.ofList ((uppercase providerId).toList.map fun c => if c = '-' then '_' else c) ++
    "_API_KEY"

namespace Keys

/-- The variable a literal refers to. -/
def indirection (literal : String) : Option String :=
  (Str.stripPrefix "$\x7b" literal).bind (Str.stripSuffix "\x7d")

/-- What is left when there is no usable literal: the provider's variable, then the store. -/
def resolveMissing (keys : Keys) (providerId : String) : String :=
  let stored := match (keys.store.get keys.crypto providerId).1 with
    | .ok (some key) => key
    | .ok none => ""
    | .error _ => ""
  match keys.env (envVarFor keys.uppercase providerId) with
  | some v => if v ≠ "" then v else stored
  | none => stored

/-- What a literal stands for on its own, none when it is empty. -/
def resolveLiteral (keys : Keys) (literal : String) : Option String :=
  match (indirection literal).bind keys.env with
  | some v => some v
  | none =>
    let decrypted :=
      if Str.startsWith literal encPrefix then
        (keys.master.decrypt keys.crypto literal Purpose.tomlAuthKey).toOption
      else none
    match decrypted with
    | some plaintext => some plaintext
    | none => if literal ≠ "" then some literal else none

def resolve (keys : Keys) (providerId : String) (literal : Option String) : String :=
  match literal.bind keys.resolveLiteral with
  | some key => key
  | none => keys.resolveMissing providerId

theorem resolve_store (keys : Keys) {store' : KeyStore}
    (h : (store'.get keys.crypto p).1 = (keys.store.get keys.crypto p).1)
    (literal : Option String) :
    ({ keys with store := store' } : Keys).resolve p literal = keys.resolve p literal := by
  have hliteral : ({ keys with store := store' } : Keys).resolveLiteral = keys.resolveLiteral := rfl
  simp only [resolve, hliteral, resolveMissing, h]

end Keys

end TokenDealer
