import TokenDealer.Config
import TokenDealer.Keystore
import TokenDealer.Toml

set_option autoImplicit true

namespace TokenDealer

def AuthKey.fromToml : Toml.Value → Except Toml.DecodeError AuthKey
  | .table members => do
    let key ← Toml.required members "key" Toml.Value.asStr
    let name ← Toml.required members "name" Toml.Value.asStr
    pure ⟨key, name⟩
  | _ => .error (.invalidType "keys")

def AuthConfig.fromToml : Toml.Value → Except Toml.DecodeError AuthConfig
  | .table members => do
    let enabled ← Toml.required members "enabled" Toml.Value.asBool
    let adminKey ← Toml.optional members "admin_key" Toml.Value.asStr
    let items ← Toml.optional members "keys" Toml.Value.asArray
    let keys ← (items.getD []).mapM AuthKey.fromToml
    pure ⟨enabled, adminKey, keys⟩
  | _ => .error (.invalidType "auth")

/-- An auth section decodes exactly when its fields do. -/
theorem AuthConfig.fromToml_table {members : List (String × Toml.Value)} {auth : AuthConfig} :
    AuthConfig.fromToml (.table members) = .ok auth ↔
      Toml.required members "enabled" Toml.Value.asBool = .ok auth.enabled ∧
      Toml.optional members "admin_key" Toml.Value.asStr = .ok auth.adminKey ∧
      ∃ items, Toml.optional members "keys" Toml.Value.asArray = .ok items ∧
        (items.getD []).mapM AuthKey.fromToml = .ok auth.keys := by
  simp only [AuthConfig.fromToml, Toml.bind_eq_ok]
  constructor
  · intro h
    obtain ⟨enabled, henabled, adminKey, hadmin, items, hitems, keys, hkeys, hauth⟩ := h
    cases hauth
    exact ⟨henabled, hadmin, items, hitems, hkeys⟩
  · intro h
    obtain ⟨henabled, hadmin, items, hitems, hkeys⟩ := h
    exact ⟨_, henabled, _, hadmin, items, hitems, _, hkeys, rfl⟩

/-- The auth section of a document, the default one when there is none. -/
def authFromDocument (doc : Toml.Document) : Except Toml.DecodeError AuthConfig :=
  match Table.get "auth" doc with
  | none => .ok {}
  | some v => AuthConfig.fromToml v

namespace ConfigService

def isEncrypted (key : String) : Bool := Str.startsWith key encPrefix

def hasRatelimit (doc : Toml.Document) : Bool :=
  ((Table.get "ratelimit" doc).bind Toml.Value.asTable).isSome

def authKeyEntries (doc : Toml.Document) : Option (List Toml.Value) :=
  ((Table.get "auth" doc).bind fun auth => auth.get "keys").bind Toml.Value.asArray

def isPlaintextEntry (entry : Toml.Value) : Bool :=
  match (entry.get "key").bind Toml.Value.asStr with
  | some key => !isEncrypted key
  | none => false

def hasPlaintextKey (doc : Toml.Document) : Bool :=
  match authKeyEntries doc with
  | some entries => entries.any isPlaintextEntry
  | none => false

/-- The rate limits a document without any is given. -/
def defaultRatelimit : Toml.Value :=
  .table
    [("enabled", .boolean true),
      ("global", .table [("refill_per_minute", .integer 600), ("burst", .integer 1200)]),
      ("per_key", .table [("refill_per_minute", .integer 60), ("burst", .integer 120)])]

section

variable (crypto : Crypto) (master : MasterKey) (nonces : Nat → List UInt8)

def encryptKey (i : Nat) (key : String) : String :=
  if isEncrypted key then key else master.encrypt crypto (nonces i) key Purpose.tomlAuthKey

def encryptEntry (i : Nat) : Toml.Value → Toml.Value
  | .table members =>
    match (Table.get "key" members).bind Toml.Value.asStr with
    | some key => .table (Table.set "key" (.string (encryptKey crypto master nonces i key)) members)
    | none => .table members
  | v => v

def encryptEntries : Nat → List Toml.Value → List Toml.Value
  | _, [] => []
  | i, entry :: rest => encryptEntry crypto master nonces i entry :: encryptEntries (i + 1) rest

def encryptAuthKeys (doc : Toml.Document) : Toml.Document :=
  match (Table.get "auth" doc).bind Toml.Value.asTable with
  | none => doc
  | some auth =>
    match (Table.get "keys" auth).bind Toml.Value.asArray with
    | none => doc
    | some entries =>
      let encrypted := Toml.Value.array (encryptEntries crypto master nonces 0 entries)
      Table.set "auth" (.table (Table.set "keys" encrypted auth)) doc

end

/-- The document a document of the old shape is rewritten to. -/
def rewrite (crypto : Crypto) (master : Option MasterKey) (nonces : Nat → List UInt8)
    (doc : Toml.Document) : Toml.Document :=
  let doc := if hasRatelimit doc then doc else Table.set "ratelimit" defaultRatelimit doc
  if hasPlaintextKey doc then
    match master with
    | some master => encryptAuthKeys crypto master nonces doc
    | none => doc
  else doc

/-- The configuration file and the backup next to it. -/
structure ConfigFile where
  text : String
  backup : Option String := none
  deriving DecidableEq, Repr

/-- The master key is the one the environment has at this moment. -/
def migrateV01IfNeeded (toml : Toml.Text) (crypto : Crypto) (env : String → Option String)
    (readFile : String → Option (List UInt8)) (nonces : Nat → List UInt8) (file : ConfigFile) :
    Except Toml.DecodeError ConfigFile :=
  match toml.parse file.text with
  | .error e => .error e
  | .ok doc =>
    if hasRatelimit doc && !hasPlaintextKey doc then .ok file
    else
      let master := (MasterKey.fromEnvStrict env readFile).toOption
      .ok
        { text := toml.print (rewrite crypto master nonces doc)
          backup := some (file.backup.getD file.text) }

/-- The auth section of the configuration that a file loads as. -/
def loadAuth (toml : Toml.Text) (file : ConfigFile) : Except Toml.DecodeError AuthConfig := do
  let doc ← toml.parse file.text
  authFromDocument doc

end ConfigService

end TokenDealer
