import Mathlib.Data.List.Forall2
import TokenDealer.MigrationLogin
import TokenDealer.TomlCodec

set_option autoImplicit true

namespace TokenDealer

open ConfigService

section Tree

variable (crypto : Crypto)

/-- A plaintext key and the ciphertext in its place, in an entry that is otherwise the same. -/
structure KeyEncrypted (master : MasterKey) (members members' : List (String × Toml.Value)) :
    Prop where
  others : ∀ name, name ≠ "key" → Table.get name members' = Table.get name members
  key : ∃ key blob, Table.get "key" members = some (.string key) ∧ isEncrypted key = false ∧
    Table.get "key" members' = some (.string blob) ∧ isEncrypted blob = true ∧
    master.decrypt crypto blob Purpose.tomlAuthKey = .ok key

/-- An entry as it was, or with its key encrypted. -/
inductive EntryMigrated (master : MasterKey) : Toml.Value → Toml.Value → Prop
  | same (entry : Toml.Value) : EntryMigrated master entry entry
  | encrypted {members members' : List (String × Toml.Value)}
      (h : KeyEncrypted crypto master members members') :
      EntryMigrated master (.table members) (.table members')

structure AuthMigrated (master : MasterKey) (auth auth' : List (String × Toml.Value)) : Prop where
  others : ∀ name, name ≠ "keys" → Table.get name auth' = Table.get name auth
  keys : ∃ entries entries', Table.get "keys" auth = some (.array entries) ∧
    Table.get "keys" auth' = some (.array entries') ∧
    List.Forall₂ (EntryMigrated crypto master) entries entries'

/-- What the migration may change: the rate limits of a document that has no table of them, and,
under a master key, the plaintext keys. -/
structure TreeMigrated (master : Option MasterKey) (doc doc' : Toml.Document) : Prop where
  others : ∀ name, name ≠ "ratelimit" → name ≠ "auth" → Table.get name doc' = Table.get name doc
  ratelimit : Table.get "ratelimit" doc' =
    if hasRatelimit doc then Table.get "ratelimit" doc else some defaultRatelimit
  auth : Table.get "auth" doc' = Table.get "auth" doc ∨
    ∃ m members members', master = some m ∧ Table.get "auth" doc = some (.table members) ∧
      Table.get "auth" doc' = some (.table members') ∧ AuthMigrated crypto m members members'

end Tree

section

variable {crypto : Crypto} {master : MasterKey} {nonces : Nat → List UInt8}

theorem encryptEntry_migrated (hcrypto : crypto.IsAead)
    (hnonces : ∀ i, (nonces i).length = nonceLen) (i : Nat) (entry : Toml.Value) :
    EntryMigrated crypto master entry (encryptEntry crypto master nonces i entry) := by
  cases entry with
  | table members =>
    rw [encryptEntry]
    cases hfound : Table.get "key" members with
    | none => exact .same _
    | some v =>
      cases v with
      | string key =>
        dsimp only [Option.bind_some, Toml.Value.asStr]
        cases hkey : isEncrypted key with
        | true =>
          rw [encryptKey_of_encrypted crypto master nonces hkey, Table.set_of_get hfound]
          exact .same _
        | false =>
          rw [encryptKey_of_plaintext crypto master nonces hkey]
          exact .encrypted ⟨fun name hname => Table.get_set_of_ne (Ne.symm hname) _ _, key, _,
            hfound, hkey, Table.get_set_self _ _ _, isEncrypted_encrypt crypto master _ _ _,
            MasterKey.decrypt_encrypt hcrypto (hnonces i) master key _⟩
      | _ => exact .same _
  | _ => exact .same _

theorem encryptEntries_migrated (hcrypto : crypto.IsAead)
    (hnonces : ∀ i, (nonces i).length = nonceLen) (i : Nat) (entries : List Toml.Value) :
    List.Forall₂ (EntryMigrated crypto master) entries
      (encryptEntries crypto master nonces i entries) := by
  induction entries generalizing i with
  | nil => exact .nil
  | cons entry rest ih =>
    exact .cons (encryptEntry_migrated hcrypto hnonces i entry) (ih (i + 1))

theorem authKeyEntries_encryptAuthKeys (crypto : Crypto) (master : MasterKey)
    (nonces : Nat → List UInt8) (doc : Toml.Document) :
    authKeyEntries (encryptAuthKeys crypto master nonces doc) =
      (authKeyEntries doc).map (encryptEntries crypto master nonces 0) := by
  rcases encryptAuthKeys_cases crypto master nonces doc with ⟨hsame, hnone⟩ | h
  · rw [hsame, hnone, Option.map_none]
  · obtain ⟨auth, entries, -, -, hentries, hset⟩ := h
    rw [hentries, hset, authKeyEntries, Table.get_set_self]
    dsimp only [Option.bind_some, Toml.Value.get, Toml.Value.asTable]
    rw [Table.get_set_self]
    rfl

theorem isPlaintextEntry_encryptEntry (crypto : Crypto) (master : MasterKey)
    (nonces : Nat → List UInt8) (i : Nat) (entry : Toml.Value) :
    isPlaintextEntry (encryptEntry crypto master nonces i entry) = false := by
  cases entry with
  | table members =>
    rw [encryptEntry]
    cases hfound : Table.get "key" members with
    | none => simp only [Option.bind_none, isPlaintextEntry, Toml.Value.get, Toml.Value.asTable,
        Option.bind_some, hfound]
    | some v =>
      cases v with
      | string key =>
        have hencrypted : isEncrypted (encryptKey crypto master nonces i key) = true := by
          cases hkey : isEncrypted key with
          | true => rw [encryptKey_of_encrypted crypto master nonces hkey, hkey]
          | false =>
            rw [encryptKey_of_plaintext crypto master nonces hkey]
            exact isEncrypted_encrypt crypto master _ _ _
        simp only [Option.bind_some, Toml.Value.asStr, isPlaintextEntry, Toml.Value.get,
          Toml.Value.asTable, Table.get_set_self, hencrypted, Bool.not_true]
      | _ => simp only [Option.bind_some, Toml.Value.asStr, isPlaintextEntry, Toml.Value.get,
          Toml.Value.asTable, hfound]
  | _ => rfl

theorem any_encryptEntries (crypto : Crypto) (master : MasterKey) (nonces : Nat → List UInt8)
    (i : Nat) (entries : List Toml.Value) :
    (encryptEntries crypto master nonces i entries).any isPlaintextEntry = false := by
  induction entries generalizing i with
  | nil => rfl
  | cons entry rest ih =>
    rw [encryptEntries, List.any_cons, isPlaintextEntry_encryptEntry, ih, Bool.or_false]

/-- Under a master key no plaintext key is left. -/
theorem hasPlaintextKey_encryptAuthKeys (crypto : Crypto) (master : MasterKey)
    (nonces : Nat → List UInt8) (doc : Toml.Document) :
    hasPlaintextKey (encryptAuthKeys crypto master nonces doc) = false := by
  rw [hasPlaintextKey, authKeyEntries_encryptAuthKeys]
  cases authKeyEntries doc with
  | none => rfl
  | some entries => exact any_encryptEntries crypto master nonces 0 entries

/-- The document with its rate limits, the default ones if it has no table of them. -/
def withRatelimit (doc : Toml.Document) : Toml.Document :=
  if hasRatelimit doc then doc else Table.set "ratelimit" defaultRatelimit doc

theorem get_withRatelimit (h : name ≠ "ratelimit") (doc : Toml.Document) :
    Table.get name (withRatelimit doc) = Table.get name doc := by
  rw [withRatelimit]
  split
  · rfl
  · exact Table.get_set_of_ne (Ne.symm h) _ _

theorem rewrite_of_plaintext {doc : Toml.Document}
    (h : hasPlaintextKey (withRatelimit doc) = true) (crypto : Crypto) (m : MasterKey)
    (nonces : Nat → List UInt8) :
    rewrite crypto (some m) nonces doc = encryptAuthKeys crypto m nonces (withRatelimit doc) :=
  if_pos h

theorem rewrite_of_encrypted {doc : Toml.Document}
    (h : ¬ hasPlaintextKey (withRatelimit doc) = true) (crypto : Crypto)
    (master : Option MasterKey) (nonces : Nat → List UInt8) :
    rewrite crypto master nonces doc = withRatelimit doc :=
  if_neg h

theorem rewrite_none (crypto : Crypto) (nonces : Nat → List UInt8) (doc : Toml.Document) :
    rewrite crypto none nonces doc = withRatelimit doc := by
  rw [rewrite, withRatelimit]
  exact ite_self _

theorem rewrite_eq (crypto : Crypto) (master : Option MasterKey) (nonces : Nat → List UInt8)
    (doc : Toml.Document) :
    rewrite crypto master nonces doc = withRatelimit doc ∨ ∃ m, master = some m ∧
      rewrite crypto master nonces doc = encryptAuthKeys crypto m nonces (withRatelimit doc) := by
  cases master with
  | none => exact .inl (rewrite_none crypto nonces doc)
  | some m =>
    by_cases hplain : hasPlaintextKey (withRatelimit doc) = true
    · exact .inr ⟨m, rfl, rewrite_of_plaintext hplain crypto m nonces⟩
    · exact .inl (rewrite_of_encrypted hplain crypto _ nonces)

/-- A rewritten document differs from the old one where the migration may change it. -/
theorem rewrite_treeMigrated (hcrypto : crypto.IsAead)
    (hnonces : ∀ i, (nonces i).length = nonceLen) (master : Option MasterKey)
    (doc : Toml.Document) : TreeMigrated crypto master doc (rewrite crypto master nonces doc) := by
  have hlimits : Table.get "ratelimit" (withRatelimit doc) =
      if hasRatelimit doc then Table.get "ratelimit" doc else some defaultRatelimit := by
    rw [withRatelimit]
    split
    · rfl
    · exact Table.get_set_self _ _ _
  have hkept : TreeMigrated crypto master doc (withRatelimit doc) :=
    ⟨fun name hname _ => get_withRatelimit hname doc, hlimits,
      .inl (get_withRatelimit (by decide) doc)⟩
  rcases rewrite_eq crypto master nonces doc with hsame | ⟨m, hm, hencrypted⟩
  · rw [hsame]
    exact hkept
  · rw [hencrypted]
    rcases encryptAuthKeys_cases crypto m nonces (withRatelimit doc) with ⟨hsame, -⟩ | h
    · rw [hsame]
      exact hkept
    · obtain ⟨auth, entries, hauth, hkeys, -, hset⟩ := h
      rw [get_withRatelimit (by decide)] at hauth
      rw [hset]
      refine ⟨?_, ?_, .inr ⟨m, auth, _, hm, hauth, Table.get_set_self _ _ _,
        fun name hname => Table.get_set_of_ne (Ne.symm hname) _ _, entries, _, hkeys,
        Table.get_set_self _ _ _, encryptEntries_migrated hcrypto hnonces 0 entries⟩⟩
      · intro name hname hne
        rw [Table.get_set_of_ne (Ne.symm hne), get_withRatelimit hname]
      · rw [Table.get_set_of_ne (by decide), hlimits]

end

section Sorted

theorem isPlaintextEntry_sorted (entry : Toml.Value) :
    isPlaintextEntry entry.sorted = isPlaintextEntry entry := by
  rw [isPlaintextEntry, isPlaintextEntry, Toml.Value.get_sorted]
  cases entry.get "key" with
  | none => rfl
  | some v =>
    rw [Option.map_some, Option.bind_some, Option.bind_some, Toml.Codec.asStr_sorted]

theorem authKeyEntries_sorted (doc : Toml.Document) :
    authKeyEntries doc.sorted = (authKeyEntries doc).map (List.map Toml.Value.sorted) := by
  rw [authKeyEntries, authKeyEntries, Toml.Document.get_sorted]
  cases Table.get "auth" doc with
  | none => rfl
  | some auth =>
    rw [Option.map_some, Option.bind_some, Option.bind_some, Toml.Value.get_sorted]
    cases auth.get "keys" with
    | none => rfl
    | some keys =>
      cases keys with
      | array entries => exact congrArg some (Toml.Value.sortedItems_eq_map entries)
      | _ => rfl

theorem hasPlaintextKey_sorted (doc : Toml.Document) :
    hasPlaintextKey doc.sorted = hasPlaintextKey doc := by
  rw [hasPlaintextKey, hasPlaintextKey, authKeyEntries_sorted]
  cases authKeyEntries doc with
  | none => rfl
  | some entries =>
    rw [Option.map_some]
    dsimp only
    rw [List.any_map]
    exact congrArg entries.any (funext isPlaintextEntry_sorted)

theorem hasRatelimit_sorted (doc : Toml.Document) :
    hasRatelimit doc.sorted = hasRatelimit doc := by
  rw [hasRatelimit, hasRatelimit, Toml.Document.get_sorted]
  cases Table.get "ratelimit" doc with
  | none => rfl
  | some v => cases v <;> rfl

end Sorted

section Rewritten

variable (crypto : Crypto) (master : Option MasterKey) (nonces : Nat → List UInt8)

theorem hasRatelimit_congr {doc doc' : Toml.Document}
    (h : Table.get "ratelimit" doc' = Table.get "ratelimit" doc) :
    hasRatelimit doc' = hasRatelimit doc := by
  rw [hasRatelimit, hasRatelimit, h]

theorem hasRatelimit_withRatelimit (doc : Toml.Document) :
    hasRatelimit (withRatelimit doc) = true := by
  rw [withRatelimit]
  split
  · assumption
  · rw [hasRatelimit, Table.get_set_self]
    rfl

theorem hasRatelimit_rewrite (doc : Toml.Document) :
    hasRatelimit (rewrite crypto master nonces doc) = true := by
  rcases rewrite_eq crypto master nonces doc with hsame | ⟨m, -, hencrypted⟩
  · rw [hsame]
    exact hasRatelimit_withRatelimit doc
  · rw [hencrypted, ← hasRatelimit_withRatelimit doc]
    rcases encryptAuthKeys_cases crypto m nonces (withRatelimit doc) with ⟨hsame, -⟩ | h
    · rw [hsame]
    · obtain ⟨auth, entries, -, -, -, hset⟩ := h
      rw [hset]
      exact hasRatelimit_congr (Table.get_set_of_ne (by decide) _ _)

theorem hasPlaintextKey_rewrite (m : MasterKey) (doc : Toml.Document) :
    hasPlaintextKey (rewrite crypto (some m) nonces doc) = false := by
  by_cases hplain : hasPlaintextKey (withRatelimit doc) = true
  · rw [rewrite_of_plaintext hplain]
    exact hasPlaintextKey_encryptAuthKeys crypto m nonces _
  · rw [rewrite_of_encrypted hplain]
    exact Bool.eq_false_iff.mpr hplain

/-- A document with rate limits, in which there is nothing to encrypt or nothing to encrypt with,
is written back as it is. -/
theorem rewrite_of_settled (hlimits : hasRatelimit doc = true)
    (hkeys : master = none ∨ hasPlaintextKey doc = false) :
    rewrite crypto master nonces doc = doc := by
  have hsame : withRatelimit doc = doc := if_pos hlimits
  rcases hkeys with rfl | hplain
  · rw [rewrite_none, hsame]
  · rw [rewrite_of_encrypted (by rw [hsame, hplain]; exact Bool.false_ne_true), hsame]

/-- Reading back what was rewritten leaves nothing to rewrite. -/
theorem rewrite_rewritten (nonces' : Nat → List UInt8) (doc : Toml.Document) :
    rewrite crypto master nonces' (rewrite crypto master nonces doc).sorted =
      (rewrite crypto master nonces doc).sorted := by
  apply rewrite_of_settled
  · rw [hasRatelimit_sorted, hasRatelimit_rewrite]
  · cases master with
    | none => exact .inl rfl
    | some m => exact .inr (by rw [hasPlaintextKey_sorted, hasPlaintextKey_rewrite])

end Rewritten

section Migrate

variable {toml : Toml.Text} {crypto : Crypto} {env : String → Option String}
  {readFile : String → Option (List UInt8)} {file : ConfigFile} {doc : Toml.Document}
  {master : Option MasterKey}

theorem migrate_settled (hparse : toml.parse file.text = .ok doc)
    (h : (hasRatelimit doc && !hasPlaintextKey doc) = true) (nonces : Nat → List UInt8) :
    migrateV01IfNeeded toml crypto env readFile nonces file = .ok file := by
  rw [migrateV01IfNeeded, hparse]
  exact if_pos h

theorem migrate_rewritten (hparse : toml.parse file.text = .ok doc)
    (hmaster : (MasterKey.fromEnvStrict env readFile).toOption = master)
    (h : ¬ (hasRatelimit doc && !hasPlaintextKey doc) = true) (nonces : Nat → List UInt8) :
    migrateV01IfNeeded toml crypto env readFile nonces file =
      .ok ⟨toml.print (rewrite crypto master nonces doc),
        some (file.backup.getD file.text)⟩ := by
  rw [migrateV01IfNeeded, hparse, ← hmaster]
  exact if_neg h

/-- The tree that is in the file afterwards is the rewritten one, also when nothing was written. -/
theorem migrate_tree (hparse : toml.parse file.text = .ok doc)
    (hmaster : (MasterKey.fromEnvStrict env readFile).toOption = master)
    (hprint : toml.RoundTrips (rewrite crypto master nonces doc)) :
    ∃ file' tree, migrateV01IfNeeded toml crypto env readFile nonces file = .ok file' ∧
      toml.parse file'.text = .ok tree ∧
      ((hasRatelimit tree && !hasPlaintextKey tree) = true ∧ tree = doc ∨
        tree = (rewrite crypto master nonces doc).sorted) ∧
      tree.sorted = (rewrite crypto master nonces doc).sorted := by
  by_cases h : (hasRatelimit doc && !hasPlaintextKey doc) = true
  · obtain ⟨hlimits, hkeys⟩ := Bool.and_eq_true_iff.mp h
    have hsame : rewrite crypto master nonces doc = doc :=
      rewrite_of_settled _ _ _ hlimits (.inr ((Bool.not_eq_true' _).mp hkeys))
    exact ⟨file, doc, migrate_settled hparse h nonces, hparse, .inl ⟨h, rfl⟩, by rw [hsame]⟩
  · exact ⟨_, _, migrate_rewritten hparse hmaster h nonces, hprint, .inr rfl,
      Toml.Document.sorted_sorted _⟩

/-- A second migration finds the tree that the first one has left, and leaves it too. -/
theorem migrate_twice (hparse : toml.parse file.text = .ok doc)
    (hmaster : (MasterKey.fromEnvStrict env readFile).toOption = master)
    (hprint : toml.RoundTrips (rewrite crypto master nonces doc))
    (hagain : toml.RoundTrips (rewrite crypto master nonces doc).sorted)
    (nonces' : Nat → List UInt8) :
    ∃ file' file'' tree, migrateV01IfNeeded toml crypto env readFile nonces file = .ok file' ∧
      migrateV01IfNeeded toml crypto env readFile nonces' file' = .ok file'' ∧
      toml.parse file'.text = .ok tree ∧ toml.parse file''.text = .ok tree ∧
      tree.sorted = (rewrite crypto master nonces doc).sorted := by
  obtain ⟨file', tree, hfirst, htree, hcases, hsorted⟩ := migrate_tree hparse hmaster hprint
  by_cases h : (hasRatelimit tree && !hasPlaintextKey tree) = true
  · exact ⟨file', file', tree, hfirst, migrate_settled htree h nonces', htree, htree, hsorted⟩
  · have hrewritten := hcases.resolve_left fun hsettled => h hsettled.1
    have hsecond : migrateV01IfNeeded toml crypto env readFile nonces' file' =
        .ok ⟨toml.print (rewrite crypto master nonces' tree),
          some (file'.backup.getD file'.text)⟩ :=
      migrate_rewritten htree hmaster h nonces'
    have hsame : rewrite crypto master nonces' tree = tree := by
      rw [hrewritten]
      exact rewrite_rewritten crypto master nonces nonces' doc
    rw [hsame] at hsecond
    refine ⟨file', _, tree, hfirst, hsecond, htree, ?_, hsorted⟩
    rw [← hrewritten] at hagain
    have hread : toml.parse (toml.print tree) = .ok tree.sorted := hagain
    rw [hread, hsorted, ← hrewritten]

end Migrate

section Backup

/-- What happens to the file: it is edited, or a process starts and migrates it. -/
inductive FileEvent where
  | edit (text : String)
  | migrate (env : String → Option String) (readFile : String → Option (List UInt8))
    (nonces : Nat → List UInt8)

variable (toml : Toml.Text) (crypto : Crypto)

/-- A migration that fails leaves the file alone. -/
def FileEvent.apply (file : ConfigFile) : FileEvent → ConfigFile
  | edit text => { file with text := text }
  | migrate env readFile nonces =>
    match migrateV01IfNeeded toml crypto env readFile nonces file with
    | .ok file' => file'
    | .error _ => file

def runFile (file : ConfigFile) (events : List FileEvent) : ConfigFile :=
  events.foldl (FileEvent.apply toml crypto) file

/-- Is a text one that the migration rewrites? -/
def isOldShape (text : String) : Bool :=
  match toml.parse text with
  | .ok doc => !(hasRatelimit doc && !hasPlaintextKey doc)
  | .error _ => false

/-- The text before the first time that it is rewritten. -/
def firstRewritten : ConfigFile → List FileEvent → Option String
  | _, [] => none
  | file, .edit text :: rest => firstRewritten { file with text := text } rest
  | file, .migrate env readFile nonces :: rest =>
    if isOldShape toml file.text then some file.text
    else
      firstRewritten (FileEvent.apply toml crypto file (.migrate env readFile nonces)) rest

variable {toml crypto}

theorem apply_migrate_of_not_isOldShape {file : ConfigFile} (h : isOldShape toml file.text = false)
    (env : String → Option String) (readFile : String → Option (List UInt8))
    (nonces : Nat → List UInt8) :
    FileEvent.apply toml crypto file (.migrate env readFile nonces) = file := by
  rw [FileEvent.apply]
  rw [isOldShape] at h
  cases hparse : toml.parse file.text with
  | error e => rw [migrateV01IfNeeded, hparse]
  | ok doc =>
    rw [hparse] at h
    rw [migrate_settled hparse ((Bool.not_eq_false' _).mp h)]

theorem apply_migrate_of_isOldShape {file : ConfigFile} (h : isOldShape toml file.text = true)
    (env : String → Option String) (readFile : String → Option (List UInt8))
    (nonces : Nat → List UInt8) :
    (FileEvent.apply toml crypto file (.migrate env readFile nonces)).backup =
      some (file.backup.getD file.text) := by
  rw [FileEvent.apply]
  rw [isOldShape] at h
  cases hparse : toml.parse file.text with
  | error e =>
    rw [hparse] at h
    cases h
  | ok doc =>
    rw [hparse] at h
    rw [migrate_rewritten hparse rfl (ne_true_of_eq_false ((Bool.not_eq_true' _).mp h))]

/-- A backup that is there is never overwritten. -/
theorem backup_runFile_of_some {file : ConfigFile} (h : file.backup = some kept)
    (events : List FileEvent) : (runFile toml crypto file events).backup = some kept := by
  induction events generalizing file with
  | nil => exact h
  | cons event rest ih =>
    apply ih
    cases event with
    | edit text => exact h
    | migrate env readFile nonces =>
      cases hold : isOldShape toml file.text with
      | false => rw [apply_migrate_of_not_isOldShape hold, h]
      | true => rw [apply_migrate_of_isOldShape hold, h, Option.getD_some]

theorem backup_runFile (file : ConfigFile) (events : List FileEvent) :
    (runFile toml crypto file events).backup =
      file.backup.or (firstRewritten toml crypto file events) := by
  cases hbackup : file.backup with
  | some kept => exact backup_runFile_of_some hbackup events
  | none =>
    rw [Option.none_or]
    induction events generalizing file with
    | nil => exact hbackup
    | cons event rest ih =>
      cases event with
      | edit text => exact ih _ hbackup
      | migrate env readFile nonces =>
        rw [firstRewritten]
        cases hold : isOldShape toml file.text with
        | false =>
          have hsame : FileEvent.apply toml crypto file (.migrate env readFile nonces) = file :=
            apply_migrate_of_not_isOldShape hold env readFile nonces
          rw [if_neg Bool.false_ne_true]
          exact ih _ (by rw [hsame, hbackup])
        | true =>
          rw [if_pos rfl]
          have hkept : (FileEvent.apply toml crypto file (.migrate env readFile nonces)).backup =
              some file.text := by
            rw [apply_migrate_of_isOldShape hold, hbackup, Option.getD_none]
          exact backup_runFile_of_some hkept rest

end Backup

/-- Migrating twice leaves the tree that migrating once does, in which nothing but what has to be
is different; and whatever happens to the file, its backup is the one it had, or else the text
before the first rewrite. -/
theorem migration_idempotent {toml : Toml.Text} {crypto : Crypto} {env : String → Option String}
    {readFile : String → Option (List UInt8)} {nonces nonces' : Nat → List UInt8}
    {file : ConfigFile} {doc : Toml.Document} {master : Option MasterKey}
    (hcrypto : crypto.IsAead) (hnonces : ∀ i, (nonces i).length = nonceLen)
    (hparse : toml.parse file.text = .ok doc)
    (hmaster : (MasterKey.fromEnvStrict env readFile).toOption = master)
    (hprint : toml.RoundTrips (rewrite crypto master nonces doc))
    (hagain : toml.RoundTrips (rewrite crypto master nonces doc).sorted) :
    (∃ file' file'' tree, migrateV01IfNeeded toml crypto env readFile nonces file = .ok file' ∧
      migrateV01IfNeeded toml crypto env readFile nonces' file' = .ok file'' ∧
      toml.parse file'.text = .ok tree ∧ toml.parse file''.text = .ok tree ∧
      ∃ written, TreeMigrated crypto master doc written ∧ tree.sorted = written.sorted) ∧
    ∀ events, (runFile toml crypto file events).backup =
      file.backup.or (firstRewritten toml crypto file events) := by
  obtain ⟨file', file'', tree, hfirst, hsecond, htree, htree', hsorted⟩ :=
    migrate_twice hparse hmaster hprint hagain nonces'
  exact ⟨⟨file', file'', tree, hfirst, hsecond, htree, htree',
    _, rewrite_treeMigrated hcrypto hnonces master doc, hsorted⟩, backup_runFile file⟩

/-- The tag at the end of the ciphertext of `sk-alpha`, and what stands before it. -/
def sampleBody : List UInt8 := sampleCipherBytes.take 8

def sampleTag : List UInt8 := sampleCipherBytes.drop 8

/-- A cipher that agrees with the real one on `sk-alpha`, and always adds a tag. -/
def taggedCrypto : Crypto where
  aeadEncrypt _ _ plaintext := Equiv.swap samplePlainBytes sampleBody plaintext ++ sampleTag
  aeadDecrypt _ _ ct := some (Equiv.swap samplePlainBytes sampleBody (ct.take (ct.length - 16)))
  expand := sampleCrypto.expand

theorem taggedCrypto_isAead : taggedCrypto.IsAead where
  decrypt_encrypt key nonce plaintext := by
    have htake : ∀ body : List UInt8, (body ++ sampleTag).take ((body ++ sampleTag).length - 16) =
        body := by
      intro body
      have hlength : (body ++ sampleTag).length - 16 = body.length := by
        rw [List.length_append]
        exact Nat.add_sub_cancel body.length 16
      rw [hlength, List.take_left]
    rw [taggedCrypto]
    dsimp only
    rw [htake, Equiv.swap_apply_self]
  encrypt_ne_nil key nonce plaintext :=
    List.append_ne_nil_of_right_ne_nil _ (by decide)

theorem rewrite_tagged :
    rewrite taggedCrypto (some sampleMaster) sampleNonces sampleOldDocument =
      sampleNewDocument := by
  rfl

theorem fromEnvStrict_sample_toOption :
    (MasterKey.fromEnvStrict sampleEnv fun _ => none).toOption = some sampleMaster :=
  congrArg Except.toOption fromEnvStrict_sample

theorem migration_idempotent_sample :
    (∃ file' file'' tree,
      migrateV01IfNeeded sampleToml taggedCrypto sampleEnv (fun _ => none) sampleNonces
        { text := sampleOldText } = .ok file' ∧
      migrateV01IfNeeded sampleToml taggedCrypto sampleEnv (fun _ => none) sampleNonces file' =
        .ok file'' ∧
      sampleToml.parse file'.text = .ok tree ∧ sampleToml.parse file''.text = .ok tree ∧
      ∃ written, TreeMigrated taggedCrypto (some sampleMaster) sampleOldDocument written ∧
        tree.sorted = written.sorted) ∧
    ∀ events, (runFile sampleToml taggedCrypto { text := sampleOldText } events).backup =
      firstRewritten sampleToml taggedCrypto { text := sampleOldText } events := by
  have hprint : sampleToml.RoundTrips
      (rewrite taggedCrypto (some sampleMaster) sampleNonces sampleOldDocument) := by
    rw [rewrite_tagged]
    exact parse_sampleNewText
  have hagain : sampleToml.RoundTrips
      (rewrite taggedCrypto (some sampleMaster) sampleNonces sampleOldDocument).sorted := by
    rw [rewrite_tagged, Toml.Text.RoundTrips, Toml.Document.sorted_sorted]
    exact parse_sampleNewText
  exact migration_idempotent taggedCrypto_isAead (fun _ => rfl) parse_sampleOldText
    fromEnvStrict_sample_toOption hprint hagain

end TokenDealer
