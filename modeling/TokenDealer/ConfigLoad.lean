import TokenDealer.ConfigUpdate
import TokenDealer.MigrationFrame
import TokenDealer.ValidConfig

set_option autoImplicit true

namespace TokenDealer

/-- What is found under the path of the configuration and next to it. -/
structure ConfigPath where
  text : Option String
  backup : Option String := none
  deriving DecidableEq, Repr

namespace ConfigService

/-- The file of the first run. Its array of keys has one entry, which is empty. -/
def minimalText : String :=
  "# token-dealer first-run config.\n" ++
  "# Add providers via /ui/providers or by editing this file.\n" ++
  "# See README.md for the full schema and an upgraded example.\n" ++
  "[server]\nbind = \"0.0.0.0:8080\"\nlog_level = \"info\"\n\n" ++
  "[auth]\nenabled = true\n\n[[auth.keys]]\n# name = \"example\"\n# key = \"sk-...\"\n"

def writeMinimalConfig (path : ConfigPath) : ConfigPath := { path with text := some minimalText }

/-- The errors are counted in the message, and listed by another command. -/
def failedValidation (name : String) (errors : List ConfigError) (advice : String) : String :=
  let count := errors.length
  s!"config at {name} failed validation: {count} error(s); {advice}"

/-- A text that passes the validator is read once more. -/
def readConfig (tools : ValidateTools) (name advice text : String) : Except String RouterConfig :=
  match validate tools text with
  | [] =>
    match fromStr tools.toml text with
    | .ok c => .ok c
    | .error e => .error (tools.display e)
  | errors => .error (failedValidation name errors advice)

section

variable (tools : ValidateTools) (crypto : Crypto) (env : String → Option String)
  (readFile : String → Option (List UInt8)) (nonces : Nat → List UInt8) (name : String)

/-- A migration that fails is logged, and the file is read as it is. -/
def migrated (text : String) (backup : Option String) : ConfigFile :=
  match migrateV01IfNeeded tools.toml crypto env readFile nonces ⟨text, backup⟩ with
  | .ok file => file
  | .error _ => ⟨text, backup⟩

def load (path : ConfigPath) : Except String RouterConfig × ConfigPath :=
  match path.text with
  | none => (.ok {}, writeMinimalConfig path)
  | some text =>
    let file := migrated tools crypto env readFile nonces text path.backup
    (readConfig tools name "run `token-dealer check` for details" file.text,
      ⟨some file.text, file.backup⟩)

/-- The configuration in memory is replaced by the one that is read, or stays. -/
def reload (text : Except String String) (memory : RouterConfig) :
    Except String Unit × RouterConfig :=
  match text with
  | .error e => (.error e, memory)
  | .ok text =>
    match readConfig tools name "reload aborted" text with
    | .error e => (.error e, memory)
    | .ok c => (.ok (), c)

end

theorem readConfig_eq_ok {tools : ValidateTools} :
    readConfig tools name advice text = .ok c ↔
      validate tools text = [] ∧ fromStr tools.toml text = .ok c := by
  rw [readConfig]
  cases hvalid : validate tools text with
  | nil =>
    cases hread : fromStr tools.toml text with
    | ok c' =>
      constructor
      · intro h
        cases h
        exact ⟨rfl, rfl⟩
      · rintro ⟨-, h⟩
        cases h
        rfl
    | error e => exact ⟨fun h => (nomatch h), fun h => (nomatch h.2)⟩
  | cons e rest => exact ⟨fun h => (nomatch h), fun h => (nomatch h.1)⟩

/-- What is read depends on the tree alone. -/
theorem readConfig_congr {tools : ValidateTools}
    (h : tools.toml.parse text' = tools.toml.parse text) (name advice : String) :
    readConfig tools name advice text' = readConfig tools name advice text := by
  rw [readConfig, readConfig, validate, validate, fromStr, fromStr, h]

end ConfigService

open ConfigService

section

variable {tools : ValidateTools} {crypto : Crypto} {env : String → Option String}
  {readFile : String → Option (List UInt8)} {nonces nonces' : Nat → List UInt8} {name : String}
  {master : Option MasterKey}

/-- The tree of the file of the first run. -/
def minimalDocument : Toml.Document :=
  [("auth", .table [("enabled", .boolean true), ("keys", .array [.table []])]),
    ("server", .table [("bind", .string "0.0.0.0:8080"), ("log_level", .string "info")])]

theorem load_existing (text : String) (backup : Option String) :
    load tools crypto env readFile nonces name ⟨some text, backup⟩ =
      (readConfig tools name "run `token-dealer check` for details"
        (migrated tools crypto env readFile nonces text backup).text,
        ⟨some (migrated tools crypto env readFile nonces text backup).text,
          (migrated tools crypto env readFile nonces text backup).backup⟩) := rfl

theorem migrated_rewritten {text : String} {doc : Toml.Document}
    (hparse : tools.toml.parse text = .ok doc)
    (hmaster : (MasterKey.fromEnvStrict env readFile).toOption = master)
    (hold : ¬ (hasRatelimit doc && !hasPlaintextKey doc) = true) (nonces : Nat → List UInt8)
    (backup : Option String) :
    migrated tools crypto env readFile nonces text backup =
      ⟨tools.toml.print (rewrite crypto master nonces doc), some (backup.getD text)⟩ := by
  have hmigrate : migrateV01IfNeeded tools.toml crypto env readFile nonces ⟨text, backup⟩ =
      .ok ⟨tools.toml.print (rewrite crypto master nonces doc), some (backup.getD text)⟩ :=
    migrate_rewritten hparse hmaster hold nonces
  rw [migrated, hmigrate]

/-- Where there is a file, the second load reads what the first one did. -/
theorem load_existing_again {text : String} {backup : Option String} {doc : Toml.Document}
    (hparse : tools.toml.parse text = .ok doc)
    (hmaster : (MasterKey.fromEnvStrict env readFile).toOption = master)
    (hprint : tools.toml.RoundTrips (rewrite crypto master nonces doc))
    (hagain : tools.toml.RoundTrips (rewrite crypto master nonces doc).sorted) :
    (load tools crypto env readFile nonces' name
      (load tools crypto env readFile nonces name ⟨some text, backup⟩).2).1 =
      (load tools crypto env readFile nonces name ⟨some text, backup⟩).1 := by
  obtain ⟨file', file'', tree, hfirst, hsecond, htree, htree', -⟩ :
      ∃ file' file'' tree,
        migrateV01IfNeeded tools.toml crypto env readFile nonces ⟨text, backup⟩ = .ok file' ∧
        migrateV01IfNeeded tools.toml crypto env readFile nonces' file' = .ok file'' ∧
        tools.toml.parse file'.text = .ok tree ∧ tools.toml.parse file''.text = .ok tree ∧
        tree.sorted = (rewrite crypto master nonces doc).sorted :=
    migrate_twice hparse hmaster hprint hagain nonces'
  have hmigrated : migrated tools crypto env readFile nonces text backup = file' := by
    rw [migrated, hfirst]
  have hmigrated' :
      migrated tools crypto env readFile nonces' file'.text file'.backup = file'' := by
    rw [migrated, hsecond]
  rw [load_existing, hmigrated, load_existing, hmigrated']
  exact readConfig_congr (htree'.trans htree.symm) _ _

/-- There is no key in the file of the first run, but an entry for one. -/
theorem rewrite_minimalDocument (crypto : Crypto) (master : Option MasterKey)
    (nonces : Nat → List UInt8) :
    rewrite crypto master nonces minimalDocument = withRatelimit minimalDocument :=
  rewrite_of_encrypted (by decide) crypto master nonces

theorem fromDocument_minimalDocument :
    RouterConfig.fromDocument (withRatelimit minimalDocument).sorted =
      .error (.missingField "key") := rfl

/-- What the process of the first run has written is refused by the next one. -/
theorem load_minimal (hminimal : tools.toml.parse minimalText = .ok minimalDocument)
    (hprint : tools.toml.RoundTrips (withRatelimit minimalDocument)) (backup : Option String) :
    (load tools crypto env readFile nonces name ⟨some minimalText, backup⟩).1 =
      .error (failedValidation name [⟨"<root>", tools.message (.missingField "key")⟩]
        "run `token-dealer check` for details") := by
  have hold : ¬ (hasRatelimit minimalDocument && !hasPlaintextKey minimalDocument) = true := by
    decide
  have hread : tools.toml.parse (tools.toml.print (withRatelimit minimalDocument)) =
      .ok (withRatelimit minimalDocument).sorted := hprint
  have herrors : validate tools (tools.toml.print (withRatelimit minimalDocument)) =
      [⟨"<root>", tools.message (.missingField "key")⟩] := by
    rw [validate, hread]
    dsimp only
    rw [fromDocument_minimalDocument]
  rw [load_existing, migrated_rewritten hminimal rfl hold, rewrite_minimalDocument, readConfig,
    herrors]

/-- Starting twice comes to the same exactly when the file was there the first time. -/
theorem load_repeatable_iff {path : ConfigPath}
    (hminimal : tools.toml.parse minimalText = .ok minimalDocument)
    (hmaster : (MasterKey.fromEnvStrict env readFile).toOption = master)
    (hprint : ∀ doc, tools.toml.parse (path.text.getD minimalText) = .ok doc →
      tools.toml.RoundTrips (rewrite crypto master nonces doc) ∧
        tools.toml.RoundTrips (rewrite crypto master nonces doc).sorted) :
    (∀ c, (load tools crypto env readFile nonces name path).1 = .ok c →
      (load tools crypto env readFile nonces' name
        (load tools crypto env readFile nonces name path).2).1 = .ok c) ↔ path.text.isSome := by
  obtain ⟨text, backup⟩ := path
  cases text with
  | none =>
    have hround := (hprint minimalDocument hminimal).1
    rw [rewrite_minimalDocument] at hround
    refine iff_of_false ?_ Bool.false_ne_true
    intro h
    have hagain : (load tools crypto env readFile nonces' name ⟨some minimalText, backup⟩).1 =
        .ok {} := h {} rfl
    rw [load_minimal hminimal hround] at hagain
    cases hagain
  | some text =>
    refine iff_of_true ?_ rfl
    intro c hload
    cases hparse : tools.toml.parse text with
    | error e =>
      have hsame : migrated tools crypto env readFile nonces text backup = ⟨text, backup⟩ := by
        rw [migrated, migrateV01IfNeeded, hparse]
      rw [load_existing, hsame, readConfig_eq_ok, validate, hparse] at hload
      cases hload.1
    | ok doc =>
      obtain ⟨hround, hagain⟩ := hprint doc hparse
      rw [load_existing_again hparse hmaster hround hagain]
      exact hload

end

/-- What the rewrite of the first run's file is printed as. -/
def minimalNewText : String :=
  "[auth]\nenabled = true\n\n[[auth.keys]]\n\n[ratelimit]\nenabled = true\n\n" ++
    "[ratelimit.global]\nburst = 1200\nrefill_per_minute = 600\n\n" ++
    "[ratelimit.per_key]\nburst = 120\nrefill_per_minute = 60\n\n" ++
    "[server]\nbind = \"0.0.0.0:8080\"\nlog_level = \"info\"\n"

/-- The TOML library on the file of the first run and on the old file. -/
def startToml : Toml.Text where
  print doc := if (Table.get "server" doc).isSome then minimalNewText else sampleNewText
  parse s :=
    if s = minimalText then .ok minimalDocument
    else if s = minimalNewText then .ok (withRatelimit minimalDocument).sorted
    else sampleToml.parse s

def startTools : ValidateTools where
  toml := startToml
  display _ := "missing field"
  message _ := "missing field"
  validUrl url := url = ({} : PricingSyncConfig).openrouterUrl

theorem parse_startToml (s : String) : startTools.toml.parse s =
    if s = minimalText then .ok minimalDocument
    else if s = minimalNewText then .ok (withRatelimit minimalDocument).sorted
    else sampleToml.parse s := rfl

theorem parse_startToml_minimal : startTools.toml.parse minimalText = .ok minimalDocument := by
  rw [parse_startToml, if_pos rfl]

theorem roundTrips_startToml_minimal :
    startTools.toml.RoundTrips (withRatelimit minimalDocument) := by
  have hne : minimalNewText ≠ minimalText := by decide +kernel
  have hprint : startTools.toml.print (withRatelimit minimalDocument) = minimalNewText := rfl
  rw [Toml.Text.RoundTrips, hprint, parse_startToml, if_neg hne, if_pos rfl]

theorem parse_startToml_old : startTools.toml.parse sampleOldText = .ok sampleOldDocument := by
  have hne : sampleOldText ≠ minimalText := by decide +kernel
  have hne' : sampleOldText ≠ minimalNewText := by decide +kernel
  rw [parse_startToml, if_neg hne, if_neg hne', parse_sampleOldText]

theorem parse_startToml_new :
    startTools.toml.parse sampleNewText = .ok sampleNewDocument.sorted := by
  have hne : sampleNewText ≠ minimalText := by decide +kernel
  have hne' : sampleNewText ≠ minimalNewText := by decide +kernel
  rw [parse_startToml, if_neg hne, if_neg hne', parse_sampleNewText]

/-- What the old file is read as once it is migrated. -/
def sampleNewConfig : RouterConfig :=
  (RouterConfig.fromDocument sampleNewDocument.sorted).toOption.getD {}

theorem load_sampleOldText :
    (load startTools taggedCrypto sampleEnv (fun _ => none) sampleNonces "token-dealer.toml"
      ⟨some sampleOldText, none⟩).1 = .ok sampleNewConfig := by
  have hold : ¬ (hasRatelimit sampleOldDocument && !hasPlaintextKey sampleOldDocument) = true := by
    decide
  have hprint : startTools.toml.print sampleNewDocument = sampleNewText := rfl
  have hdoc : RouterConfig.fromDocument sampleNewDocument.sorted = .ok sampleNewConfig := rfl
  have hvalid : sampleNewConfig.IsValid startTools.validUrl :=
    checkSemantic_eq_nil_iff.mp (by decide +kernel)
  have hread : fromStr startTools.toml sampleNewText = .ok sampleNewConfig := by
    rw [fromStr, parse_startToml_new]
    exact hdoc
  rw [load_existing, migrated_rewritten parse_startToml_old fromEnvStrict_sample_toOption hold,
    rewrite_tagged, hprint, readConfig_eq_ok]
  exact ⟨validate_eq_nil_iff.mpr ⟨_, _, parse_startToml_new, hdoc, hvalid⟩, hread⟩

/-- An old file is migrated by the first start, and the second one reads the same from it. -/
theorem load_repeatable_sample :
    (load startTools taggedCrypto sampleEnv (fun _ => none) sampleNonces "token-dealer.toml"
        ⟨some sampleOldText, none⟩).1 = .ok sampleNewConfig ∧
      (load startTools taggedCrypto sampleEnv (fun _ => none) sampleNonces "token-dealer.toml"
        (load startTools taggedCrypto sampleEnv (fun _ => none) sampleNonces "token-dealer.toml"
          ⟨some sampleOldText, none⟩).2).1 = .ok sampleNewConfig := by
  have hprint : ∀ doc,
      startTools.toml.parse ((ConfigPath.mk (some sampleOldText) none).text.getD minimalText) =
        .ok doc →
      startTools.toml.RoundTrips (rewrite taggedCrypto (some sampleMaster) sampleNonces doc) ∧
        startTools.toml.RoundTrips
          (rewrite taggedCrypto (some sampleMaster) sampleNonces doc).sorted := by
    intro doc hdoc
    have hsame : startTools.toml.parse sampleOldText = .ok doc := hdoc
    rw [parse_startToml_old] at hsame
    cases hsame
    rw [rewrite_tagged, Toml.Text.RoundTrips, Toml.Text.RoundTrips, Toml.Document.sorted_sorted]
    exact ⟨parse_startToml_new, parse_startToml_new⟩
  exact ⟨load_sampleOldText, (load_repeatable_iff parse_startToml_minimal
    fromEnvStrict_sample_toOption hprint).mpr rfl _ load_sampleOldText⟩

/-- Without a file, the first start goes through and the second one does not. -/
theorem second_start_fails :
    (load startTools taggedCrypto sampleEnv (fun _ => none) sampleNonces "token-dealer.toml"
        ⟨none, none⟩).1 = .ok {} ∧
    (load startTools taggedCrypto sampleEnv (fun _ => none) sampleNonces "token-dealer.toml"
      (load startTools taggedCrypto sampleEnv (fun _ => none) sampleNonces "token-dealer.toml"
        ⟨none, none⟩).2).1 =
      .error ("config at token-dealer.toml failed validation: 1 error(s); " ++
        "run `token-dealer check` for details") :=
  ⟨rfl, (load_minimal parse_startToml_minimal roundTrips_startToml_minimal none).trans rfl⟩

end TokenDealer
