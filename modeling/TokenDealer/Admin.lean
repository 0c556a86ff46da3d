import TokenDealer.ConfigUpdate
import TokenDealer.Registry
import TokenDealer.ValidConfig

set_option autoImplicit true

namespace TokenDealer

namespace ProviderRegistry

/-- What is already registered under the identifier is replaced. -/
def add (registry : ProviderRegistry) (cfg : ProviderConfig) : Except String ProviderRegistry := do
  let adapter ← buildAdapter cfg
  pure (Function.update registry cfg.id (some adapter))

def remove (registry : ProviderRegistry) (id : String) : Bool × ProviderRegistry :=
  ((registry id).isSome, Function.update registry id none)

end ProviderRegistry

structure AppState where
  config : ConfigStore
  registry : ProviderRegistry

structure AdminResponse where
  status : Nat
  body : Json.Value

namespace AdminResponse

def ok (status : Nat) (members : List (String × Json.Value)) : AdminResponse :=
  ⟨status, .object members⟩

def error (status : Nat) (message : String) : AdminResponse :=
  ⟨status, .object [("error", .string message)]⟩

def IsSuccess (r : AdminResponse) : Prop := r.status < 300

end AdminResponse

/-- A number has to fit a signed 64-bit integer to be saved. -/
def SaveError.message : SaveError → String
  | .serialize .outOfRange => "out-of-range value for u64 type"
  | .write message => message

structure TierUpdate where
  primary : String
  fallbacks : List String := []
  allowTierDowngrade : Bool := false
  downgradeTo : Option String := none
  minContextWindow : Option UInt32 := none
  timeouts : Option TierTimeoutsSet := none
  deriving DecidableEq, Repr

def TierUpdate.toTier (body : TierUpdate) : TierConfig where
  primary := body.primary
  fallbacks := body.fallbacks
  allowTierDowngrade := body.allowTierDowngrade
  downgradeTo := body.downgradeTo
  minContextWindow := body.minContextWindow
  timeouts := body.timeouts.getD {}

/-- With an index, the rule at that index is replaced. -/
structure AddRuleRequest where
  index : Option Nat := none
  hasTools : Option Bool := none
  inputTokensGt : Option UInt32 := none
  promptContains : Option (List String) := none
  tier : String
  deriving DecidableEq, Repr

def AddRuleRequest.toRule (body : AddRuleRequest) : DetectionRule where
  condition := ⟨body.hasTools, body.inputTokensGt, body.promptContains⟩
  tier := body.tier

/-- An entry with the same identifier is removed, then the new one appended. -/
def RouterConfig.putProvider (body : ProviderConfig) (cfg : RouterConfig) : RouterConfig :=
  { cfg with providers := (cfg.providers.filter fun p => p.id ≠ body.id) ++ [body] }

def RouterConfig.dropProvider (id : String) (cfg : RouterConfig) : RouterConfig :=
  { cfg with providers := cfg.providers.filter fun p => p.id ≠ id }

def RouterConfig.putTier (name : String) (tier : TierConfig) (cfg : RouterConfig) : RouterConfig :=
  { cfg with tiers := Table.set name tier cfg.tiers }

def RouterConfig.putRule (index : Option Nat) (rule : DetectionRule) (cfg : RouterConfig) :
    RouterConfig :=
  let rules := cfg.detection.rules
  let rules := match index with
    | some i => if i < rules.length then rules.set i rule else rules ++ [rule]
    | none => rules ++ [rule]
  { cfg with detection := { cfg.detection with rules := rules } }

def RouterConfig.dropRule (index : Nat) (cfg : RouterConfig) : RouterConfig :=
  let rules := cfg.detection.rules
  let rules := if index < rules.length then rules.eraseIdx index else rules
  { cfg with detection := { cfg.detection with rules := rules } }

open ConfigService

namespace Admin

section

variable (toml : Toml.Text) (outcome : WriteOutcome)

/-- The update of a handler, and how the handler goes on when it is saved. When it is not, the
configuration in memory has changed all the same. -/
def updating (f : RouterConfig → RouterConfig) (s : AppState)
    (after : ConfigStore → AdminResponse × AppState) : AdminResponse × AppState :=
  let (result, config) := updateWith toml outcome f s.config
  match result with
  | .error e => (.error 500 ("save failed: " ++ e.message), ⟨config, s.registry⟩)
  | .ok _ => after config

/-- What is left to do when the new configuration is saved. -/
def register (body : ProviderConfig) (registry : ProviderRegistry) (config : ConfigStore) :
    AdminResponse × AppState :=
  match registry.add body with
  | .error e => (.error 500 e, ⟨config, registry⟩)
  | .ok registry =>
    (.ok 201 [("status", .string "added"), ("id", .string body.id)], ⟨config, registry⟩)

def addProvider (body : ProviderConfig) (s : AppState) : AdminResponse × AppState :=
  updating toml outcome (RouterConfig.putProvider body) s (register body s.registry)

def unregister (id : String) (registry : ProviderRegistry) (config : ConfigStore) :
    AdminResponse × AppState :=
  let (removed, registry) := registry.remove id
  if removed then
    (.ok 200 [("status", .string "removed"), ("id", .string id)], ⟨config, registry⟩)
  else (.error 404 s!"provider {id} not found", ⟨config, registry⟩)

def removeProvider (id : String) (s : AppState) : AdminResponse × AppState :=
  if id = "" then (.error 400 "id required", s)
  else updating toml outcome (RouterConfig.dropProvider id) s (unregister id s.registry)

def updateTier (tier : String) (body : TierUpdate) (s : AppState) : AdminResponse × AppState :=
  match Tier.parse tier with
  | none => (.error 400 s!"unknown tier: {tier}", s)
  | some _ =>
    updating toml outcome (RouterConfig.putTier tier body.toTier) s fun config =>
      (.ok 200 [("status", .string "updated"), ("tier", .string tier)], ⟨config, s.registry⟩)

def addRule (body : AddRuleRequest) (s : AppState) : AdminResponse × AppState :=
  match Tier.parse body.tier with
  | none => (.error 400 s!"unknown tier: {body.tier}", s)
  | some _ =>
    updating toml outcome (RouterConfig.putRule body.index body.toRule) s fun config =>
      (.ok 200 [("status", .string "ok")], ⟨config, s.registry⟩)

def deleteRule (index : Nat) (s : AppState) : AdminResponse × AppState :=
  updating toml outcome (RouterConfig.dropRule index) s fun config =>
    (.ok 200 [("status", .string "deleted"), ("index", .number (.posInt (UInt64.ofNat index)))],
      ⟨config, s.registry⟩)

end

end Admin

/-- The requests that edit providers, tiers and rules. -/
inductive AdminOp where
  | addProvider (body : ProviderConfig)
  | removeProvider (id : String)
  | updateTier (tier : String) (body : TierUpdate)
  | addRule (body : AddRuleRequest)
  | deleteRule (index : Nat)
  deriving DecidableEq, Repr

namespace AdminOp

def handle (toml : Toml.Text) (outcome : WriteOutcome) : AdminOp → AppState →
    AdminResponse × AppState
  | addProvider body => Admin.addProvider toml outcome body
  | removeProvider id => Admin.removeProvider toml outcome id
  | updateTier tier body => Admin.updateTier toml outcome tier body
  | addRule body => Admin.addRule toml outcome body
  | deleteRule index => Admin.deleteRule toml outcome index

/-- What a request makes of the configuration when it is not refused. -/
def mutation : AdminOp → RouterConfig → RouterConfig
  | addProvider body => RouterConfig.putProvider body
  | removeProvider id => RouterConfig.dropProvider id
  | updateTier tier body => RouterConfig.putTier tier body.toTier
  | addRule body => RouterConfig.putRule body.index body.toRule
  | deleteRule index => RouterConfig.dropRule index

end AdminOp

namespace ConfigService

/-- A text that the validator accepts reads as a valid configuration. -/
theorem isValid_of_validate {tools : ValidateTools} (hvalid : validate tools text = [])
    (hread : fromStr tools.toml text = .ok c) : c.IsValid tools.validUrl := by
  obtain ⟨doc, c', hparse, hdoc, hc'⟩ := validate_eq_nil_iff.mp hvalid
  have hsame : fromStr tools.toml text = .ok c' := by
    rw [fromStr, hparse]
    exact hdoc
  rw [hread] at hsame
  cases hsame
  exact hc'

/-- A text that configurations are printed as is accepted when it can be read back. -/
theorem validate_print {tools : ValidateTools} {c : RouterConfig}
    (hvalid : c.IsValid tools.validUrl) (hdoc : c.toDocument = .ok doc)
    (hprint : tools.toml.RoundTrips doc) :
    validate tools (tools.toml.print doc) = [] :=
  validate_eq_nil_iff.mpr ⟨doc.sorted, c.canon, hprint, RouterConfig.fromDocument_toDocument hdoc,
    RouterConfig.canon_isValid.mpr hvalid⟩

theorem validate_savedText {tools : ValidateTools} {c : RouterConfig}
    (htools : tools.toml = savedToml configs) (hvalid : c.IsValid tools.validUrl)
    (hdoc : c.toDocument = .ok (savedDocument c)) (hdistinct : (configs.map savedText).Nodup)
    (hc : c ∈ configs) : validate tools (savedText c) = [] := by
  have hround : tools.toml.RoundTrips (savedDocument c) := by
    rw [htools]
    exact savedToml_roundTrips hdistinct hc
  have hprint : savedText c = tools.toml.print (savedDocument c) := by
    rw [htools]
    rfl
  rw [hprint]
  exact validate_print hvalid hdoc hround

/-- A configuration is saved when it has a document and the write goes through. -/
def Saves (outcome : WriteOutcome) (c : RouterConfig) : Prop :=
  outcome = .written ∧ ∃ doc, c.toDocument = .ok doc

theorem saveToDisk_of_saves (h : Saves outcome c) (toml : Toml.Text) (disk : Option String) :
    ∃ doc, c.toDocument = .ok doc ∧
      saveToDisk toml outcome c disk = (.ok (), some (toml.print doc)) := by
  obtain ⟨rfl, doc, hdoc⟩ := h
  exact ⟨doc, hdoc, by rw [saveToDisk, hdoc]⟩

theorem saveToDisk_of_not_saves (h : ¬ Saves outcome c) (toml : Toml.Text)
    (disk : Option String) : ∃ e left, saveToDisk toml outcome c disk = (.error e, left) := by
  rw [saveToDisk]
  cases hdoc : c.toDocument with
  | error e => exact ⟨_, _, rfl⟩
  | ok doc =>
    cases outcome with
    | written => exact absurd ⟨rfl, doc, hdoc⟩ h
    | failed message left => exact ⟨_, _, rfl⟩

end ConfigService

namespace Admin

variable {outcome : WriteOutcome} {f : RouterConfig → RouterConfig} {s : AppState}

theorem updating_of_saves (h : Saves outcome (f s.config.memory)) (toml : Toml.Text)
    (after : ConfigStore → AdminResponse × AppState) :
    ∃ doc, (f s.config.memory).toDocument = .ok doc ∧
      updating toml outcome f s after = after ⟨f s.config.memory, some (toml.print doc)⟩ := by
  obtain ⟨doc, hdoc, hsaved⟩ := saveToDisk_of_saves h toml s.config.disk
  refine ⟨doc, hdoc, ?_⟩
  rw [updating, updateWith, hsaved]
  rfl

theorem updating_of_not_saves (h : ¬ Saves outcome (f s.config.memory)) (toml : Toml.Text)
    (after : ConfigStore → AdminResponse × AppState) :
    ∃ message disk, updating toml outcome f s after =
      (.error 500 message, ⟨⟨f s.config.memory, disk⟩, s.registry⟩) := by
  obtain ⟨e, disk, hsaved⟩ := saveToDisk_of_not_saves h toml s.config.disk
  refine ⟨"save failed: " ++ e.message, disk, ?_⟩
  rw [updating, updateWith, hsaved]
  rfl

theorem not_isSuccess_error (h : 300 ≤ status) (message : String) :
    ¬ (AdminResponse.error status message).IsSuccess :=
  Nat.not_lt.mpr h

/-- A handler succeeds only where its update is saved. -/
theorem updating_isSuccess {toml : Toml.Text} {after : ConfigStore → AdminResponse × AppState}
    (hconfig : ∀ config, (after config).2.config = config)
    (h : (updating toml outcome f s after).1.IsSuccess) :
    (updating toml outcome f s after).2.config.memory = f s.config.memory ∧
      SavedAs toml (updating toml outcome f s after).2.config.disk (f s.config.memory) := by
  by_cases hsaves : Saves outcome (f s.config.memory)
  · obtain ⟨doc, hdoc, hafter⟩ := updating_of_saves hsaves toml after
    rw [hafter, hconfig]
    exact ⟨rfl, doc, hdoc, rfl⟩
  · obtain ⟨message, disk, hfailed⟩ := updating_of_not_saves hsaves toml after
    rw [hfailed] at h
    exact absurd h (not_isSuccess_error (by decide) message)

end Admin

/-- What a successful request has done: its change is in memory and on disk. -/
theorem AdminOp.handle_isSuccess {toml : Toml.Text} {outcome : WriteOutcome} {op : AdminOp}
    {s : AppState} (h : (op.handle toml outcome s).1.IsSuccess) :
    (op.handle toml outcome s).2.config.memory = op.mutation s.config.memory ∧
      SavedAs toml (op.handle toml outcome s).2.config.disk (op.mutation s.config.memory) := by
  cases op with
  | addProvider body =>
    refine Admin.updating_isSuccess (fun config => ?_) h
    rw [Admin.register]
    cases s.registry.add body <;> rfl
  | removeProvider id =>
    rw [handle, Admin.removeProvider] at h ⊢
    by_cases hid : id = ""
    · rw [if_pos hid] at h
      exact absurd h (Admin.not_isSuccess_error (by decide) _)
    · rw [if_neg hid] at h ⊢
      refine Admin.updating_isSuccess ?_ h
      intro config
      rw [Admin.unregister]
      dsimp only
      split <;> rfl
  | updateTier tier body =>
    rw [handle, Admin.updateTier] at h ⊢
    cases htier : Tier.parse tier with
    | none =>
      rw [htier] at h
      exact absurd h (Admin.not_isSuccess_error (by decide) _)
    | some t =>
      rw [htier] at h
      exact Admin.updating_isSuccess (fun _ => rfl) h
  | addRule body =>
    rw [handle, Admin.addRule] at h ⊢
    cases htier : Tier.parse body.tier with
    | none =>
      rw [htier] at h
      exact absurd h (Admin.not_isSuccess_error (by decide) _)
    | some t =>
      rw [htier] at h
      exact Admin.updating_isSuccess (fun _ => rfl) h
  | deleteRule index => exact Admin.updating_isSuccess (fun _ => rfl) h

end TokenDealer
