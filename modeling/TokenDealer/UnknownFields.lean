import TokenDealer.ConfigShape
import TokenDealer.Validate

set_option autoImplicit true

namespace TokenDealer

open Toml

structure ConfigWarning where
  path : String
  reason : String
  deriving DecidableEq, Repr

namespace Validate

structure SectionSchema where
  known : List String

inductive ValueSchema where
  | oneSection (schema : SectionSchema)
  | arrayOfSections (schema : SectionSchema)
  | mapOfSections (schema : SectionSchema)

open ValueSchema

def knownTopLevel : List String :=
  ["server", "oauth_redirect_uri", "auth", "database", "providers", "tiers", "tier_keys",
    "detection", "retry", "streaming", "specificity", "budgets", "pricing_sync", "discovery",
    "log_retention_days", "ratelimit"]

def sections : List (String × ValueSchema) :=
  [("server", oneSection ⟨["bind", "log_level", "oauth_redirect_uri"]⟩),
    ("auth", oneSection ⟨["enabled", "admin_key", "admin_password", "keys"]⟩),
    ("database", oneSection ⟨["path"]⟩),
    ("providers", arrayOfSections ⟨["id", "type", "key", "base_url", "default_model", "path"]⟩),
    ("tiers", mapOfSections ⟨["primary", "fallbacks", "allow_tier_downgrade", "downgrade_to",
      "min_context_window", "timeouts"]⟩),
    ("tier_keys", oneSection ⟨[]⟩),
    ("detection", oneSection ⟨["default_tier", "session_window_minutes", "session_lookback",
      "rules"]⟩),
    ("retry", oneSection ⟨["max_same_provider_retries", "fixed_retry_wait_ms",
      "max_retry_after_ms", "request_budget_ms"]⟩),
    ("streaming", oneSection ⟨["buffer_threshold_tokens"]⟩),
    ("specificity", oneSection ⟨["enabled", "rules"]⟩),
    ("budgets", oneSection ⟨["daily_cost_usd", "per_request_cost_usd", "warn_fraction"]⟩),
    ("pricing_sync", oneSection ⟨["enabled", "interval_hours", "openrouter_url"]⟩),
    ("discovery", oneSection ⟨["enabled", "auto_assign_tiers", "min_input_price_per_1m"]⟩),
    ("ratelimit", oneSection ⟨["enabled", "global", "per_key"]⟩)]

/-- The schema of a section, by the name it has in the document. -/
def sectionSchema (name : String) : Option ValueSchema := Table.get name sections

def nestedSections : List ((String × String) × ValueSchema) :=
  [(("auth", "keys"), arrayOfSections ⟨["key", "name"]⟩),
    (("detection", "rules"), arrayOfSections ⟨["if", "tier"]⟩),
    (("specificity", "rules"), arrayOfSections ⟨["category", "primary", "threshold"]⟩),
    (("tiers", "fallbacks"), oneSection ⟨[]⟩),
    (("tiers", "timeouts"), oneSection ⟨["connect_ms", "read_ms", "per_attempt_ms"]⟩),
    (("ratelimit", "global"), oneSection ⟨["refill_per_minute", "burst"]⟩),
    (("ratelimit", "per_key"), oneSection ⟨["refill_per_minute", "burst"]⟩)]

def nested (parent key : String) : Option ValueSchema :=
  (nestedSections.find? fun entry => entry.1 = (parent, key)).map Prod.snd

mutual

def walkValue (path : String) (schema : ValueSchema) : Value → List ConfigWarning
  | .table members =>
    match schema with
    | oneSection s => walkMembers path s members
    | arrayOfSections _ => []
    | mapOfSections s => walkEntries path s members
  | .array items =>
    match schema with
    | arrayOfSections s => walkItems path s 0 items
    | _ => []
  | _ => []

def walkSection (path : String) (schema : SectionSchema) : Value → List ConfigWarning
  | .table members => walkMembers path schema members
  | _ => []

/-- The sections of an array. -/
def walkItems (path : String) (schema : SectionSchema) : Nat → List Value → List ConfigWarning
  | _, [] => []
  | idx, item :: rest =>
    walkSection s!"{path}[{idx}]" schema item ++ walkItems path schema (idx + 1) rest

/-- The sections of a table with free keys. -/
def walkEntries (path : String) (schema : SectionSchema) :
    List (String × Value) → List ConfigWarning
  | [] => []
  | (key, v) :: rest =>
    walkSection s!"{path}.{key}" schema v ++ walkEntries path schema rest

/-- The members of one section. -/
def walkMembers (path : String) (schema : SectionSchema) :
    List (String × Value) → List ConfigWarning
  | [] => []
  | (key, v) :: rest =>
    (if key ∈ schema.known then
      match nested path key with
      | some inner => walkValue s!"{path}.{key}" inner v
      | none => []
    else [⟨s!"{path}.{key}", "unknown field"⟩]) ++ walkMembers path schema rest

end

def collectUnknownFields : Document → List ConfigWarning
  | [] => []
  | (key, v) :: rest =>
    (if key ∈ knownTopLevel then
      match sectionSchema key with
      | some schema => walkValue key schema v
      | none => []
    else [⟨key, "unknown top-level field"⟩]) ++ collectUnknownFields rest

/-- Below the sections of the document the walker finds no schema any more. -/
def Innermost (path : String) : Prop := ∀ key, nested path key = none

theorem innermost_of_mem {c : Char} (hc : ∀ entry ∈ nestedSections, c ∉ entry.1.1.toList)
    (h : c ∈ path.toList) : Innermost path := by
  intro key
  have hnone : nestedSections.find? (fun entry => entry.1 = (path, key)) = none := by
    rw [List.find?_eq_none]
    intro entry hentry heq
    apply hc entry hentry
    rw [of_decide_eq_true heq]
    exact h
  rw [nested, hnone]
  rfl

theorem innermost_key (path key : String) : Innermost s!"{path}.{key}" := by
  apply innermost_of_mem (c := '.') (by decide)
  rw [Shape.toList_key]
  exact List.mem_append_right _ List.mem_cons_self

theorem innermost_item (path : String) (idx : Nat) : Innermost s!"{path}[{idx}]" := by
  apply innermost_of_mem (c := '[') (by decide)
  rw [Shape.toList_item]
  exact List.mem_append_right _ List.mem_cons_self

def SectionSchema.flat (s : SectionSchema) : Shape := .record (s.known.map fun key => (key, .leaf))

def ValueSchema.flat : ValueSchema → Shape
  | oneSection s => s.flat
  | arrayOfSections s => .list s.flat
  | mapOfSections s => .map s.flat

/-- The walker takes one section for its members, and an array or a table of them one by one. -/
theorem walkValue_eq (path : String) (schema : ValueSchema) (v : Value) :
    walkValue path schema v =
      match schema with
      | oneSection s => walkSection path s v
      | arrayOfSections s => walkItems path s 0 v.items
      | mapOfSections s => walkEntries path s v.members := by
  cases schema <;> cases v <;> rfl

section

variable {path : String}

theorem walkMembers_flat (h : Innermost path) (s : SectionSchema) (members : Document) :
    (walkMembers path s members).map ConfigWarning.path =
      Shape.ignoredMembers (s.known.map fun key => (key, .leaf)) (fun key => s!"{path}.{key}")
        members := by
  induction members with
  | nil => rfl
  | cons m rest ih =>
    obtain ⟨key, v⟩ := m
    rw [walkMembers, Shape.ignoredMembers, List.map_append, ih, h key, Table.get_keys]
    by_cases hkey : key ∈ s.known
    · rw [if_pos hkey, if_pos hkey]
      dsimp only
      rw [Shape.ignored_leaf]
      rfl
    · rw [if_neg hkey, if_neg hkey]
      rfl

theorem walkSection_flat (h : Innermost path) (s : SectionSchema) (v : Value) :
    (walkSection path s v).map ConfigWarning.path = s.flat.ignored path v := by
  cases v with
  | table members =>
    rw [walkSection, SectionSchema.flat, Shape.ignored]
    exact walkMembers_flat h s members
  | _ => rfl

theorem walkItems_flat (s : SectionSchema) (idx : Nat) (items : List Value) :
    (walkItems path s idx items).map ConfigWarning.path =
      Shape.ignoredItems s.flat path idx items := by
  induction items generalizing idx with
  | nil => rfl
  | cons item rest ih =>
    rw [walkItems, Shape.ignoredItems, List.map_append, ih,
      walkSection_flat (innermost_item path idx)]

theorem walkEntries_flat (s : SectionSchema) (members : Document) :
    (walkEntries path s members).map ConfigWarning.path =
      Shape.ignoredEntries s.flat path members := by
  induction members with
  | nil => rfl
  | cons m rest ih =>
    obtain ⟨key, v⟩ := m
    rw [walkEntries, Shape.ignoredEntries, List.map_append, ih,
      walkSection_flat (innermost_key path key)]

/-- What the walker knows of an array or a table of sections. -/
theorem walkValue_arrayOfSections (s : SectionSchema) (v : Value) :
    (walkValue path (arrayOfSections s) v).map ConfigWarning.path =
      (Shape.list s.flat).ignored path v := by
  rw [walkValue_eq]
  dsimp only
  cases v with
  | array items => exact walkItems_flat s 0 items
  | _ => rfl

theorem walkValue_mapOfSections (s : SectionSchema) (v : Value) :
    (walkValue path (mapOfSections s) v).map ConfigWarning.path =
      (Shape.map s.flat).ignored path v := by
  rw [walkValue_eq]
  dsimp only
  cases v with
  | table members => exact walkEntries_flat s members
  | _ => rfl

theorem walkValue_flat (h : Innermost path) (schema : ValueSchema) (v : Value) :
    (walkValue path schema v).map ConfigWarning.path = schema.flat.ignored path v := by
  cases schema with
  | oneSection s =>
    rw [walkValue_eq]
    exact walkSection_flat h s v
  | arrayOfSections s => exact walkValue_arrayOfSections s v
  | mapOfSections s => exact walkValue_mapOfSections s v

end

/-- What the walker knows of a section of the document. -/
def describedSection (name : String) : ValueSchema → Shape
  | oneSection s => .record (s.known.map fun key =>
      (key, (nested name key).elim .leaf ValueSchema.flat))
  | arrayOfSections s => .list s.flat
  | mapOfSections s => .map s.flat

theorem walkValue_described (name : String) (schema : ValueSchema) (v : Value) :
    (walkValue name schema v).map ConfigWarning.path =
      (describedSection name schema).ignored name v := by
  cases schema with
  | oneSection s =>
    rw [walkValue_eq, describedSection]
    dsimp only
    cases v with
    | table members =>
      rw [walkSection, Shape.ignored]
      induction members with
      | nil => rfl
      | cons m rest ih =>
        obtain ⟨key, v⟩ := m
        rw [walkMembers, Shape.ignoredMembers, List.map_append, ih, Table.get_keys]
        by_cases hkey : key ∈ s.known
        · rw [if_pos hkey, if_pos hkey]
          cases nested name key with
          | none =>
            dsimp only [Option.elim]
            rw [Shape.ignored_leaf]
            rfl
          | some inner => exact congrArg (· ++ _) (walkValue_flat (innermost_key name key) inner v)
        · rw [if_neg hkey, if_neg hkey]
          rfl
    | _ => rfl
  | arrayOfSections s => exact walkValue_arrayOfSections s v
  | mapOfSections s => exact walkValue_mapOfSections s v

/-- What the walker knows of the whole document. -/
def described : List (String × Shape) :=
  knownTopLevel.map fun name =>
    (name, (sectionSchema name).elim .leaf (describedSection name))

theorem collectUnknownFields_described (doc : Document) :
    (collectUnknownFields doc).map ConfigWarning.path = Shape.ignoredMembers described id doc := by
  induction doc with
  | nil => rfl
  | cons m rest ih =>
    obtain ⟨key, v⟩ := m
    rw [collectUnknownFields, Shape.ignoredMembers, List.map_append, ih, described, Table.get_keys]
    by_cases hkey : key ∈ knownTopLevel
    · rw [if_pos hkey, if_pos hkey]
      cases sectionSchema key with
      | none =>
        dsimp only [Option.elim]
        rw [Shape.ignored_leaf]
        rfl
      | some schema => exact congrArg (· ++ _) (walkValue_described key schema v)
    · rw [if_neg hkey, if_neg hkey]
      rfl

def describedAuth : List (String × Shape) :=
  [("enabled", .leaf), ("admin_key", .leaf), ("admin_password", .leaf),
    ("keys", .list (.record AuthKey.shape))]

def describedTier : List (String × Shape) :=
  [("primary", .leaf), ("fallbacks", .leaf), ("allow_tier_downgrade", .leaf),
    ("downgrade_to", .leaf), ("min_context_window", .leaf), ("timeouts", .leaf)]

def describedRule : List (String × Shape) := [("if", .leaf), ("tier", .leaf)]

def describedDetection : List (String × Shape) :=
  [("default_tier", .leaf), ("session_window_minutes", .leaf), ("session_lookback", .leaf),
    ("rules", .list (.record describedRule))]

theorem get_described_auth : Table.get "auth" described = some (.record describedAuth) := rfl

theorem get_described_tiers : Table.get "tiers" described = some (.map (.record describedTier)) :=
  rfl

theorem get_described_tierKeys : Table.get "tier_keys" described = some (.record []) := rfl

theorem get_described_detection :
    Table.get "detection" described = some (.record describedDetection) := rfl

theorem described_eq : described =
    [("server", .record ServerConfig.shape), ("oauth_redirect_uri", .leaf),
      ("auth", .record describedAuth), ("database", .record DatabaseConfig.shape),
      ("providers", .list (.record ProviderConfig.shape)),
      ("tiers", .map (.record describedTier)), ("tier_keys", .record []),
      ("detection", .record describedDetection)] ++ RouterConfig.operationShape := rfl

theorem get_cons_congr {k : String} {s t : Shape} {fs gs : List (String × Shape)}
    (h : k ≠ key ∨ s = t) (hrest : Table.get key fs = Table.get key gs) :
    Table.get key ((k, s) :: fs) = Table.get key ((k, t) :: gs) := by
  rw [Table.get, Table.get, hrest]
  cases h with
  | inl hk => rw [if_neg hk, if_neg hk]
  | inr hs => rw [hs]

theorem get_described_of_ne (hauth : "auth" ≠ key) (htiers : "tiers" ≠ key)
    (hkeys : "tier_keys" ≠ key) (hdetection : "detection" ≠ key) :
    Table.get key described = Table.get key RouterConfig.shape := by
  rw [described_eq, RouterConfig.shape, Table.get_append, Table.get_append,
    RouterConfig.routingShape]
  apply congrArg (Option.or · _)
  apply get_cons_congr (.inr rfl)
  apply get_cons_congr (.inr rfl)
  apply get_cons_congr (.inl hauth)
  apply get_cons_congr (.inr rfl)
  apply get_cons_congr (.inr rfl)
  apply get_cons_congr (.inl htiers)
  apply get_cons_congr (.inl hkeys)
  exact get_cons_congr (.inl hdetection) rfl

end Validate

end TokenDealer
