import TokenDealer.ConfigService
import TokenDealer.TomlCodec

set_option autoImplicit true

namespace TokenDealer

open Toml

def ServerConfig.fields : Fields ServerConfig :=
  ((Fields.required "bind" .str).and
    ((Fields.withDefault "log_level" .str "info").and
      (Fields.withDefault "oauth_redirect_uri" .str "") (by decide)) (by decide)).map
    (fun (bind, logLevel, uri) => ⟨bind, logLevel, uri⟩)
    (fun c => (c.bind, c.logLevel, c.oauthRedirectUri)) id fun _ => rfl

def AuthKey.toToml (k : AuthKey) : Value :=
  .table [("key", .string k.key), ("name", .string k.name)]

theorem AuthKey.fromToml_toToml (k : AuthKey) : AuthKey.fromToml k.toToml = .ok k := rfl

theorem required_sorted {read : Value → Option α} (hread : ∀ v, read v.sorted = read v)
    (members : List (String × Value)) (name : String) :
    Toml.required (Table.sort (Value.sortedMembers members)) name read =
      Toml.required members name read := by
  rw [Toml.required, Toml.required, Table.get_sort, Fields.get_sortedMembers]
  cases Table.get name members with
  | none => rfl
  | some v =>
    rw [Option.map_some]
    dsimp only
    rw [hread]

theorem optional_sorted {read : Value → Option α} (hread : ∀ v, read v.sorted = read v)
    (members : List (String × Value)) (name : String) :
    Toml.optional (Table.sort (Value.sortedMembers members)) name read =
      Toml.optional members name read := by
  rw [Toml.optional, Toml.optional, Table.get_sort, Fields.get_sortedMembers]
  cases Table.get name members with
  | none => rfl
  | some v =>
    rw [Option.map_some]
    dsimp only
    rw [hread]

theorem AuthKey.fromToml_sorted (v : Value) : AuthKey.fromToml v.sorted = AuthKey.fromToml v := by
  cases v with
  | table members =>
    rw [Value.sorted, AuthKey.fromToml, AuthKey.fromToml, required_sorted Codec.asStr_sorted,
      required_sorted Codec.asStr_sorted]
  | _ => rfl

def AuthKey.codec : Codec AuthKey where
  encode k := .ok k.toToml
  decode := AuthKey.fromToml
  canon := id
  decode_encode h := by
    cases h
    rfl
  decode_sorted := AuthKey.fromToml_sorted

def AuthConfig.toToml (auth : AuthConfig) : Value :=
  .table
    ([("enabled", .boolean auth.enabled)] ++
      ((auth.adminKey.map fun key => ("admin_key", Value.string key)).toList ++
        [("keys", .array (auth.keys.map AuthKey.toToml))]))

theorem AuthConfig.fromToml_toToml (auth : AuthConfig) :
    AuthConfig.fromToml auth.toToml = .ok auth := by
  have hkeys : (auth.keys.map AuthKey.toToml).mapM AuthKey.fromToml = .ok auth.keys := by
    induction auth.keys with
    | nil => rfl
    | cons k keys ih =>
      rw [List.map_cons, List.mapM_cons, AuthKey.fromToml_toToml, ih]
      rfl
  refine AuthConfig.fromToml_table.mpr ⟨rfl, ?_, some (auth.keys.map AuthKey.toToml), ?_, hkeys⟩
  · cases auth.adminKey <;> rfl
  · cases auth.adminKey <;> rfl

theorem optional_array_sorted (members : List (String × Value)) (name : String) :
    Toml.optional (Table.sort (Value.sortedMembers members)) name Value.asArray =
      (Toml.optional members name Value.asArray).map (Option.map (List.map Value.sorted)) := by
  rw [Toml.optional, Toml.optional, Table.get_sort, Fields.get_sortedMembers]
  cases Table.get name members with
  | none => rfl
  | some v =>
    cases v with
    | array items =>
      rw [Option.map_some, Value.sorted, Value.sortedItems_eq_map]
      rfl
    | _ => rfl

theorem AuthConfig.fromToml_sorted (v : Value) :
    AuthConfig.fromToml v.sorted = AuthConfig.fromToml v := by
  cases v with
  | table members =>
    rw [Value.sorted, AuthConfig.fromToml, AuthConfig.fromToml,
      required_sorted Codec.asBool_sorted, optional_sorted Codec.asStr_sorted,
      optional_array_sorted]
    cases Toml.optional members "keys" Value.asArray with
    | error e => rfl
    | ok items =>
      cases items with
      | none => rfl
      | some items =>
        have hitems := AuthKey.codec.mapM_decode_sorted items
        dsimp only [Except.map, Option.map_some, Option.getD_some, bind, Except.bind]
        rw [show (items.map Value.sorted).mapM AuthKey.fromToml = items.mapM AuthKey.fromToml from
          hitems]
  | _ => rfl

/-- The auth section does not depend on the order in which the document has its members. -/
theorem authFromDocument_sorted (doc : Document) :
    authFromDocument doc.sorted = authFromDocument doc := by
  rw [authFromDocument, authFromDocument, Document.get_sorted]
  cases Table.get "auth" doc with
  | none => rfl
  | some v => exact AuthConfig.fromToml_sorted v

def AuthConfig.codec : Codec AuthConfig where
  encode auth := .ok auth.toToml
  decode := AuthConfig.fromToml
  canon := id
  decode_encode {auth v} h := by
    cases h
    exact auth.fromToml_toToml
  decode_sorted := AuthConfig.fromToml_sorted

def DatabaseConfig.fields : Fields DatabaseConfig :=
  (Fields.required "path" .str).map (fun path => ⟨path⟩) DatabaseConfig.path id fun _ => rfl

namespace ProviderType

def asStr : ProviderType → String
  | anthropic => "anthropic"
  | google => "google"
  | kiro => "kiro"
  | responses => "responses"
  | generic => "generic"
  | openai => "openai"
  | openrouter => "openrouter"
  | tokenrouter => "tokenrouter"
  | groq => "groq"
  | deepseek => "deepseek"
  | fireworks => "fireworks"
  | mistral => "mistral"
  | xai => "xai"
  | qwen => "qwen"
  | moonshot => "moonshot"
  | zai => "zai"
  | xiaomi => "xiaomi"
  | minimax => "minimax"
  | byteplus => "byteplus"
  | nvidia => "nvidia"
  | opencodeGo => "opencode-go"
  | opencodeZen => "opencode-zen"
  | kilo => "kilo"
  | commandcode => "commandcode"
  | githubCopilot => "github-copilot"
  | gitlawb => "gitlawb"
  | ollama => "ollama"
  | ollamaCloud => "ollama-cloud"
  | llamaCpp => "llama-cpp"
  | lmStudio => "lm-studio"

def all : List ProviderType :=
  [anthropic, google, kiro, responses, generic, openai, openrouter, tokenrouter, groq, deepseek,
    fireworks, mistral, xai, qwen, moonshot, zai, xiaomi, minimax, byteplus, nvidia, opencodeGo,
    opencodeZen, kilo, commandcode, githubCopilot, gitlawb, ollama, ollamaCloud, llamaCpp, lmStudio]

/-- A provider type by its name in the file, which takes no aliases. -/
def ofStr (s : String) : Option ProviderType := all.find? fun t => t.asStr = s

theorem ofStr_asStr (t : ProviderType) : ofStr t.asStr = some t := by
  cases t <;> decide

def codec : Codec ProviderType := .enum asStr ofStr ofStr_asStr

end ProviderType

/-- A text field that may be missing. -/
def optionalStr (name : String) : Fields (Option String) := .optional name .str fun _ => rfl

def optionalU32 (name : String) : Fields (Option UInt32) := .optional name .u32 fun _ => rfl

def optionalU64 (name : String) : Fields (Option UInt64) := .optional name .u64 fun _ => rfl

def strings : Codec (List String) := Codec.str.listOf fun _ => rfl

def ProviderConfig.fields : Fields ProviderConfig :=
  ((Fields.required "id" .str).and
    ((Fields.withDefault "type" ProviderType.codec .generic).and
      ((optionalStr "key").and
        ((optionalStr "base_url").and
          ((optionalStr "default_model").and (optionalStr "path") (by decide)) (by decide))
          (by decide)) (by decide)) (by decide)).map
    (fun (id, providerType, key, baseUrl, defaultModel, path) =>
      ⟨id, providerType, key, baseUrl, defaultModel, path⟩)
    (fun p => (p.id, p.providerType, p.key, p.baseUrl, p.defaultModel, p.path)) (fun p => p)
    fun _ => rfl

def TierTimeoutsSet.fields : Fields TierTimeoutsSet :=
  ((optionalU64 "connect_ms").and
    ((optionalU64 "read_ms").and (optionalU64 "per_attempt_ms") (by decide)) (by decide)).map
    (fun (connectMs, readMs, perAttemptMs) => ⟨connectMs, readMs, perAttemptMs⟩)
    (fun t => (t.connectMs, t.readMs, t.perAttemptMs)) id fun _ => rfl

def TierConfig.fields : Fields TierConfig :=
  ((Fields.required "primary" .str).and
    ((Fields.withDefault "fallbacks" strings []).and
      ((Fields.withDefault "allow_tier_downgrade" .bool false).and
        ((optionalStr "downgrade_to").and
          ((optionalU32 "min_context_window").and
            (Fields.withDefault "timeouts" TierTimeoutsSet.fields.toCodec {}) (by decide))
            (by decide)) (by decide)) (by decide)) (by decide)).map
    (fun (primary, fallbacks, allow, downgradeTo, window, timeouts) =>
      ⟨primary, fallbacks, allow, downgradeTo, window, timeouts⟩)
    (fun t => (t.primary, t.fallbacks, t.allowTierDowngrade, t.downgradeTo, t.minContextWindow,
      t.timeouts)) id fun _ => rfl

def DetectionCondition.fields : Fields DetectionCondition :=
  ((Fields.optional "has_tools" .bool fun _ => rfl).and
    ((optionalU32 "input_tokens_gt").and
      (Fields.optional "prompt_contains" strings fun _ => rfl) (by decide)) (by decide)).map
    (fun (hasTools, inputTokensGt, promptContains) => ⟨hasTools, inputTokensGt, promptContains⟩)
    (fun c => (c.hasTools, c.inputTokensGt, c.promptContains)) id fun _ => rfl

def DetectionRule.fields : Fields DetectionRule :=
  ((Fields.required "if" DetectionCondition.fields.toCodec).and (Fields.required "tier" .str)
    (by decide)).map
    (fun (condition, tier) => ⟨condition, tier⟩) (fun r => (r.condition, r.tier)) id fun _ => rfl

def DetectionConfig.fields : Fields DetectionConfig :=
  ((optionalStr "default_tier").and
    ((optionalU32 "session_window_minutes").and
      ((optionalU32 "session_lookback").and
        (Fields.withDefault "rules" (DetectionRule.fields.toCodec.listOf fun _ => rfl) [])
        (by decide)) (by decide)) (by decide)).map
    (fun (defaultTier, window, lookback, rules) => ⟨defaultTier, window, lookback, rules⟩)
    (fun d => (d.defaultTier, d.sessionWindowMinutes, d.sessionLookback, d.rules)) id fun _ => rfl

def RetryConfig.fields : Fields RetryConfig :=
  ((Fields.withDefault "max_same_provider_retries" (.natBelow UInt32.size) 1).and
    ((Fields.withDefault "fixed_retry_wait_ms" (.natBelow UInt64.size) 1500).and
      ((Fields.withDefault "max_retry_after_ms" (.natBelow UInt64.size) 10000).and
        (Fields.withDefault "request_budget_ms" (.natBelow UInt64.size) 120000) (by decide))
        (by decide)) (by decide)).map
    (fun (retries, fixed, after, budget) => ⟨retries, fixed, after, budget⟩)
    (fun r => (r.maxSameProviderRetries, r.fixedRetryWaitMs, r.maxRetryAfterMs,
      r.requestBudgetMs)) id fun _ => rfl

def StreamingConfig.fields : Fields StreamingConfig :=
  (Fields.withDefault "buffer_threshold_tokens" .u32 2048).map (fun n => ⟨n⟩)
    StreamingConfig.bufferThresholdTokens id fun _ => rfl

namespace SpecificityCategory

def asStr : SpecificityCategory → String
  | coding => "coding"
  | webBrowsing => "web_browsing"
  | dataAnalysis => "data_analysis"
  | imageGeneration => "image_generation"
  | videoGeneration => "video_generation"
  | socialMedia => "social_media"
  | emailManagement => "email_management"
  | calendarManagement => "calendar_management"
  | trading => "trading"

def all : List SpecificityCategory :=
  [coding, webBrowsing, dataAnalysis, imageGeneration, videoGeneration, socialMedia,
    emailManagement, calendarManagement, trading]

def ofStr (s : String) : Option SpecificityCategory := all.find? fun c => c.asStr = s

theorem ofStr_asStr (c : SpecificityCategory) : ofStr c.asStr = some c := by
  cases c <;> decide

end SpecificityCategory

def SpecificityRule.fields : Fields SpecificityRule :=
  ((Fields.required "category"
      (.enum SpecificityCategory.asStr SpecificityCategory.ofStr
        SpecificityCategory.ofStr_asStr)).and
    ((Fields.required "primary" .str).and (optionalU32 "threshold") (by decide))
    (by decide)).map
    (fun (category, primary, threshold) => ⟨category, primary, threshold⟩)
    (fun r => (r.category, r.primary, r.threshold)) id fun _ => rfl

def SpecificityConfig.fields : Fields SpecificityConfig :=
  ((Fields.withDefault "enabled" .bool false).and
    (Fields.withDefault "rules" (SpecificityRule.fields.toCodec.listOf fun _ => rfl) [])
    (by decide)).map
    (fun (enabled, rules) => ⟨enabled, rules⟩) (fun s => (s.enabled, s.rules)) id fun _ => rfl

def BudgetConfig.fields : Fields BudgetConfig :=
  ((Fields.withDefault "daily_cost_usd" .f64 F64.zero).and
    ((Fields.withDefault "per_request_cost_usd" .f64 F64.zero).and
      (Fields.withDefault "warn_fraction" .f64 ({} : BudgetConfig).warnFraction) (by decide))
    (by decide)).map
    (fun (daily, perRequest, warn) => ⟨daily, perRequest, warn⟩)
    (fun b => (b.dailyCostUsd, b.perRequestCostUsd, b.warnFraction)) id fun _ => rfl

def PricingSyncConfig.fields : Fields PricingSyncConfig :=
  ((Fields.withDefault "enabled" .bool true).and
    ((Fields.withDefault "interval_hours" .u64 24).and
      (Fields.withDefault "openrouter_url" .str ({} : PricingSyncConfig).openrouterUrl)
      (by decide)) (by decide)).map
    (fun (enabled, interval, url) => ⟨enabled, interval, url⟩)
    (fun p => (p.enabled, p.intervalHours, p.openrouterUrl)) id fun _ => rfl

def DiscoveryConfig.fields : Fields DiscoveryConfig :=
  ((Fields.withDefault "enabled" .bool true).and
    ((Fields.withDefault "auto_assign_tiers" .bool false).and
      (Fields.withDefault "min_input_price_per_1m" .f64 ({} : DiscoveryConfig).minInputPricePer1m)
      (by decide)) (by decide)).map
    (fun (enabled, assign, price) => ⟨enabled, assign, price⟩)
    (fun d => (d.enabled, d.autoAssignTiers, d.minInputPricePer1m)) id fun _ => rfl

/-- In a bucket that is there, both defaults are those of the global one. -/
def RateLimitBucket.fields : Fields RateLimitBucket :=
  ((Fields.withDefault "refill_per_minute" .u32 600).and (Fields.withDefault "burst" .u32 1200)
    (by decide)).map
    (fun (refill, burst) => ⟨refill, burst⟩) (fun b => (b.refillPerMinute, b.burst)) id
    fun _ => rfl

def RateLimitConfig.fields : Fields RateLimitConfig :=
  ((Fields.withDefault "enabled" .bool true).and
    ((Fields.withDefault "global" RateLimitBucket.fields.toCodec {}).and
      (Fields.withDefault "per_key" RateLimitBucket.fields.toCodec {}) (by decide))
    (by decide)).map
    (fun (enabled, global, perKey) => ⟨enabled, global, perKey⟩)
    (fun r => (r.enabled, r.global, r.perKey)) id fun _ => rfl

namespace RouterConfig

/-- The configuration with its two tables in the order of their keys. -/
def canon (c : RouterConfig) : RouterConfig :=
  { c with tiers := Table.sort c.tiers, tierKeys := Table.sort c.tierKeys }

/-- Routing: the first half of the sections. -/
def routingFields : Fields
    (ServerConfig × Option String × AuthConfig × DatabaseConfig × List ProviderConfig ×
      List (String × TierConfig) × List (String × String) × DetectionConfig) :=
  (Fields.withDefault "server" ServerConfig.fields.toCodec {}).and
    ((optionalStr "oauth_redirect_uri").and
      ((Fields.withDefault "auth" AuthConfig.codec {}).and
        ((Fields.withDefault "database" DatabaseConfig.fields.toCodec {}).and
          ((Fields.withDefault "providers"
              (ProviderConfig.fields.toCodec.listOf fun _ => rfl) []).and
            ((Fields.withDefault "tiers" (TierConfig.fields.toCodec.tableOf fun _ => rfl) []).and
              ((Fields.withDefault "tier_keys" (Codec.str.tableOf fun _ => rfl) []).and
                (Fields.withDefault "detection" DetectionConfig.fields.toCodec {})
                (by decide)) (by decide)) (by decide)) (by decide)) (by decide)) (by decide))
    (by decide)

/-- Operation: the other half. -/
def operationFields : Fields
    (RetryConfig × StreamingConfig × SpecificityConfig × BudgetConfig × PricingSyncConfig ×
      DiscoveryConfig × UInt32 × RateLimitConfig) :=
  (Fields.withDefault "retry" RetryConfig.fields.toCodec {}).and
    ((Fields.withDefault "streaming" StreamingConfig.fields.toCodec {}).and
      ((Fields.withDefault "specificity" SpecificityConfig.fields.toCodec {}).and
        ((Fields.withDefault "budgets" BudgetConfig.fields.toCodec {}).and
          ((Fields.withDefault "pricing_sync" PricingSyncConfig.fields.toCodec {}).and
            ((Fields.withDefault "discovery" DiscoveryConfig.fields.toCodec {}).and
              ((Fields.withDefault "log_retention_days" .u32 0).and
                (Fields.withDefault "ratelimit" RateLimitConfig.fields.toCodec {})
                (by decide)) (by decide)) (by decide)) (by decide)) (by decide)) (by decide))
    (by decide)

def fields : Fields RouterConfig :=
  (routingFields.and operationFields (by decide)).map
    (fun ((server, uri, auth, database, providers, tiers, tierKeys, detection), retry, streaming,
        specificity, budgets, pricingSync, discovery, retention, ratelimit) =>
      ⟨server, uri, auth, database, providers, tiers, tierKeys, detection, retry, streaming,
        specificity, budgets, pricingSync, discovery, retention, ratelimit⟩)
    (fun c => ((c.server, c.oauthRedirectUri, c.auth, c.database, c.providers, c.tiers, c.tierKeys,
        c.detection), c.retry, c.streaming, c.specificity, c.budgets, c.pricingSync, c.discovery,
      c.logRetentionDays, c.ratelimit)) canon fun _ => rfl

/-- The document that a configuration is saved as. -/
def toDocument (c : RouterConfig) : Except EncodeError Document := fields.encode c

def fromDocument (doc : Document) : Except DecodeError RouterConfig := fields.decode doc

theorem fromDocument_sorted (doc : Document) : fromDocument doc.sorted = fromDocument doc := by
  rw [fromDocument, fromDocument, Document.sorted,
    fields.decode_congr fun key _ => Table.get_sort key _, fields.decode_sorted]

/-- A saved configuration reads back as it was, but for the order of its tables. -/
theorem fromDocument_toDocument {c : RouterConfig} (h : c.toDocument = .ok doc) :
    fromDocument doc.sorted = .ok c.canon := by
  rw [fromDocument_sorted]
  exact fields.decode_encode h

end RouterConfig

end TokenDealer
