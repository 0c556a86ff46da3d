import TokenDealer.ConfigToml
import TokenDealer.TomlReads

set_option autoImplicit true

namespace TokenDealer

open Toml Codec Fields

def ServerConfig.shape : List (String × Shape) :=
  [("bind", .leaf), ("log_level", .leaf), ("oauth_redirect_uri", .leaf)]

theorem ServerConfig.reads : ServerConfig.fields.Reads ServerConfig.shape :=
  ((required_reads str_reads).cons
    ((withDefault_reads str_reads).cons (withDefault_reads str_reads))).map

def AuthKey.shape : List (String × Shape) := [("key", .leaf), ("name", .leaf)]

theorem get_pruneMembers_leaf {fields : List (String × Shape)}
    (h : Table.get key fields = some .leaf) (members : List (String × Value)) :
    Table.get key (Shape.pruneMembers fields members) = Table.get key members := by
  rw [Shape.get_pruneMembers h]
  cases Table.get key members with
  | none => rfl
  | some v => cases v <;> rfl

theorem required_ne_ok {members : List (String × Value)} {read : Value → Option α}
    (hget : Table.get name members = some w) (hw : read w = none) (a : α) :
    Toml.required members name read ≠ .ok a := by
  intro h
  obtain ⟨v, hv, hread⟩ := required_eq_ok.mp h
  rw [hget] at hv
  cases hv
  rw [hw] at hread
  cases hread

theorem optional_ne_ok {members : List (String × Value)} {read : Value → Option α}
    (hget : Table.get name members = some w) (hw : read w = none) (a : Option α) :
    Toml.optional members name read ≠ .ok a := by
  rw [Toml.optional, hget]
  dsimp only
  rw [hw]
  intro h
  cases h

theorem AuthKey.codec_reads : AuthKey.codec.Reads (.record AuthKey.shape) where
  decode_prune v := by
    cases v with
    | table members =>
      rw [Shape.prune]
      change AuthKey.fromToml (.table (Shape.pruneMembers AuthKey.shape members)) =
        AuthKey.fromToml (.table members)
      rw [AuthKey.fromToml, AuthKey.fromToml, required_congr (get_pruneMembers_leaf rfl members),
        required_congr (get_pruneMembers_leaf rfl members)]
    | _ => rfl
  spoiled {w} hw k := by
    intro h
    cases hw with
    | misfit => cases h
    | @member key s w _ members hkey hget hw =>
      change AuthKey.fromToml (.table members) = .ok k at h
      simp only [AuthKey.fromToml, bind_eq_ok] at h
      obtain ⟨key, hkeyRead, name, hname, -⟩ := h
      have hcases := Table.mem_of_get hkey
      simp only [AuthKey.shape, List.mem_cons, Prod.mk.injEq, List.not_mem_nil, or_false] at hcases
      rcases hcases with ⟨rfl, rfl⟩ | ⟨rfl, rfl⟩
      · cases hw
        exact required_ne_ok hget rfl key hkeyRead
      · cases hw
        exact required_ne_ok hget rfl name hname

def AuthConfig.shape : List (String × Shape) :=
  [("enabled", .leaf), ("admin_key", .leaf), ("keys", .list (.record AuthKey.shape))]

theorem optional_keys_pruned (members : List (String × Value)) :
    Toml.optional (Shape.pruneMembers AuthConfig.shape members) "keys" Value.asArray =
      (Toml.optional members "keys" Value.asArray).map
        (Option.map (List.map (Shape.record AuthKey.shape).prune)) := by
  have hget : Table.get "keys" (Shape.pruneMembers AuthConfig.shape members) = _ :=
    Shape.get_pruneMembers rfl members
  rw [Toml.optional, Toml.optional, hget]
  cases Table.get "keys" members with
  | none => rfl
  | some v =>
    cases v with
    | array items =>
      rw [Option.map_some, Shape.prune, Shape.pruneItems_eq_map]
      rfl
    | _ => rfl

theorem AuthConfig.codec_reads : AuthConfig.codec.Reads (.record AuthConfig.shape) where
  decode_prune v := by
    cases v with
    | table members =>
      rw [Shape.prune]
      change AuthConfig.fromToml (.table (Shape.pruneMembers AuthConfig.shape members)) =
        AuthConfig.fromToml (.table members)
      rw [AuthConfig.fromToml, AuthConfig.fromToml,
        required_congr (get_pruneMembers_leaf rfl members),
        optional_congr (get_pruneMembers_leaf rfl members), optional_keys_pruned]
      cases Toml.optional members "keys" Value.asArray with
      | error e => rfl
      | ok items =>
        cases items with
        | none => rfl
        | some items =>
          have hitems := mapM_congr_map AuthKey.codec_reads.decode_prune items
          change (items.map (Shape.record AuthKey.shape).prune).mapM AuthKey.fromToml = _ at hitems
          dsimp only [Except.map, Option.map_some, Option.getD_some, bind, Except.bind]
          rw [hitems]
          rfl
    | _ => rfl
  spoiled {w} hw auth := by
    intro h
    cases hw with
    | misfit => cases h
    | @member key s w _ members hkey hget hw =>
      obtain ⟨henabled, hadmin, items, hitems, hkeys⟩ := AuthConfig.fromToml_table.mp h
      have hcases := Table.mem_of_get hkey
      simp only [AuthConfig.shape, List.mem_cons, Prod.mk.injEq, List.not_mem_nil,
        or_false] at hcases
      rcases hcases with ⟨rfl, rfl⟩ | ⟨rfl, rfl⟩ | ⟨rfl, rfl⟩
      · cases hw
        exact required_ne_ok hget rfl _ henabled
      · cases hw
        exact optional_ne_ok hget rfl _ hadmin
      · cases hw with
        | misfit => exact optional_ne_ok hget rfl _ hitems
        | item hmem hw =>
          simp only [Toml.optional, hget, Value.asArray, Except.ok.injEq] at hitems
          subst hitems
          exact mapM_ne_ok hmem (AuthKey.codec_reads.spoiled hw) _ hkeys

def DatabaseConfig.shape : List (String × Shape) := [("path", .leaf)]

theorem DatabaseConfig.reads : DatabaseConfig.fields.Reads DatabaseConfig.shape :=
  (required_reads str_reads).map

theorem strings_reads : strings.Reads .leaf := reads_leaf nofun

def ProviderConfig.shape : List (String × Shape) :=
  [("id", .leaf), ("type", .leaf), ("key", .leaf), ("base_url", .leaf), ("default_model", .leaf),
    ("path", .leaf)]

theorem ProviderConfig.reads : ProviderConfig.fields.Reads ProviderConfig.shape :=
  ((required_reads str_reads).cons ((withDefault_reads enum_reads).cons
    ((optional_reads str_reads).cons ((optional_reads str_reads).cons
      ((optional_reads str_reads).cons (optional_reads str_reads)))))).map

def TierTimeoutsSet.shape : List (String × Shape) :=
  [("connect_ms", .leaf), ("read_ms", .leaf), ("per_attempt_ms", .leaf)]

theorem TierTimeoutsSet.reads : TierTimeoutsSet.fields.Reads TierTimeoutsSet.shape :=
  ((optional_reads u64_reads).cons
    ((optional_reads u64_reads).cons (optional_reads u64_reads))).map

def TierConfig.shape : List (String × Shape) :=
  [("primary", .leaf), ("fallbacks", .leaf), ("allow_tier_downgrade", .leaf),
    ("downgrade_to", .leaf), ("min_context_window", .leaf),
    ("timeouts", .record TierTimeoutsSet.shape)]

theorem TierConfig.reads : TierConfig.fields.Reads TierConfig.shape :=
  ((required_reads str_reads).cons ((withDefault_reads strings_reads).cons
    ((withDefault_reads bool_reads).cons ((optional_reads str_reads).cons
      ((optional_reads u32_reads).cons
        (withDefault_reads TierTimeoutsSet.reads.toCodec)))))).map

def DetectionCondition.shape : List (String × Shape) :=
  [("has_tools", .leaf), ("input_tokens_gt", .leaf), ("prompt_contains", .leaf)]

theorem DetectionCondition.reads : DetectionCondition.fields.Reads DetectionCondition.shape :=
  ((optional_reads bool_reads).cons
    ((optional_reads u32_reads).cons (optional_reads strings_reads))).map

def DetectionRule.shape : List (String × Shape) :=
  [("if", .record DetectionCondition.shape), ("tier", .leaf)]

theorem DetectionRule.reads : DetectionRule.fields.Reads DetectionRule.shape :=
  ((required_reads DetectionCondition.reads.toCodec).cons (required_reads str_reads)).map

def DetectionConfig.shape : List (String × Shape) :=
  [("default_tier", .leaf), ("session_window_minutes", .leaf), ("session_lookback", .leaf),
    ("rules", .list (.record DetectionRule.shape))]

theorem DetectionConfig.reads : DetectionConfig.fields.Reads DetectionConfig.shape :=
  ((optional_reads str_reads).cons ((optional_reads u32_reads).cons
    ((optional_reads u32_reads).cons
      (withDefault_reads DetectionRule.reads.toCodec.listOf)))).map

def RetryConfig.shape : List (String × Shape) :=
  [("max_same_provider_retries", .leaf), ("fixed_retry_wait_ms", .leaf),
    ("max_retry_after_ms", .leaf), ("request_budget_ms", .leaf)]

theorem RetryConfig.reads : RetryConfig.fields.Reads RetryConfig.shape :=
  ((withDefault_reads natBelow_reads).cons ((withDefault_reads natBelow_reads).cons
    ((withDefault_reads natBelow_reads).cons (withDefault_reads natBelow_reads)))).map

def StreamingConfig.shape : List (String × Shape) := [("buffer_threshold_tokens", .leaf)]

theorem StreamingConfig.reads : StreamingConfig.fields.Reads StreamingConfig.shape :=
  (withDefault_reads u32_reads).map

def SpecificityRule.shape : List (String × Shape) :=
  [("category", .leaf), ("primary", .leaf), ("threshold", .leaf)]

theorem SpecificityRule.reads : SpecificityRule.fields.Reads SpecificityRule.shape :=
  ((required_reads enum_reads).cons
    ((required_reads str_reads).cons (optional_reads u32_reads))).map

def SpecificityConfig.shape : List (String × Shape) :=
  [("enabled", .leaf), ("rules", .list (.record SpecificityRule.shape))]

theorem SpecificityConfig.reads : SpecificityConfig.fields.Reads SpecificityConfig.shape :=
  ((withDefault_reads bool_reads).cons
    (withDefault_reads SpecificityRule.reads.toCodec.listOf)).map

def BudgetConfig.shape : List (String × Shape) :=
  [("daily_cost_usd", .leaf), ("per_request_cost_usd", .leaf), ("warn_fraction", .leaf)]

theorem BudgetConfig.reads : BudgetConfig.fields.Reads BudgetConfig.shape :=
  ((withDefault_reads f64_reads).cons
    ((withDefault_reads f64_reads).cons (withDefault_reads f64_reads))).map

def PricingSyncConfig.shape : List (String × Shape) :=
  [("enabled", .leaf), ("interval_hours", .leaf), ("openrouter_url", .leaf)]

theorem PricingSyncConfig.reads : PricingSyncConfig.fields.Reads PricingSyncConfig.shape :=
  ((withDefault_reads bool_reads).cons
    ((withDefault_reads u64_reads).cons (withDefault_reads str_reads))).map

def DiscoveryConfig.shape : List (String × Shape) :=
  [("enabled", .leaf), ("auto_assign_tiers", .leaf), ("min_input_price_per_1m", .leaf)]

theorem DiscoveryConfig.reads : DiscoveryConfig.fields.Reads DiscoveryConfig.shape :=
  ((withDefault_reads bool_reads).cons
    ((withDefault_reads bool_reads).cons (withDefault_reads f64_reads))).map

def RateLimitBucket.shape : List (String × Shape) :=
  [("refill_per_minute", .leaf), ("burst", .leaf)]

theorem RateLimitBucket.reads : RateLimitBucket.fields.Reads RateLimitBucket.shape :=
  ((withDefault_reads u32_reads).cons (withDefault_reads u32_reads)).map

def RateLimitConfig.shape : List (String × Shape) :=
  [("enabled", .leaf), ("global", .record RateLimitBucket.shape),
    ("per_key", .record RateLimitBucket.shape)]

theorem RateLimitConfig.reads : RateLimitConfig.fields.Reads RateLimitConfig.shape :=
  ((withDefault_reads bool_reads).cons
    ((withDefault_reads RateLimitBucket.reads.toCodec).cons
      (withDefault_reads RateLimitBucket.reads.toCodec))).map

namespace RouterConfig

def routingShape : List (String × Shape) :=
  [("server", .record ServerConfig.shape), ("oauth_redirect_uri", .leaf),
    ("auth", .record AuthConfig.shape), ("database", .record DatabaseConfig.shape),
    ("providers", .list (.record ProviderConfig.shape)), ("tiers", .map (.record TierConfig.shape)),
    ("tier_keys", .map .leaf), ("detection", .record DetectionConfig.shape)]

theorem routing_reads : routingFields.Reads routingShape :=
  (withDefault_reads ServerConfig.reads.toCodec).cons ((optional_reads str_reads).cons
    ((withDefault_reads AuthConfig.codec_reads).cons
      ((withDefault_reads DatabaseConfig.reads.toCodec).cons
        ((withDefault_reads ProviderConfig.reads.toCodec.listOf).cons
          ((withDefault_reads TierConfig.reads.toCodec.tableOf).cons
            ((withDefault_reads str_reads.tableOf).cons
              (withDefault_reads DetectionConfig.reads.toCodec)))))))

def operationShape : List (String × Shape) :=
  [("retry", .record RetryConfig.shape), ("streaming", .record StreamingConfig.shape),
    ("specificity", .record SpecificityConfig.shape), ("budgets", .record BudgetConfig.shape),
    ("pricing_sync", .record PricingSyncConfig.shape),
    ("discovery", .record DiscoveryConfig.shape), ("log_retention_days", .leaf),
    ("ratelimit", .record RateLimitConfig.shape)]

theorem operation_reads : operationFields.Reads operationShape :=
  (withDefault_reads RetryConfig.reads.toCodec).cons
    ((withDefault_reads StreamingConfig.reads.toCodec).cons
      ((withDefault_reads SpecificityConfig.reads.toCodec).cons
        ((withDefault_reads BudgetConfig.reads.toCodec).cons
          ((withDefault_reads PricingSyncConfig.reads.toCodec).cons
            ((withDefault_reads DiscoveryConfig.reads.toCodec).cons
              ((withDefault_reads u32_reads).cons
                (withDefault_reads RateLimitConfig.reads.toCodec)))))))

/-- What deserialising a configuration looks at. -/
def shape : List (String × Shape) := routingShape ++ operationShape

theorem reads : fields.Reads shape := (routing_reads.and operation_reads).map

/-- The paths of the keys that deserialising a document ignores. -/
def ignoredKeys (doc : Document) : List String := Shape.ignoredMembers shape id doc

/-- Without the ignored keys a document gives the same configuration. -/
theorem fromDocument_pruneMembers (doc : Document) :
    fromDocument (Shape.pruneMembers shape doc) = fromDocument doc :=
  reads.decode_pruneMembers doc

/-- Every other key counts: a value of another form under it, at any level, is refused. -/
theorem fromDocument_spoiled (h : (Shape.record shape).Spoiled (.table doc)) (c : RouterConfig) :
    fromDocument doc ≠ .ok c :=
  reads.toCodec.spoiled h c

end RouterConfig

end TokenDealer
