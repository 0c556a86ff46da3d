import TokenDealer.ConfigToml
import TokenDealer.SocketAddr

set_option autoImplicit true

namespace TokenDealer

structure ConfigError where
  path : String
  reason : String
  deriving DecidableEq, Repr

/-- The libraries behind the validator. An error of the TOML library can be shown with the place in
the text or without it. -/
structure ValidateTools where
  toml : Toml.Text
  display : Toml.DecodeError → String
  message : Toml.DecodeError → String
  validUrl : String → Bool

namespace Validate

def isValidLogLevel (s : String) : Bool :=
  ["trace", "debug", "info", "warn", "warning", "error"].contains (Str.toAsciiLowercase s)

def looksLikeEncryptedBlob (s : String) : Bool :=
  s ≠ "" && (Base64.decode (Str.trimList s.toList)).isSome

/-- The provider that a reference begins with. -/
def head (ref : String) : String := String.ofList ((Str.split '/' ref.toList).headD [])

section

variable (validUrl : String → Bool)

/-- A setting that holds a URL, or nothing. -/
def checkUrl (path url : String) : List ConfigError :=
  if url ≠ "" ∧ validUrl url = false then [⟨path, s!"\"{url}\" is not a valid URL"⟩] else []

def checkServer (server : ServerConfig) : List ConfigError :=
  (if Str.trim server.bind = "" then
    [⟨"[server].bind", "must be set (e.g. \"0.0.0.0:8080\")"⟩]
  else if SocketAddr.parse server.bind = none then
    [⟨"[server].bind", s!"\"{server.bind}\" is not a valid host:port"⟩]
  else []) ++
  (if isValidLogLevel server.logLevel then []
  else
    [⟨"[server].log_level",
      s!"\"{server.logLevel}\" is not a valid level (trace|debug|info|warn|error)"⟩]) ++
  checkUrl validUrl "[server].oauth_redirect_uri" server.oauthRedirectUri

def checkProviderKey (path key : String) : List ConfigError :=
  match Str.stripPrefix encPrefix key with
  | none => []
  | some rest =>
    if looksLikeEncryptedBlob rest then []
    else [⟨path, "\"enc:\" prefix present but ciphertext is not valid base64"⟩]

def checkProviderId (path : String) (seen : List String) (id : String) : List ConfigError :=
  if Str.trim id = "" then [⟨path, "must not be empty"⟩]
  else if id ∈ seen then [⟨path, s!"duplicate provider id \"{id}\""⟩]
  else []

def checkProvider (path : String) (seen : List String) (p : ProviderConfig) : List ConfigError :=
  checkProviderId s!"{path}.id" seen p.id ++
    (p.key.elim [] (checkProviderKey s!"{path}.key") ++
      p.baseUrl.elim [] (checkUrl validUrl s!"{path}.base_url"))

/-- The providers in order, with the identifiers seen before. -/
def checkProviders : Nat → List String → List ProviderConfig → List ConfigError
  | _, _, [] => []
  | idx, seen, p :: rest =>
    checkProvider validUrl s!"providers[{idx}]" seen p ++
      checkProviders (idx + 1) (if Str.trim p.id = "" then seen else p.id :: seen) rest

end

section

variable (providerIds : List String)

def checkPrimary (path primary : String) : List ConfigError :=
  if primary = "" then [⟨path, "must not be empty"⟩]
  else if primary ∈ providerIds ∨ head primary ∈ providerIds then []
  else [⟨path, s!"unknown provider \"{primary}\" (not in [[providers]])"⟩]

def checkFallback (path fallback : String) : List ConfigError :=
  if head fallback ∈ providerIds then []
  else [⟨path, s!"unknown fallback provider \"{fallback}\""⟩]

/-- A setting of a number that may be missing but not zero. -/
def checkPositive (path : String) (n : Option UInt32) : List ConfigError :=
  if n = some 0 then [⟨path, "must be > 0 when set"⟩] else []

/-- A tier has to be configured. -/
def checkTierName (tiers : List (String × TierConfig)) (path name : String) : List ConfigError :=
  if (Table.get name tiers).isSome then [] else [⟨path, s!"unknown tier \"{name}\""⟩]

def checkTier (tiers : List (String × TierConfig)) (m : String × TierConfig) :
    List ConfigError :=
  let (name, tier) := m
  let path := s!"tiers.{name}"
  checkPrimary providerIds s!"{path}.primary" tier.primary ++
    (tier.fallbacks.flatMap (checkFallback providerIds s!"{path}.fallbacks") ++
      (tier.downgradeTo.elim [] (checkTierName tiers s!"{path}.downgrade_to") ++
        checkPositive s!"{path}.min_context_window" tier.minContextWindow))

def checkRules (tiers : List (String × TierConfig)) : Nat → List DetectionRule → List ConfigError
  | _, [] => []
  | idx, r :: rest =>
    checkTierName tiers s!"detection.rules[{idx}].tier" r.tier ++ checkRules tiers (idx + 1) rest

def checkSpecificity : Nat → List SpecificityRule → List ConfigError
  | _, [] => []
  | idx, r :: rest =>
    let path := s!"specificity.rules[{idx}]"
    (if head r.primary ∈ providerIds then []
    else [⟨s!"{path}.primary", s!"unknown provider in \"{r.primary}\""⟩]) ++
      (checkPositive s!"{path}.threshold" r.threshold ++ checkSpecificity (idx + 1) rest)

end

def checkRetry (retry : RetryConfig) : List ConfigError :=
  let fixed := retry.fixedRetryWaitMs
  let longest := retry.maxRetryAfterMs
  (if retry.requestBudgetMs = 0 then
    [⟨"[retry].request_budget_ms", "must be > 0 (infinite-loop guard)"⟩] else []) ++
  (if longest < fixed then
    [⟨"[retry]", s!"fixed_retry_wait_ms ({fixed}) > max_retry_after_ms ({longest})"⟩] else [])

/-- A price or a cost. -/
def checkNonNegative (path reason : String) (x : F64) : List ConfigError :=
  if F64.lt x F64.zero then [⟨path, reason⟩] else []

def checkBudgets (budgets : BudgetConfig) : List ConfigError :=
  (if F64.le budgets.warnFraction F64.zero || F64.lt F64.one budgets.warnFraction then
    [⟨"[budgets].warn_fraction", "must be in (0, 1]"⟩] else []) ++
  checkNonNegative "[budgets].daily_cost_usd" "must be >= 0 (0 = unlimited)"
    budgets.dailyCostUsd ++
  checkNonNegative "[budgets].per_request_cost_usd" "must be >= 0 (0 = unlimited)"
    budgets.perRequestCostUsd

end Validate

def RouterConfig.providerIds (c : RouterConfig) : List String := c.providers.map fun p => p.id

open Validate

def checkSemantic (validUrl : String → Bool) (c : RouterConfig) : List ConfigError :=
  checkServer validUrl c.server ++
    (checkProviders validUrl 0 [] c.providers ++
      (c.tiers.flatMap (checkTier c.providerIds c.tiers) ++
        (checkRules c.tiers 0 c.detection.rules ++
          (checkRetry c.retry ++
            (checkBudgets c.budgets ++
              (checkUrl validUrl "[pricing_sync].openrouter_url" c.pricingSync.openrouterUrl ++
                (checkNonNegative "[discovery].min_input_price_per_1m" "must be >= 0"
                    c.discovery.minInputPricePer1m ++
                  checkSpecificity c.providerIds 0 c.specificity.rules)))))))

/-- The errors that a text is refused for; warnings refuse nothing. A text that is no TOML at all
fails both parses. -/
def validate (tools : ValidateTools) (raw : String) : List ConfigError :=
  match tools.toml.parse raw with
  | .error e =>
    [⟨"<root>", "TOML syntax: " ++ tools.display e⟩, ⟨"<root>", tools.message e⟩]
  | .ok doc =>
    match RouterConfig.fromDocument doc with
    | .error e => [⟨"<root>", tools.message e⟩]
    | .ok c => checkSemantic tools.validUrl c

end TokenDealer
