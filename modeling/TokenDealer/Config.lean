import TokenDealer.Canonical
import TokenDealer.F64

set_option autoImplicit true

namespace TokenDealer

structure ServerConfig where
  bind : String := "0.0.0.0:8080"
  logLevel : String := "info"
  oauthRedirectUri : String := ""
  deriving DecidableEq, Repr

structure AuthKey where
  key : String
  name : String
  deriving DecidableEq, Repr

structure AuthConfig where
  enabled : Bool := true
  adminKey : Option String := none
  keys : List AuthKey := []
  deriving DecidableEq, Repr

structure DatabaseConfig where
  path : String := ""
  deriving DecidableEq, Repr

inductive ProviderType where
  | anthropic
  | google
  | kiro
  | responses
  | generic
  | openai
  | openrouter
  | tokenrouter
  | groq
  | deepseek
  | fireworks
  | mistral
  | xai
  | qwen
  | moonshot
  | zai
  | xiaomi
  | minimax
  | byteplus
  | nvidia
  | opencodeGo
  | opencodeZen
  | kilo
  | commandcode
  | githubCopilot
  | gitlawb
  | ollama
  | ollamaCloud
  | llamaCpp
  | lmStudio
  deriving DecidableEq, Repr

structure ProviderConfig where
  id : String
  providerType : ProviderType := .generic
  key : Option String := none
  baseUrl : Option String := none
  defaultModel : Option String := none
  path : Option String := none
  deriving DecidableEq, Repr

structure TierTimeoutsSet where
  connectMs : Option UInt64 := none
  readMs : Option UInt64 := none
  perAttemptMs : Option UInt64 := none
  deriving DecidableEq, Repr

structure TierConfig where
  primary : String
  fallbacks : List String := []
  allowTierDowngrade : Bool := false
  downgradeTo : Option String := none
  minContextWindow : Option UInt32 := none
  timeouts : TierTimeoutsSet := {}
  deriving DecidableEq, Repr

structure DetectionCondition where
  hasTools : Option Bool := none
  inputTokensGt : Option UInt32 := none
  promptContains : Option (List String) := none
  deriving DecidableEq, Repr

structure DetectionRule where
  condition : DetectionCondition
  tier : String
  deriving DecidableEq, Repr

structure DetectionConfig where
  defaultTier : Option String := none
  sessionWindowMinutes : Option UInt32 := none
  sessionLookback : Option UInt32 := none
  rules : List DetectionRule := []
  deriving DecidableEq, Repr

structure RetryConfig where
  maxSameProviderRetries : Nat := 1
  fixedRetryWaitMs : Nat := 1500
  maxRetryAfterMs : Nat := 10000
  requestBudgetMs : Nat := 120000
  deriving DecidableEq, Repr

structure StreamingConfig where
  bufferThresholdTokens : UInt32 := 2048
  deriving DecidableEq, Repr

inductive SpecificityCategory where
  | coding
  | webBrowsing
  | dataAnalysis
  | imageGeneration
  | videoGeneration
  | socialMedia
  | emailManagement
  | calendarManagement
  | trading
  deriving DecidableEq, Repr

structure SpecificityRule where
  category : SpecificityCategory
  primary : String
  threshold : Option UInt32 := none
  deriving DecidableEq, Repr

structure SpecificityConfig where
  enabled : Bool := false
  rules : List SpecificityRule := []
  deriving DecidableEq, Repr

/-- The default warning fraction is 0.8. -/
structure BudgetConfig where
  dailyCostUsd : F64 := F64.zero
  perRequestCostUsd : F64 := F64.zero
  warnFraction : F64 := 0x3FE999999999999A
  deriving DecidableEq, Repr

structure PricingSyncConfig where
  enabled : Bool := true
  intervalHours : UInt64 := 24
  openrouterUrl : String := "https://openrouter.ai/api/v1/models"
  deriving DecidableEq, Repr

/-- The default lowest price is 0.10. -/
structure DiscoveryConfig where
  enabled : Bool := true
  autoAssignTiers : Bool := false
  minInputPricePer1m : F64 := 0x3FB999999999999A
  deriving DecidableEq, Repr

/-- A field missing from a bucket that is there has the global default, a bucket that is missing
has this one. -/
structure RateLimitBucket where
  refillPerMinute : UInt32 := 60
  burst : UInt32 := 120
  deriving DecidableEq, Repr

structure RateLimitConfig where
  enabled : Bool := true
  global : RateLimitBucket := ⟨600, 1200⟩
  perKey : RateLimitBucket := ⟨60, 120⟩
  deriving DecidableEq, Repr

/-- The tables of tiers and of tier keys have no order of their own. -/
structure RouterConfig where
  server : ServerConfig := {}
  oauthRedirectUri : Option String := none
  auth : AuthConfig := {}
  database : DatabaseConfig := {}
  providers : List ProviderConfig := []
  tiers : List (String × TierConfig) := []
  tierKeys : List (String × String) := []
  detection : DetectionConfig := {}
  retry : RetryConfig := {}
  streaming : StreamingConfig := {}
  specificity : SpecificityConfig := {}
  budgets : BudgetConfig := {}
  pricingSync : PricingSyncConfig := {}
  discovery : DiscoveryConfig := {}
  logRetentionDays : UInt32 := 0
  ratelimit : RateLimitConfig := {}
  deriving DecidableEq, Repr

namespace RouterConfig

def primaryForTier (config : RouterConfig) (tier : Tier) : Option String :=
  (Table.get tier.asStr config.tiers).map TierConfig.primary

/-- The raw literal: the caller resolves environment variables and the encrypted store. -/
def tierKeyOverride (config : RouterConfig) (tier : Tier) : Option String :=
  Table.get tier.asStr config.tierKeys

/-- The literal key of the first provider entry with this id. -/
def providerKey (config : RouterConfig) (providerId : String) : Option String :=
  (config.providers.find? fun p => p.id = providerId).bind ProviderConfig.key

end RouterConfig

end TokenDealer
