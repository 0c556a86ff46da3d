import TokenDealer.Fallback
import TokenDealer.Inbound
import TokenDealer.Oauth

set_option autoImplicit true

namespace TokenDealer

structure RoutingOutput where
  canonical : CanonicalRequest
  route : SelectedRoute
  key : String
  requestId : String
  userId : Option String := none
  userAgent : Option String := none
  deriving Repr

/-- The router as a request finds it. -/
structure Pipeline where
  registry : ProviderRegistry
  config : RouterConfig
  keys : Keys
  oauth : OAuthManager
  text : Json.Text

/-- What the chat handler adds to a routing output. -/
structure ChatContext where
  userId : Option String := none
  userAgent : Option String := none
  agentType : Option String := none
  specificityCategory : Option String := none
  routerKey : Option String := none
  deriving DecidableEq, Repr

/-- What an adapter is handed to open a stream. -/
structure StreamCall where
  adapter : ProviderAdapter
  request : CanonicalRequest
  key : String

namespace Pipeline

/-- The key of the provider's own entry, resolved. -/
def ownKey (pipe : Pipeline) (providerId : String) : String :=
  pipe.keys.resolve providerId (pipe.config.providerKey providerId)

/-- The access token of a provider that has one, with the state its refresh leaves behind. -/
def accessToken (pipe : Pipeline) (world : OAuthWorld) (providerId : String) :
    Option String × Pipeline :=
  if Manifest.usesOAuth providerId then
    let (answer, oauth, store) :=
      pipe.oauth.accessToken pipe.keys.crypto pipe.text world pipe.keys.store providerId
    (answer.toOption.join,
      { pipe with oauth := oauth, keys := { pipe.keys with store := store } })
  else (none, pipe)

/-- The key a route to the provider resolves to. The lookups in the store only fill its cache,
which changes no answer, so they leave the router as it is here. -/
def routeKey (pipe : Pipeline) (world : OAuthWorld) (tier : Tier) (providerId : String) :
    String × Pipeline :=
  let cfgKey := (pipe.config.providerKey providerId).or (pipe.config.tierKeyOverride tier)
  let resolved := pipe.keys.resolve providerId cfgKey
  let access := pipe.accessToken world providerId
  (access.1.getD resolved, access.2)

def selectRoute (pipe : Pipeline) (modelOverride : Option String) (tier : Tier) :
    AppResult SelectedRoute :=
  match modelOverride with
  | some m =>
    match Selector.routeExplicit pipe.registry m with
    | some route => .ok route
    | none => .error (.badRequest s!"unknown provider in model ref: {m}")
  | none =>
    match Selector.routeTier pipe.registry pipe.config tier with
    | some route => .ok route
    | none =>
      let name := tier.asStr
      .error (.internal s!"no primary configured for tier {name}")

def route (pipe : Pipeline) (world : OAuthWorld) (requestId : String) (inbound : InboundRequest)
    (modelOverride : Option String) (tier : Tier) : AppResult RoutingOutput × Pipeline :=
  match pipe.selectRoute modelOverride tier with
  | .error e => (.error e, pipe)
  | .ok route =>
    match inbound.intoCanonical pipe.text tier route.modelId route.providerId requestId with
    | .error e => (.error e, pipe)
    | .ok canonical =>
      let (key, after) := pipe.routeKey world tier route.providerId
      if key = "" then
        let providerId := route.providerId
        (.error (.internal s!"no API key for provider {providerId}"), after)
      else (.ok { canonical, route, key, requestId }, after)

/-- The executor's plan for a routing output. -/
def planFor (pipe : Pipeline) (routed : RoutingOutput) : RoutingPlan :=
  let tierCfg := Table.get routed.canonical.tier.asStr pipe.config.tiers
  { request := routed.canonical
    primary := routed.route.providerId ++ "/" ++ routed.route.modelId
    fallbacks := (tierCfg.map TierConfig.fallbacks).getD []
    downgradeTo := tierCfg.bind TierConfig.downgradeTo
    requestBudget := fromMillis pipe.config.retry.requestBudgetMs
    maxRetriesPerProvider := pipe.config.retry.maxSameProviderRetries
    maxRetryAfterMs := pipe.config.retry.maxRetryAfterMs
    fixedRetryWaitMs := pipe.config.retry.fixedRetryWaitMs }

def resolveHandle (pipe : Pipeline) (providerId : String) : Option ProviderHandle :=
  match pipe.registry providerId with
  | none => none
  | some adapter =>
    some
      { providerId := providerId
        modelId := adapter.defaultModel
        adapter := adapter
        key := pipe.ownKey providerId }

def healthHook (pipe : Pipeline) : HealthHook where
  failureThreshold := max pipe.config.retry.maxSameProviderRetries 1
  cooldownSecs := 60

/-- The executor's run for a routing output. -/
def run (pipe : Pipeline) (routed : RoutingOutput) (upstream : Nat → Visit)
    (health : HealthRegistry) (now : Instant) : ExecState × AppResult ExecutionResult :=
  execute (pipe.planFor routed) pipe.resolveHandle pipe.healthHook upstream health now

def complete (pipe : Pipeline) (routed : RoutingOutput) (upstream : Nat → Visit)
    (health : HealthRegistry) (now : Instant) : AppResult CanonicalResponse :=
  (pipe.run routed upstream health now).2.map ExecutionResult.response

def stream (pipe : Pipeline) (routed : RoutingOutput) : AppResult StreamCall :=
  match pipe.registry routed.route.providerId with
  | none =>
    let providerId := routed.route.providerId
    .error (.internal s!"provider disappeared: {providerId}")
  | some adapter => .ok ⟨adapter, routed.canonical, routed.key⟩

end Pipeline

/-- The chat handler's stamp on a routing output: the caller, the category detected for the
request, and last a key of the caller's own, unless it is empty. -/
def ChatContext.stamp (context : ChatContext) (routed : RoutingOutput) : RoutingOutput :=
  let metadata := routed.canonical.metadata
  { routed with
    canonical := { routed.canonical with
      metadata :=
        { agentType := context.agentType.or metadata.agentType
          specificityCategory := metadata.specificityCategory.or context.specificityCategory } }
    key := match context.routerKey with
      | some key => if key ≠ "" then key else routed.key
      | none => routed.key
    userId := context.userId
    userAgent := context.userAgent }

/-- A router with one OpenAI provider under its stock settings and a key in the configuration. -/
def samplePipeline : Pipeline where
  registry := fun id =>
    if id = "openai" then (buildAdapter { id := "openai", providerType := .openai }).toOption
    else none
  config := { providers := [{ id := "openai", providerType := .openai, key := some "sk-own" }] }
  keys :=
    { crypto := ⟨fun _ _ plaintext => plaintext, fun _ _ _ => none, fun master _ => master⟩
      env := fun _ => none
      uppercase := id
      master := ⟨List.replicate 32 0, rfl⟩
      store := ⟨fun _ => .ok none, fun _ => none, List.replicate 32 0⟩ }
  oauth := {}
  text := ⟨fun _ => "null", fun _ => none⟩

/-- A world in which no token endpoint is reached. -/
def sampleWorld : OAuthWorld where
  now := 0
  later := 0
  post := fun _ _ => .error "unreachable"
  nonce := List.replicate 12 0
  written := .ok ()

def sampleRouted (model key : String) : RoutingOutput where
  canonical := { (samplePlan "" []).request with
    selectedModel := model
    selectedProvider := "openai" }
  route := ⟨"openai", model⟩
  key := key
  requestId := "1"

end TokenDealer
