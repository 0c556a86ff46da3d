import TokenDealer.Pipeline
import TokenDealer.Scorer

set_option autoImplicit true

namespace TokenDealer

/-- A chat request as it reaches the routing: what the specificity detector makes of it when it is
switched on is left open. -/
structure ChatRequest where
  scoring : ScoringContext
  detected : Option String := none
  deriving Repr

namespace ChatRequest

/-- A request without router headers. -/
def plain (inbound : InboundRequest) : ChatRequest := { scoring := { inbound } }

end ChatRequest

/-- What the chat handler asks the pipeline to route by. -/
structure RouteChoice where
  tier : Tier
  modelOverride : Option String
  deriving DecidableEq, Repr

/-- The primary of the category detected, when there is one and the detector is on. -/
def specificityPrimary (config : RouterConfig) (request : ChatRequest) : Option String :=
  if config.specificity.enabled then request.detected else none

/-- The handler reads the model string itself before it asks the scorer. -/
def routeChoice (tools : TextTools) (config : RouterConfig) (request : ChatRequest) :
    RouteChoice :=
  let model := request.scoring.inbound.model
  let tierHint := Scorer.refTier model
  let modelOverride := tierHint.map fun _ => model
  let score := Scorer.score tools config request.scoring
  { tier := tierHint.getD score.tier
    modelOverride :=
      (specificityPrimary config request).or (modelOverride.or score.modelOverride) }

theorem specificityPrimary_off (hoff : config.specificity.enabled = false)
    (request : ChatRequest) : specificityPrimary config request = none := by
  rw [specificityPrimary, if_neg (by rw [hoff]; exact Bool.false_ne_true)]

/-- Without a tier in the model string and without specificity the scorer alone decides. -/
theorem routeChoice_of_no_tier (tools : TextTools) {request : ChatRequest}
    (href : Scorer.refTier request.scoring.inbound.model = none)
    (hoff : config.specificity.enabled = false) :
    routeChoice tools config request =
      ⟨(Scorer.score tools config request.scoring).tier,
        (Scorer.score tools config request.scoring).modelOverride⟩ := by
  rw [routeChoice, href, specificityPrimary_off hoff]
  rfl

namespace Pipeline

/-- The tier and the route of a chat request. -/
def chatRoute (pipe : Pipeline) (tools : TextTools) (request : ChatRequest) :
    Tier × AppResult SelectedRoute :=
  let choice := routeChoice tools pipe.config request
  (choice.tier, pipe.selectRoute choice.modelOverride choice.tier)

end Pipeline

/-- Models as `/v1/models` names them: every provider with its default model, then what discovery
has found for a provider. -/
def ListedModel (registry : ProviderRegistry) (discovered : List (String × String))
    (providerId modelId : String) : Prop :=
  (∃ adapter, registry providerId = some adapter ∧ adapter.defaultModel = modelId) ∨
    (providerId, modelId) ∈ discovered

end TokenDealer
