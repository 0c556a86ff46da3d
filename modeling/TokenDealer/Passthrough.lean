import TokenDealer.JsonValue
import TokenDealer.Registry

set_option autoImplicit true

namespace TokenDealer

/-- The refusal of a pass-through request, with the extra fields of a format mismatch. -/
structure PassthroughError where
  message : String
  code : Option String := none
  expectedFormat : Option String := none
  actualFormat : Option String := none
  deriving DecidableEq, Repr

namespace Passthrough

/-- The model field of a body, empty when it has none. -/
def requestModel (body : Json.Value) : String := (body.getStr "model").getD ""

/-- The reading that all pass-through handlers share: two parts first, three parts otherwise. -/
def splitRef (model : String) : Option (String × String) :=
  match ProviderRegistry.splitModelRef model with
  | some parts => some parts
  | none =>
    match Str.splitn 3 '/' model with
    | [_, p, m] => some (p, m)
    | _ => none

/-- The provider that the image, audio and video endpoints forward a body to. -/
def multimodal (registry : ProviderRegistry) (body : Json.Value) :
    Except PassthroughError (String × ProviderAdapter) :=
  let model := requestModel body
  if model = "" then .error { message := "model field required" }
  else
    match splitRef model with
    | none => .error { message := s!"invalid model ref: {model}" }
    | some (providerId, _) =>
      match registry providerId with
      | none => .error { message := s!"unknown provider: {providerId}" }
      | some adapter => .ok (providerId, adapter)

def isMessagesCompatible (adapterKind : String) : Bool :=
  adapterKind = "anthropic" || adapterKind = "kiro"

def isResponsesCompatible (adapterKind : String) : Bool :=
  adapterKind = "openai" || adapterKind = "openrouter" || adapterKind = "responses"

def adapterWireFormat : ProviderType → String
  | .anthropic => "anthropic"
  | .kiro => "kiro"
  | .openai => "openai"
  | .openrouter => "openrouter"
  | .responses => "responses"
  | .google => "google"
  | .generic => "generic"
  | _ => "openai"

/-- The provider that a wire-format endpoint forwards a body to. -/
def wire (registry : ProviderRegistry) (config : RouterConfig) (endpoint expectedFormat : String)
    (check : String → Bool) (body : Json.Value) :
    Except PassthroughError (String × ProviderAdapter) :=
  let model := requestModel body
  if model = "" then .error { message := "model field required" }
  else
    match splitRef model with
    | none => .error { message := s!"invalid model ref: {model}" }
    | some (providerId, _) =>
      let entry := config.providers.find? fun p => p.id = providerId
      let adapterKind := (entry.map fun p => adapterWireFormat p.providerType).getD "unknown"
      if check adapterKind then
        match registry providerId with
        | none => .error { message := s!"unknown provider: {providerId}" }
        | some adapter => .ok (providerId, adapter)
      else
        .error
          { message := s!"/{endpoint} received but tier primary is {providerId}/{adapterKind}; " ++
              "use /v1/chat/completions or change tier primary"
            code := some "wire_format_mismatch"
            expectedFormat := some expectedFormat
            actualFormat := some adapterKind }

def messages (registry : ProviderRegistry) (config : RouterConfig) :
    Json.Value → Except PassthroughError (String × ProviderAdapter) :=
  wire registry config "/v1/messages" "anthropic" isMessagesCompatible

def responses (registry : ProviderRegistry) (config : RouterConfig) :
    Json.Value → Except PassthroughError (String × ProviderAdapter) :=
  wire registry config "/v1/responses" "openai-responses" isResponsesCompatible

/-- A body is only ever forwarded to the provider that its model string is read as. -/
theorem multimodal_ok (h : multimodal registry body = .ok (p, adapter)) :
    (splitRef (requestModel body)).map Prod.fst = some p := by
  rw [multimodal] at h
  split at h
  · cases h
  · cases hsplit : splitRef (requestModel body) with
    | none =>
      rw [hsplit] at h
      cases h
    | some parts =>
      rw [hsplit] at h
      dsimp only at h
      split at h
      · cases h
      · cases h
        rfl

theorem wire_ok (h : wire registry config endpoint expectedFormat check body = .ok (p, adapter)) :
    (splitRef (requestModel body)).map Prod.fst = some p := by
  rw [wire] at h
  split at h
  · cases h
  · cases hsplit : splitRef (requestModel body) with
    | none =>
      rw [hsplit] at h
      cases h
    | some parts =>
      rw [hsplit] at h
      dsimp only at h
      split at h
      · split at h
        · cases h
        · cases h
          rfl
      · cases h

end Passthrough

end TokenDealer
