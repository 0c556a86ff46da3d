import TokenDealer.StreamAdapters

set_option autoImplicit true

namespace TokenDealer

open Json

/-- An answer of an upstream to a completion: its body as a text, and as the JSON it reads as. -/
structure JsonAnswer where
  status : Nat
  text : String
  json : AppResult Value

def JsonAnswer.isSuccess (answer : JsonAnswer) : Bool :=
  200 ≤ answer.status && answer.status < 300

/-- What an adapter makes of the answer: without success it is the error of the provider, and
otherwise the response that the adapter reads from its JSON. -/
def completeWith (providerId : String) (parse : Value → AppResult CanonicalResponse)
    (sent : AppResult JsonAnswer) : AppResult CanonicalResponse :=
  match sent with
  | .error e => .error e
  | .ok answer =>
    if !answer.isSuccess then .error (.providerError providerId answer.status answer.text)
    else answer.json.bind parse

/-- A count that may be missing. -/
def readCount (u : Value) (key : String) : Option UInt32 :=
  ((u.get key).bind Value.asU64).map UInt64.toUInt32

namespace Anthropic

def parseBlock (block : Value) : Option ContentBlock :=
  if block.getStr "type" = some "text" then (block.getStr "text").map .text
  else if block.getStr "type" = some "tool_use" then
    some (.toolUse ((block.getStr "id").getD "") ((block.getStr "name").getD "")
      ((block.get "input").getD .null))
  else none

def parseUsage (u : Value) : Usage where
  inputTokens := u.getCount "input_tokens"
  outputTokens := u.getCount "output_tokens"
  cacheReadTokens := readCount u "cache_read_input_tokens"
  cacheWriteTokens := readCount u "cache_creation_input_tokens"

def parseAnthropicResponse (v : Value) (providerId : String) : AppResult CanonicalResponse :=
  .ok
    { id := (v.getStr "id").getD ""
      model := (v.getStr "model").getD ""
      provider := providerId
      content := (((v.get "content").bind Value.asArray).getD []).filterMap parseBlock
      finishReason := v.getStr "stop_reason"
      usage := ((v.get "usage").map parseUsage).getD {} }

def complete (providerId : String) (sent : AppResult JsonAnswer) : AppResult CanonicalResponse :=
  completeWith providerId (parseAnthropicResponse · providerId) sent

end Anthropic

namespace Google

def firstCandidate (v : Value) : Option Value :=
  ((v.get "candidates").bind Value.asArray).bind List.head?

/-- A response under the random id it is given. -/
def parseGoogleResponse (uuid : String) (v : Value) (providerId fallbackModel : String) :
    AppResult CanonicalResponse :=
  let parts := (((firstCandidate v).bind fun cand => cand.get "content").bind fun content =>
    content.get "parts").bind Value.asArray
  .ok
    { id := "gemini-" ++ uuid
      model := fallbackModel
      provider := providerId
      content := (parts.getD []).filterMap fun part => (part.getStr "text").map .text
      finishReason :=
        ((firstCandidate v).bind fun cand => cand.getStr "finishReason").map finishReasonName
      usage := ((v.get "usageMetadata").map
        (readUsage "promptTokenCount" "candidatesTokenCount")).getD {} }

def complete (uuid providerId selectedModel : String) (sent : AppResult JsonAnswer) :
    AppResult CanonicalResponse :=
  completeWith providerId (parseGoogleResponse uuid · providerId selectedModel) sent

end Google

namespace OpenAi

def complete (text : Json.Text) (providerId : String) (sent : AppResult JsonAnswer) :
    AppResult CanonicalResponse :=
  completeWith providerId (parseOpenaiResponse text · providerId) sent

end OpenAi

namespace Generic

/-- The response that is read from the JSON of an answer: of its message the text alone. -/
def parseResponse (v : Value) (providerId selectedModel : String) : AppResult CanonicalResponse :=
  let message := (OpenAi.firstChoice v).bind fun choice => choice.get "message"
  .ok
    { id := (v.getStr "id").getD ""
      model := (v.getStr "model").getD selectedModel
      provider := providerId
      content := ((message.bind fun m => m.getStr "content").map fun s => [.text s]).getD []
      finishReason := (OpenAi.firstChoice v).bind fun choice => choice.getStr "finish_reason"
      usage := ((v.get "usage").map (readUsage "prompt_tokens" "completion_tokens")).getD {} }

def complete (providerId selectedModel : String) (sent : AppResult JsonAnswer) :
    AppResult CanonicalResponse :=
  completeWith providerId (parseResponse · providerId selectedModel) sent

end Generic

namespace Responses

/-- The texts of an output item; an item that is no message has none. -/
def itemTexts (item : Value) : List ContentBlock :=
  if item.getStr "type" = some "message" then
    (((item.get "content").bind Value.asArray).getD []).filterMap fun p =>
      (p.getStr "text").map .text
  else []

def parseResponsesResponse (v : Value) (providerId fallbackModel : String) :
    AppResult CanonicalResponse :=
  .ok
    { id := (v.getStr "id").getD ""
      model := (v.getStr "model").getD fallbackModel
      provider := providerId
      content := (((v.get "output").bind Value.asArray).getD []).flatMap itemTexts
      finishReason := some "stop"
      usage := ((v.get "usage").map (readUsage "input_tokens" "output_tokens")).getD {} }

def complete (providerId selectedModel : String) (sent : AppResult JsonAnswer) :
    AppResult CanonicalResponse :=
  completeWith providerId (parseResponsesResponse · providerId selectedModel) sent

end Responses

theorem completeWith_of_success {answer : JsonAnswer} (hsuccess : answer.isSuccess)
    (hjson : answer.json = .ok v) (providerId : String)
    (parse : Value → AppResult CanonicalResponse) :
    completeWith providerId parse (.ok answer) = parse v := by
  rw [completeWith, hsuccess, hjson]
  rfl

end TokenDealer
