import TokenDealer.AnthropicBody
import TokenDealer.StreamAdapters

set_option autoImplicit true

namespace TokenDealer

open Json

/-- The texts among the blocks of a message, as one string. -/
def joinedText (blocks : List ContentBlock) : String :=
  Str.concat (blocks.filterMap OpenAi.blockText)

/-- A message whose content is one string. -/
def plainMessage (role text : String) : Value :=
  .object [("role", .string role), ("content", .string text)]

/-- The system prompt as a message before all others, and the texts of each message. -/
def plainMessages (req : CanonicalRequest) : List Value :=
  (req.system.map (plainMessage "system")).toList ++
    req.messages.map fun msg => plainMessage (OpenAi.roleName msg.role) (joinedText msg.content)

namespace Google

/-- The role of a message at the service, which has no system messages. -/
def roleName : Role → Option String
  | .user => some "user"
  | .tool => some "user"
  | .assistant => some "model"
  | .system => none

/-- The service takes no links to images. -/
def part : ContentBlock → Option Value
  | .text t => some (.object [("text", .string t)])
  | .image mediaType (.base64 data) =>
    some (.object [("inline_data", .object
      [("mime_type", .string mediaType), ("data", .string data)])])
  | _ => none

def content (msg : CanonicalMessage) : Option Value :=
  (roleName msg.role).map fun role =>
    .object [("role", .string role), ("parts", .array (msg.content.filterMap part))]

def systemInstruction (system : String) : Value :=
  .object [("parts", .array [.object [("text", .string system)]])]

def generationConfig (req : CanonicalRequest) : List (String × Value) :=
  let config := Table.setSome "maxOutputTokens" (req.maxTokens.map .ofU32) []
  let config := Table.setSome "temperature" (req.temperature.map .ofF32) config
  let config := Table.setSome "topP" (req.topP.map .ofF32) config
  Table.setSome "stopSequences" (req.stop.map fun stop => .array (stop.map .string)) config

def buildBody (req : CanonicalRequest) : Value :=
  let body := [("contents", Value.array (req.messages.filterMap content))]
  let body := Table.setSome "systemInstruction" (req.system.map systemInstruction) body
  let config := generationConfig req
  .object (if config.isEmpty then body else Table.set "generationConfig" (.object config) body)

end Google

namespace Responses

def toolToResponses (tool : CanonicalTool) : Value :=
  .object
    [("type", .string "function"), ("name", .string tool.name),
      ("description", .ofOption .string tool.description), ("parameters", tool.parameters)]

def buildBody (req : CanonicalRequest) : Value :=
  let body :=
    [("model", .string req.selectedModel), ("input", .array (plainMessages req)),
      ("stream", .bool req.stream)]
  let body := Table.setSome "max_output_tokens" (req.maxTokens.map .ofU32) body
  let body := Table.setSome "temperature" (req.temperature.map .ofF32) body
  let body := Table.setSome "top_p" (req.topP.map .ofF32) body
  .object (Table.setSome "tools"
    (req.tools.map fun tools => .array (tools.map toolToResponses)) body)

end Responses

namespace Generic

def buildBody (req : CanonicalRequest) : Value :=
  let body :=
    [("model", .string req.selectedModel), ("messages", .array (plainMessages req)),
      ("stream", .bool req.stream)]
  let body := Table.setSome "max_tokens" (req.maxTokens.map .ofU32) body
  .object (Table.setSome "temperature" (req.temperature.map .ofF32) body)

end Generic

def SseAdapter.buildBody (text : Json.Text) : SseAdapter → CanonicalRequest → Value
  | openai => OpenAi.buildBody text
  | anthropic => Anthropic.buildBody
  | google => Google.buildBody
  | generic => Generic.buildBody
  | responses => Responses.buildBody

section Members

variable (req : CanonicalRequest)

theorem Anthropic.get_system : (buildBody req).get "system" = req.system.map .string := by
  simp (disch := decide) only [buildBody, Value.get_object, Table.get_setSome_self,
    Table.get_setSome_of_ne, Table.get_cons_of_ne, Table.get_nil, Option.or_none]

theorem Google.get_contents :
    (buildBody req).get "contents" = some (.array (req.messages.filterMap content)) := by
  rw [buildBody, Value.get_object]
  split
  · simp (disch := decide) only [Table.get_setSome_of_ne, Table.get_cons_self]
  · simp (disch := decide) only [Table.get_set_of_ne, Table.get_setSome_of_ne,
      Table.get_cons_self]

theorem Google.get_systemInstruction :
    (buildBody req).get "systemInstruction" = req.system.map systemInstruction := by
  rw [buildBody, Value.get_object]
  split
  · simp (disch := decide) only [Table.get_setSome_self, Table.get_cons_of_ne, Table.get_nil,
      Option.or_none]
  · simp (disch := decide) only [Table.get_set_of_ne, Table.get_setSome_self,
      Table.get_cons_of_ne, Table.get_nil, Option.or_none]

theorem Responses.get_input :
    (buildBody req).get "input" = some (.array (plainMessages req)) := by
  simp (disch := decide) only [buildBody, Value.get_object, Table.get_setSome_of_ne,
    Table.get_cons_self, Table.get_cons_of_ne]

theorem Generic.get_messages :
    (buildBody req).get "messages" = some (.array (plainMessages req)) := by
  simp (disch := decide) only [buildBody, Value.get_object, Table.get_setSome_of_ne,
    Table.get_cons_self, Table.get_cons_of_ne]

end Members

end TokenDealer
