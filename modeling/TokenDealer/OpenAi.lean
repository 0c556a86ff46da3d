import TokenDealer.Inbound
import TokenDealer.Sse

set_option autoImplicit true

namespace TokenDealer

namespace OpenAi

open Json

def isText : ContentBlock → Bool
  | .text _ => true
  | _ => false

def blockText : ContentBlock → Option String
  | .text t => some t
  | _ => none

def imageUrl (mediaType : String) : ImageData → String
  | .url url => url
  | .base64 data => "data:" ++ mediaType ++ ";base64," ++ data

def textPart (t : String) : Value := .object [("type", .string "text"), ("text", .string t)]

def imagePart (url : String) : Value :=
  .object [("type", .string "image_url"), ("image_url", .object [("url", .string url)])]

def blockPart : ContentBlock → Option Value
  | .text t => some (textPart t)
  | .image mediaType data => some (imagePart (imageUrl mediaType data))
  | _ => none

/-- The content of a message: text only is one string, anything else a list of parts. -/
def contentToOpenai (blocks : List ContentBlock) : Value :=
  if blocks.any fun b => !isText b then .array (blocks.filterMap blockPart)
  else .string (Str.concat (blocks.filterMap blockText))

def roleName : Role → String
  | .system => "system"
  | .user => "user"
  | .assistant => "assistant"
  | .tool => "tool"

variable (text : Json.Text)

def toolCallToOpenai (id name : String) (arguments : Value) : Value :=
  .object
    [("id", .string id), ("type", .string "function"),
      ("function", .object
        [("name", .string name), ("arguments", .string (text.print arguments))])]

def messageToOpenai (msg : CanonicalMessage) : Value :=
  let out :=
    [("role", .string (roleName msg.role)), ("content", contentToOpenai msg.content)]
  let out := Table.setSome "name" (msg.name.map .string) out
  let out := Table.setSome "tool_call_id" (msg.toolCallId.map .string) out
  let calls := msg.toolCalls.map fun calls =>
    .array (calls.map fun call => toolCallToOpenai text call.id call.name call.arguments)
  .object (Table.setSome "tool_calls" calls out)

def toolToOpenai (tool : CanonicalTool) : Value :=
  .object
    [("type", .string "function"),
      ("function", .object
        [("name", .string tool.name), ("description", .ofOption .string tool.description),
          ("parameters", tool.parameters)])]

def toolChoiceToOpenai : ToolChoice → Value
  | .auto => .string "auto"
  | .none => .string "none"
  | .required => .string "required"
  | .specific name =>
    .object [("type", .string "function"), ("function", .object [("name", .string name)])]

def systemMessage (system : String) : Value :=
  .object [("role", .string "system"), ("content", .string system)]

def buildBody (req : CanonicalRequest) : Value :=
  let messages := (req.system.map systemMessage).toList ++ req.messages.map (messageToOpenai text)
  let body :=
    [("model", .string req.selectedModel), ("messages", .array messages),
      ("stream", .bool req.stream)]
  let body := Table.setSome "max_tokens" (req.maxTokens.map .ofU32) body
  let body := Table.setSome "temperature" (req.temperature.map .ofF32) body
  let body := Table.setSome "top_p" (req.topP.map .ofF32) body
  let body := Table.setSome "stop" (req.stop.map fun stop => .array (stop.map .string)) body
  let tools := req.tools.map fun tools => .array (tools.map toolToOpenai)
  let body := Table.setSome "tools" tools body
  .object (Table.setSome "tool_choice" (req.toolChoice.map toolChoiceToOpenai) body)

/-- The members of a message that goes out. -/
theorem get_messageToOpenai (msg : CanonicalMessage) :
    (messageToOpenai text msg).get "role" = some (.string (roleName msg.role)) ∧
    (messageToOpenai text msg).get "content" = some (contentToOpenai msg.content) ∧
    (messageToOpenai text msg).get "name" = msg.name.map .string ∧
    (messageToOpenai text msg).get "tool_call_id" = msg.toolCallId.map .string ∧
    (messageToOpenai text msg).get "tool_calls" = msg.toolCalls.map fun calls =>
      .array (calls.map fun call => toolCallToOpenai text call.id call.name call.arguments) := by
  simp (disch := decide) only [messageToOpenai, Value.get_object, Table.get_setSome_self,
    Table.get_setSome_of_ne, Table.get_cons_self, Table.get_cons_of_ne, Table.get_nil,
    Option.or_none, and_self]

/-- The members of a request's body that the conversation, the tools and the limits go into. -/
theorem get_buildBody (req : CanonicalRequest) :
    (buildBody text req).get "messages" = some (.array
      ((req.system.map systemMessage).toList ++ req.messages.map (messageToOpenai text))) ∧
    (buildBody text req).get "max_tokens" = req.maxTokens.map .ofU32 ∧
    (buildBody text req).get "stop" = req.stop.map (fun stop => .array (stop.map .string)) ∧
    (buildBody text req).get "tools" =
      req.tools.map (fun tools => .array (tools.map toolToOpenai)) ∧
    (buildBody text req).get "tool_choice" = req.toolChoice.map toolChoiceToOpenai := by
  simp (disch := decide) only [buildBody, Value.get_object, Table.get_setSome_self,
    Table.get_setSome_of_ne, Table.get_cons_self, Table.get_cons_of_ne, Table.get_nil,
    Option.or_none, and_self]

def parseOpenaiUsage (u : Value) : Usage where
  inputTokens := u.getCount "prompt_tokens"
  outputTokens := u.getCount "completion_tokens"
  cacheReadTokens :=
    (((u.get "prompt_tokens_details").bind fun d => d.get "cached_tokens").bind Value.asU64).map
      UInt64.toUInt32
  cacheWriteTokens := none

/-- A tool call that a response names. Its arguments are JSON text; without any they are an empty
object, and text that is not JSON counts as null. -/
def parseToolCall (call : Value) : ContentBlock :=
  let arguments := ((call.get "function").bind fun f => f.getStr "arguments").getD "\x7b\x7d"
  .toolUse ((call.getStr "id").getD "")
    (((call.get "function").bind fun f => f.getStr "name").getD "")
    ((text.parse arguments).getD .null)

def firstChoice (v : Value) : Option Value :=
  ((v.get "choices").bind Value.asArray).bind List.head?

def messageContent (message : Value) : List ContentBlock :=
  let content := ((message.getStr "content").map ContentBlock.text).toList
  match (message.get "tool_calls").bind Value.asArray with
  | none => content
  | some calls => content ++ calls.map (parseToolCall text)

def parseOpenaiResponse (v : Value) (providerId : String) : AppResult CanonicalResponse :=
  .ok
    { id := (v.getStr "id").getD ""
      model := (v.getStr "model").getD ""
      provider := providerId
      content :=
        match (firstChoice v).bind fun choice => choice.get "message" with
        | none => []
        | some message => messageContent text message
      finishReason := (firstChoice v).bind fun choice => choice.getStr "finish_reason"
      usage := ((v.get "usage").map parseOpenaiUsage).getD {} }

/-- The first tool call of a chunk, all its fields optional. -/
def chunkToolCall (call : Value) : CanonicalToolCall where
  id := (call.getStr "id").getD ""
  name := ((call.get "function").bind fun f => f.getStr "name").getD ""
  arguments :=
    (((call.get "function").bind fun f => f.getStr "arguments").bind text.parse).getD .null

/-- A chunk of an OpenAI-shaped stream, with a reading of its usage. -/
def parseChunk (readUsage : Value → Usage) (v : Value) (modelId : String) :
    Option CanonicalChunk := do
  let choice ← firstChoice v
  let delta ← choice.get "delta"
  some
    { id := (v.getStr "id").getD ""
      model := modelId
      delta :=
        { text := delta.getStr "content"
          toolUse := (((delta.get "tool_calls").bind Value.asArray).bind List.head?).map
            (chunkToolCall text) }
      finishReason := choice.getStr "finish_reason"
      usage := (v.get "usage").map readUsage }

def parseOpenaiChunk (v : Value) (modelId : String) : Option CanonicalChunk :=
  parseChunk text parseOpenaiUsage v modelId

def machine (modelId : String) : StreamMachine where
  State := Unit
  init := ()
  skipsDone := true
  onValue _ v := ((), (parseOpenaiChunk text v modelId).toList)
  finish _ := []

end OpenAi

end TokenDealer
