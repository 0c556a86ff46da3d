import TokenDealer.AppError
import TokenDealer.Canonical
import TokenDealer.Str

set_option autoImplicit true

namespace TokenDealer

structure InboundFunction where
  name : String
  arguments : String
  deriving DecidableEq, Repr

structure InboundToolCall where
  id : String
  kind : String
  function : InboundFunction
  deriving DecidableEq, Repr

structure InboundToolDef where
  name : String
  description : Option String
  parameters : Json.Value
  deriving Repr

structure InboundTool where
  kind : String
  function : InboundToolDef
  deriving Repr

/-- The content is a string or a list of blocks, as the client sent it. -/
structure InboundMessage where
  role : String
  content : Json.Value
  name : Option String := none
  toolCallId : Option String := none
  toolCalls : Option (List InboundToolCall) := none
  deriving Repr

structure InboundRequest where
  model : String
  messages : List InboundMessage
  maxTokens : Option UInt32 := none
  temperature : Option UInt32 := none
  topP : Option UInt32 := none
  stop : Option (List String) := none
  stream : Bool := false
  tools : Option (List InboundTool) := none
  toolChoice : Option Json.Value := none
  deriving Repr

def parseToolChoice : Json.Value → Option ToolChoice
  | .string s =>
    if s = "auto" then some .auto
    else if s = "none" then some .none
    else if s = "required" then some .required
    else none
  | .object members =>
    (((Table.get "function" members).bind fun f => f.get "name").bind Json.Value.asStr).map
      .specific
  | _ => none

def contentToText : Json.Value → String
  | .string s => s
  | .array parts => Str.concat (parts.filterMap fun p => (p.get "text").bind Json.Value.asStr)
  | _ => ""

/-- The media type of an image link: of a data URL, all that stands before the first semicolon. -/
def imageMediaType (url : String) : String :=
  if Str.startsWith url "data:" then
    match Str.splitOnce ';' url with
    | some (front, _) => front
    | none => url
  else "image/*"

def sourceField (members : List (String × Json.Value)) (field : String) : Option String :=
  (((Table.get "source" members).bind Json.Value.asObject).bind (Table.get field)).bind
    Json.Value.asStr

section

variable (text : Json.Text)

mutual

def contentToBlocks : Json.Value → List ContentBlock
  | .string s => [.text s]
  | .array items => blocksFromValues items
  | v => [.text (text.print v)]

def blocksFromValues : List Json.Value → List ContentBlock
  | [] => []
  | v :: rest =>
    match blockFromValue v with
    | some block => block :: blocksFromValues rest
    | none => blocksFromValues rest

/-- A part of a type it does not know, or without a field it needs, is dropped. -/
def blockFromValue : Json.Value → Option ContentBlock
  | .object members =>
    match (Table.get "type" members).bind Json.Value.asStr with
    | none => none
    | some kind =>
      if kind = "text" then
        ((Table.get "text" members).bind Json.Value.asStr).map .text
      else if kind = "image_url" then
        ((((Table.get "image_url" members).bind Json.Value.asObject).bind
          (Table.get "url")).bind Json.Value.asStr).map fun url =>
            .image (imageMediaType url) (.url url)
      else if kind = "image" then do
        let mediaType ← sourceField members "media_type"
        let data ← sourceField members "data"
        some (.image mediaType (.base64 data))
      else if kind = "audio" then do
        let mediaType ← sourceField members "media_type"
        let data ← sourceField members "data"
        some (.audio mediaType (.base64 data))
      else if kind = "tool_use" then do
        let id ← (Table.get "id" members).bind Json.Value.asStr
        let name ← (Table.get "name" members).bind Json.Value.asStr
        some (.toolUse id name ((Table.get "input" members).getD .null))
      else if kind = "tool_result" then do
        let toolUseId ← (Table.get "tool_use_id" members).bind Json.Value.asStr
        some (.toolResult toolUseId (nestedContent members))
      else none
  | _ => none

/-- The blocks of the first content member, none when there is no such member. -/
def nestedContent : List (String × Json.Value) → List ContentBlock
  | [] => []
  | (key, v) :: rest => if key = "content" then contentToBlocks v else nestedContent rest

end

theorem blocksFromValues_eq_filterMap (items : List Json.Value) :
    blocksFromValues text items = items.filterMap (blockFromValue text) := by
  induction items with
  | nil => simp only [blocksFromValues, List.filterMap_nil]
  | cons v rest ih =>
    rw [blocksFromValues, ih, List.filterMap_cons]
    cases blockFromValue text v <;> rfl

theorem nestedContent_eq (members : List (String × Json.Value)) :
    nestedContent text members =
      ((Table.get "content" members).map (contentToBlocks text)).getD [] := by
  induction members with
  | nil => simp only [nestedContent, Table.get, Option.map_none, Option.getD_none]
  | cons m rest ih =>
    obtain ⟨key, v⟩ := m
    by_cases hk : key = "content"
    · simp only [nestedContent, Table.get, if_pos hk, Option.map_some, Option.getD_some]
    · simp only [nestedContent, Table.get, if_neg hk, ih]

def InboundToolCall.toCanonical (call : InboundToolCall) : CanonicalToolCall where
  id := call.id
  name := call.function.name
  arguments := (text.parse call.function.arguments).getD .null

def roleOf (role : String) : Role :=
  if role = "user" then .user
  else if role = "assistant" then .assistant
  else if role = "tool" then .tool
  else if role = "system" then .system
  else .user

def messageToCanonical (msg : InboundMessage) : CanonicalMessage where
  role := roleOf msg.role
  content := contentToBlocks text msg.content
  name := msg.name
  toolCallId := msg.toolCallId
  toolCalls := msg.toolCalls.map (List.map (InboundToolCall.toCanonical text))

/-- The loop over the messages, with the system text and the other messages found so far. -/
def extractSystemFrom (system : Option String) (out : List CanonicalMessage) :
    List InboundMessage → Option String × List CanonicalMessage
  | [] => (system, out)
  | msg :: rest =>
    if msg.role = "system" then
      let text := contentToText msg.content
      let joined := match system with
        | none => text
        | some prev => prev ++ "\n" ++ text
      extractSystemFrom (some joined) out rest
    else extractSystemFrom system (out ++ [messageToCanonical text msg]) rest

def extractSystem (messages : List InboundMessage) : Option String × List CanonicalMessage :=
  extractSystemFrom text none [] messages

def InboundTool.toCanonical (tool : InboundTool) : CanonicalTool where
  name := tool.function.name
  description := tool.function.description
  parameters := tool.function.parameters

def InboundRequest.intoCanonical (r : InboundRequest) (tier : Tier)
    (selectedModel selectedProvider requestId : String) : AppResult CanonicalRequest :=
  let (system, messages) := extractSystem text r.messages
  .ok
    { messages := messages
      system := system
      maxTokens := r.maxTokens
      temperature := r.temperature
      topP := r.topP
      stop := r.stop
      stream := r.stream
      tools := r.tools.map (List.map InboundTool.toCanonical)
      toolChoice := r.toolChoice.bind parseToolChoice
      tier := tier
      selectedModel := selectedModel
      selectedProvider := selectedProvider
      requestId := requestId }

end

end TokenDealer
