import TokenDealer.JsonValue

set_option autoImplicit true

namespace TokenDealer

inductive Role where
  | system
  | user
  | assistant
  | tool
  deriving DecidableEq, Repr

inductive ImageData where
  | url (url : String)
  | base64 (data : String)
  deriving DecidableEq, Repr

inductive AudioData where
  | base64 (data : String)
  deriving DecidableEq, Repr

inductive VideoData where
  | url (url : String)
  | base64 (data : String)
  deriving DecidableEq, Repr

inductive ContentBlock where
  | text (text : String)
  | image (mediaType : String) (data : ImageData)
  | audio (mediaType : String) (data : AudioData)
  | video (mediaType : String) (data : VideoData)
  | toolUse (id name : String) (input : Json.Value)
  | toolResult (toolUseId : String) (content : List ContentBlock)
  deriving Repr

structure CanonicalToolCall where
  id : String
  name : String
  arguments : Json.Value
  deriving Repr

/-- The content is always a list of blocks, never a raw string. -/
structure CanonicalMessage where
  role : Role
  content : List ContentBlock
  name : Option String
  toolCallId : Option String
  toolCalls : Option (List CanonicalToolCall)
  deriving Repr

structure CanonicalTool where
  name : String
  description : Option String
  parameters : Json.Value
  deriving Repr

inductive ToolChoice where
  | auto
  | none
  | required
  | specific (name : String)
  deriving DecidableEq, Repr

inductive Tier where
  | simple
  | standard
  | complex
  | reasoning
  | highContext
  | multimodal
  deriving DecidableEq, Repr

namespace Tier

def asStr : Tier → String
  | simple => "simple"
  | standard => "standard"
  | complex => "complex"
  | reasoning => "reasoning"
  | highContext => "high_context"
  | multimodal => "multimodal"

def parse (s : String) : Option Tier :=
  if s = "simple" then some simple
  else if s = "standard" then some standard
  else if s = "complex" then some complex
  else if s = "reasoning" then some reasoning
  else if s = "high_context" ∨ s = "high-context" then some highContext
  else if s = "multimodal" ∨ s = "mm" then some multimodal
  else none

theorem parse_asStr (t : Tier) : parse t.asStr = some t := by
  cases t <;> decide

end Tier

/-- What the chat handler learns about a request besides its content. -/
structure CanonicalMetadata where
  agentType : Option String := none
  specificityCategory : Option String := none
  deriving Repr

/-- Single-precision numbers are held as their bits. -/
structure CanonicalRequest where
  messages : List CanonicalMessage
  system : Option String
  maxTokens : Option UInt32
  temperature : Option UInt32
  topP : Option UInt32
  stop : Option (List String)
  stream : Bool
  tools : Option (List CanonicalTool)
  toolChoice : Option ToolChoice
  tier : Tier
  selectedModel : String
  selectedProvider : String
  requestId : String
  metadata : CanonicalMetadata := {}
  deriving Repr

structure Usage where
  inputTokens : UInt32 := 0
  outputTokens : UInt32 := 0
  cacheReadTokens : Option UInt32 := none
  cacheWriteTokens : Option UInt32 := none
  deriving DecidableEq, Repr

structure CanonicalResponse where
  id : String
  model : String
  provider : String
  content : List ContentBlock
  finishReason : Option String
  usage : Usage
  deriving Repr

structure ContentDelta where
  text : Option String := none
  toolUse : Option CanonicalToolCall := none
  deriving Repr

structure CanonicalChunk where
  id : String
  model : String
  delta : ContentDelta
  finishReason : Option String
  usage : Option Usage
  deriving Repr

end TokenDealer
