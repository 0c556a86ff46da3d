import TokenDealer.Inbound

set_option autoImplicit true

namespace Json

/-- A structure is read from an object, or from an array that has its fields in their order. -/
def Value.fields (names : List String) : Value → Option (List (String × Value))
  | .object members => some members
  | .array items => if items.length ≤ names.length then some (names.zip items) else none
  | _ => none

def Value.asU32 (v : Value) : Option UInt32 :=
  v.asU64.bind fun n => if n.toNat < UInt32.size then some n.toUInt32 else none

/-- Every element of an array has to be readable. -/
def Value.asListOf (read : Value → Option α) : Value → Option (List α)
  | .array items => items.mapM read
  | _ => none

def required (members : List (String × Value)) (name : String) (read : Value → Option α) :
    Option α :=
  (Table.get name members).bind read

/-- A field that may be missing or null. -/
def optional (members : List (String × Value)) (name : String) (read : Value → Option α) :
    Option (Option α) :=
  match Table.get name members with
  | none => some none
  | some .null => some none
  | some v => (read v).map some

/-- A field that may be missing. -/
def defaulted (members : List (String × Value)) (name : String) (read : Value → Option α)
    (default : α) : Option α :=
  match Table.get name members with
  | none => some default
  | some v => read v

end Json

namespace TokenDealer

open Json (Value required optional defaulted)

/-- What the request's derived reader leaves to its library: the single that a number is rounded to,
and how the library words what it refuses. -/
structure Serde where
  toF32 : Json.Number → UInt32
  refusal : Value → String

def InboundFunction.fromValue (v : Value) : Option InboundFunction := do
  let members ← v.fields ["name", "arguments"]
  return {
    name := ← required members "name" Value.asStr
    arguments := ← required members "arguments" Value.asStr }

def InboundToolCall.fromValue (v : Value) : Option InboundToolCall := do
  let members ← v.fields ["id", "type", "function"]
  return {
    id := ← required members "id" Value.asStr
    kind := ← required members "type" Value.asStr
    function := ← required members "function" InboundFunction.fromValue }

def InboundToolDef.fromValue (v : Value) : Option InboundToolDef := do
  let members ← v.fields ["name", "description", "parameters"]
  return {
    name := ← required members "name" Value.asStr
    description := ← optional members "description" Value.asStr
    parameters := ← required members "parameters" some }

def InboundTool.fromValue (v : Value) : Option InboundTool := do
  let members ← v.fields ["type", "function"]
  return {
    kind := ← required members "type" Value.asStr
    function := ← required members "function" InboundToolDef.fromValue }

def InboundMessage.fromValue (v : Value) : Option InboundMessage := do
  let members ← v.fields ["role", "content", "name", "tool_call_id", "tool_calls"]
  return {
    role := ← required members "role" Value.asStr
    content := ← required members "content" some
    name := ← optional members "name" Value.asStr
    toolCallId := ← optional members "tool_call_id" Value.asStr
    toolCalls := ← optional members "tool_calls" (Value.asListOf InboundToolCall.fromValue) }

def Serde.asF32 (serde : Serde) : Value → Option UInt32
  | .number n => some (serde.toF32 n)
  | _ => none

def InboundRequest.fromValue (serde : Serde) (v : Value) : Option InboundRequest := do
  let members ← v.fields ["model", "messages", "max_tokens", "temperature", "top_p", "stop",
    "stream", "tools", "tool_choice"]
  return {
    model := ← required members "model" Value.asStr
    messages := ← required members "messages" (Value.asListOf InboundMessage.fromValue)
    maxTokens := ← optional members "max_tokens" Value.asU32
    temperature := ← optional members "temperature" serde.asF32
    topP := ← optional members "top_p" serde.asF32
    stop := ← optional members "stop" (Value.asListOf Value.asStr)
    stream := ← defaulted members "stream" Value.asBool false
    tools := ← optional members "tools" (Value.asListOf InboundTool.fromValue)
    toolChoice := ← optional members "tool_choice" some }

structure PreRouting where
  modelString : String
  request : InboundRequest
  deriving Repr

def parseInbound (serde : Serde) (body : Value) : AppResult PreRouting :=
  match InboundRequest.fromValue serde body with
  | some req => .ok ⟨req.model, req⟩
  | none =>
    let e := serde.refusal body
    .error (.badRequest s!"invalid request body: {e}")

end TokenDealer
