import TokenDealer.OpenAi

set_option autoImplicit true

namespace TokenDealer

open Json Incremental

/-- The identity of a stream: the random id it was given and the model that was asked for. -/
structure StreamId where
  messageId : String
  modelId : String
  deriving DecidableEq, Repr

namespace StreamId

variable (ids : StreamId)

def textChunk (t : String) (finishReason : Option String) : CanonicalChunk where
  id := ids.messageId
  model := ids.modelId
  delta := { text := some t }
  finishReason := finishReason
  usage := none

def endChunk (finishReason : Option String) (usage : Option Usage) : CanonicalChunk where
  id := ids.messageId
  model := ids.modelId
  delta := {}
  finishReason := finishReason
  usage := usage

end StreamId

/-- The two counts of a usage object, under the names a service gives them. -/
def readUsage (input output : String) (u : Value) : Usage where
  inputTokens := u.getCount input
  outputTokens := u.getCount output

namespace Anthropic

variable (ids : StreamId)

/-- The text of a text delta. -/
def deltaText (v : Value) : Option String := do
  let delta ← v.get "delta"
  if delta.getStr "type" = some "text_delta" then delta.getStr "text" else none

def onValue (emittedText : String) (v : Value) : String × List CanonicalChunk :=
  match v.getStr "type" with
  | none => (emittedText, [])
  | some event =>
    if event = "content_block_delta" then
      match deltaText v with
      | none => (emittedText, [])
      | some t => (emittedText ++ t, [ids.textChunk t none])
    else if event = "message_delta" then
      match v.get "usage" with
      | none => (emittedText, [])
      | some usage =>
        let stopReason := (v.get "delta").bind fun d => d.getStr "stop_reason"
        let usage : Usage := { outputTokens := usage.getCount "output_tokens" }
        (emittedText, [ids.endChunk stopReason (some usage)])
    else (emittedText, [])

/-- The text that was put out is kept, and a stream with any gets a closing chunk. -/
def machine : StreamMachine where
  State := String
  init := ""
  skipsDone := true
  onValue := onValue ids
  finish emittedText := if emittedText ≠ "" then [ids.endChunk (some "end_turn") none] else []

end Anthropic

namespace Google

variable (ids : StreamId)

def finishReasonName (s : String) : String :=
  if s = "STOP" then "stop"
  else if s = "MAX_TOKENS" then "length"
  else if s = "SAFETY" then "content_filter"
  else s

def partText (part : Value) : Option String :=
  (part.getStr "text").bind fun t => if t ≠ "" then some t else none

def candidateChunks (usage : Option Usage) (cand : Value) : List CanonicalChunk :=
  let finishReason := (cand.getStr "finishReason").map finishReasonName
  let parts := ((cand.get "content").bind fun c => c.get "parts").bind Value.asArray
  let texts := (parts.getD []).filterMap partText
  texts.map (ids.textChunk · finishReason) ++
    (if finishReason.isSome then [ids.endChunk finishReason usage] else [])

def onValue (finalUsage : Option Usage) (v : Value) : Option Usage × List CanonicalChunk :=
  let usage := (v.get "usageMetadata").map (readUsage "promptTokenCount" "candidatesTokenCount")
  let finalUsage := usage.or finalUsage
  match ((v.get "candidates").bind Value.asArray).bind List.head? with
  | none => (finalUsage, [])
  | some cand => (finalUsage, candidateChunks ids finalUsage cand)

/-- The marker of the end is no JSON, and nothing else passes over it. -/
def machine : StreamMachine where
  State := Option Usage
  init := none
  skipsDone := false
  onValue := onValue ids
  finish
    | none => []
    | some usage => [ids.endChunk (some "stop") (some usage)]

end Google

namespace Generic

variable (text : Json.Text) (ids : StreamId)

def parseOpenaiCompatChunk (v : Value) (modelId : String) : Option CanonicalChunk :=
  OpenAi.parseChunk text (readUsage "prompt_tokens" "completion_tokens") v modelId

def nameChunk (chunk : CanonicalChunk) : CanonicalChunk :=
  if chunk.id = "" then { chunk with id := ids.messageId } else chunk

def machine : StreamMachine where
  State := Unit
  init := ()
  skipsDone := true
  onValue _ v := ((), ((parseOpenaiCompatChunk text v ids.modelId).map (nameChunk ids)).toList)
  finish _ := []

end Generic

namespace Responses

variable (ids : StreamId)

structure State where
  acc : String := ""
  lastUsage : Option Usage := none
  deriving DecidableEq, Repr

def onValue (s : State) (v : Value) : State × List CanonicalChunk :=
  let event := (v.getStr "type").getD ""
  if event = "response.output_text.delta" then
    match v.getStr "delta" with
    | none => (s, [])
    | some d => ({ s with acc := s.acc ++ d }, [ids.textChunk d none])
  else if event = "response.completed" then
    match v.get "response" with
    | none => (s, [])
    | some resp =>
      let usage := (resp.get "usage").map (readUsage "input_tokens" "output_tokens")
      let lastUsage := usage.or s.lastUsage
      ({ s with lastUsage := lastUsage }, [ids.endChunk (some "stop") lastUsage])
  else (s, [])

def machine : StreamMachine where
  State := State
  init := {}
  skipsDone := true
  onValue := onValue ids
  finish s :=
    if s.acc ≠ "" ∧ s.lastUsage = none then [ids.endChunk (some "stop") none] else []

end Responses

/-- The adapters that read a stream of server-sent events. -/
inductive SseAdapter where
  | openai
  | anthropic
  | google
  | generic
  | responses
  deriving DecidableEq, Repr

def SseAdapter.machine (text : Json.Text) (ids : StreamId) : SseAdapter → StreamMachine
  | openai => OpenAi.machine text ids.modelId
  | anthropic => Anthropic.machine ids
  | google => Google.machine ids
  | generic => Generic.machine text ids
  | responses => Responses.machine ids

/-- A byte stream has one layout in events and an unfinished rest, and whatever chunks it arrives
in, every adapter puts out the parse of these events. -/
theorem stream_chunking (text : Json.Text) (ids : StreamId) (adapter : SseAdapter)
    (bytes : List UInt8) :
    ∃ events rest, Blocks newline bytes events rest ∧
      (∀ events' rest', Blocks newline bytes events' rest' → events' = events ∧ rest' = rest) ∧
      ∀ chunks : List (List UInt8), chunks.flatten = bytes →
        (adapter.machine text ids).stream text (chunks.map .ok) =
          ((adapter.machine text ids).parseEvents text events).map .ok := by
  obtain ⟨events, rest, -, hblocks⟩ := drain_blocks (d := newline) bytes
  refine ⟨events, rest, hblocks, fun events' rest' h' => hblocks.unique h', ?_⟩
  rintro chunks rfl
  exact (adapter.machine text ids).stream_blocks text hblocks

end TokenDealer
