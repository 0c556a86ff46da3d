import TokenDealer.Completion
import TokenDealer.InBandErrors
import TokenDealer.Outbound
import TokenDealer.SseRendering

set_option autoImplicit true

namespace TokenDealer

open Json Incremental

def Usage.withoutCacheRead (u : Usage) : Usage := { u with cacheReadTokens := none }

namespace CompatLoop

variable (text : Json.Text) (ids : StreamId)

/-- The two loops take the same values from a stream. -/
theorem values_eq (loop : CompatLoop) (input : List (AppResult (List UInt8))) :
    (loop.machine text ids).values text input = (openai.machine text ids).values text input := by
  cases loop <;> rfl

/-- A loop puts out the chunks of the values, and nothing of its own. -/
theorem stream_eq (loop : CompatLoop) (input : List (AppResult (List UInt8))) :
    (loop.machine text ids).stream text input =
      (((loop.machine text ids).values text input).filterMap (loop.chunk text ids)).map .ok ++
        ((failure input).map .error).toList := by
  rw [StreamMachine.stream_values, emit_chunk]
  cases failure input with
  | none => cases loop <;> rfl
  | some e => rfl

theorem received_stream (loop : CompatLoop) (input : List (AppResult (List UInt8))) :
    received ((loop.machine text ids).stream text input) =
      ((loop.machine text ids).values text input).filterMap (loop.chunk text ids) := by
  rw [stream_eq, received_append]
  cases failure input <;> exact List.append_nil _

theorem mem_stream (loop : CompatLoop) (input : List (AppResult (List UInt8)))
    (c : CanonicalChunk) :
    .ok c ∈ (loop.machine text ids).stream text input ↔
      ∃ v ∈ (loop.machine text ids).values text input, loop.chunk text ids v = some c := by
  have herror : .ok c ∉ ((failure input).map Except.error).toList := by
    cases failure input with
    | none => exact List.not_mem_nil
    | some e =>
      intro h
      cases List.mem_singleton.mp h
  rw [stream_eq, List.mem_append, or_iff_left herror, List.mem_map_of_injective, List.mem_filterMap]
  exact fun _ _ h => Except.ok.inj h

def readUsage : CompatLoop → Value → Usage
  | openai => OpenAi.parseOpenaiUsage
  | generic => TokenDealer.readUsage "prompt_tokens" "completion_tokens"

/-- What does not depend on the id of a chunk is as it was parsed, in either loop. -/
theorem map_chunk {f : CanonicalChunk → β} (hf : ∀ c id, f { c with id := id } = f c)
    (loop : CompatLoop) (v : Value) :
    (loop.chunk text ids v).map f =
      (OpenAi.parseChunk text loop.readUsage v ids.modelId).map f := by
  cases loop with
  | openai => rfl
  | generic =>
    have hname : f ∘ Generic.nameChunk ids = f := by
      funext c
      rw [Function.comp_apply, Generic.nameChunk]
      split
      · exact hf c _
      · rfl
    rw [chunk, Option.map_map, hname]
    rfl

end CompatLoop

section Agreement

def CanonicalChunk.mapUsage (f : Usage → Usage) (c : CanonicalChunk) : CanonicalChunk :=
  { c with usage := c.usage.map f }

def CanonicalResponse.mapUsage (f : Usage → Usage) (r : CanonicalResponse) : CanonicalResponse :=
  { r with usage := f r.usage }

variable (text : Json.Text) (ids : StreamId)

/-- A chunk read with another reading of the usage. -/
theorem OpenAi.parseChunk_mapUsage (f : Usage → Usage) (readUsage : Value → Usage) (v : Value)
    (modelId : String) :
    OpenAi.parseChunk text (f ∘ readUsage) v modelId =
      (OpenAi.parseChunk text readUsage v modelId).map (CanonicalChunk.mapUsage f) := by
  rw [OpenAi.parseChunk, OpenAi.parseChunk]
  cases OpenAi.firstChoice v with
  | none => rfl
  | some choice =>
    simp only [Option.bind_eq_bind, Option.bind_some]
    cases choice.get "delta" with
    | none => rfl
    | some delta =>
      simp only [Option.bind_some, Option.map_some, CanonicalChunk.mapUsage, Option.map_map]

namespace Generic

theorem readUsage_eq :
    readUsage "prompt_tokens" "completion_tokens" =
      Usage.withoutCacheRead ∘ OpenAi.parseOpenaiUsage := rfl

/-- A chunk of the OpenAI adapter as the Generic adapter puts it out. -/
def asGeneric (c : CanonicalChunk) : CanonicalChunk :=
  nameChunk ids (c.mapUsage Usage.withoutCacheRead)

theorem chunk_eq :
    CompatLoop.generic.chunk text ids =
      Option.map (asGeneric ids) ∘ CompatLoop.openai.chunk text ids := by
  funext v
  have hchunk : CompatLoop.generic.chunk text ids v =
      (OpenAi.parseChunk text (readUsage "prompt_tokens" "completion_tokens") v ids.modelId).map
        (nameChunk ids) := rfl
  rw [hchunk, readUsage_eq, OpenAi.parseChunk_mapUsage, Option.map_map]
  rfl

/-- The stream of the Generic adapter is that of the OpenAI adapter, chunk by chunk. -/
theorem stream_eq (input : List (AppResult (List UInt8))) :
    (CompatLoop.generic.machine text ids).stream text input =
      ((CompatLoop.openai.machine text ids).stream text input).map
        (Except.map (asGeneric ids)) := by
  have hitems : ∀ cs : List CanonicalChunk,
      ((cs.map (asGeneric ids)).map .ok : List (AppResult CanonicalChunk)) =
        (cs.map .ok).map (Except.map (asGeneric ids)) := by
    intro cs
    rw [List.map_map, List.map_map]
    rfl
  have hchunks : ((CompatLoop.openai.machine text ids).values text input).filterMap
      (CompatLoop.generic.chunk text ids) =
        (((CompatLoop.openai.machine text ids).values text input).filterMap
          (CompatLoop.openai.chunk text ids)).map (asGeneric ids) := by
    rw [chunk_eq]
    exact List.map_filterMap.symm
  rw [CompatLoop.stream_eq, CompatLoop.stream_eq, CompatLoop.values_eq, List.map_append, hchunks,
    hitems]
  cases failure input <;> rfl

/-- The message of the first choice calls no tools. -/
def NoToolCalls (v : Value) : Prop :=
  ∀ choice message, OpenAi.firstChoice v = some choice → choice.get "message" = some message →
    ((message.get "tool_calls").bind Value.asArray).getD [] = []

theorem messageContent_noToolCalls {message : Value}
    (h : ((message.get "tool_calls").bind Value.asArray).getD [] = []) :
    OpenAi.messageContent text message =
      ((message.getStr "content").map fun s => [ContentBlock.text s]).getD [] := by
  rw [Outbound.messageContent_eq, h, List.map_nil, List.append_nil]
  cases message.getStr "content" <;> rfl

theorem parseResponse_eq {v : Value} (hmodel : (v.getStr "model").isSome) (hcalls : NoToolCalls v)
    (providerId selectedModel : String) :
    parseResponse v providerId selectedModel =
      (OpenAi.parseOpenaiResponse text v providerId).map
        (CanonicalResponse.mapUsage Usage.withoutCacheRead) := by
  obtain ⟨model, hmodel⟩ := Option.isSome_iff_exists.mp hmodel
  have husage : ((v.get "usage").map (readUsage "prompt_tokens" "completion_tokens")).getD {} =
      (((v.get "usage").map OpenAi.parseOpenaiUsage).getD {}).withoutCacheRead := by
    cases v.get "usage" <;> rfl
  rw [parseResponse, OpenAi.parseOpenaiResponse, hmodel, husage]
  cases hchoice : OpenAi.firstChoice v with
  | none => rfl
  | some choice =>
    cases hmessage : choice.get "message" with
    | none =>
      simp only [Option.bind_some, hmessage]
      rfl
    | some message =>
      have hcontent := messageContent_noToolCalls text (hcalls choice message hchoice hmessage)
      simp only [Option.bind_some, hmessage, hcontent]
      rfl

end Generic

/-- The Generic adapter reads like the OpenAI adapter: its streams have the same chunks, except that
it names those without an id and knows no cache; and from an answer that names its model and calls
no tools it builds the same response, again without the cache. -/
theorem Generic.agrees_with_openai (uuid modelId : String) :
    (∃ messageId, messageId ≠ "" ∧ ∀ input,
      (SseAdapter.generic.machine text ⟨"chatcmpl-" ++ uuid, modelId⟩).stream text input =
        ((OpenAi.machine text modelId).stream text input).map
          (Except.map (asGeneric ⟨messageId, modelId⟩))) ∧
    ∀ (answer : JsonAnswer) (v : Value), answer.isSuccess → answer.json = .ok v →
      (v.getStr "model").isSome → NoToolCalls v → ∀ providerId selectedModel,
        complete providerId selectedModel (.ok answer) =
          (OpenAi.parseOpenaiResponse text v providerId).map
            (CanonicalResponse.mapUsage Usage.withoutCacheRead) := by
  constructor
  · have hnonempty : "chatcmpl-" ++ uuid ≠ "" := by
      intro h
      have hlist := congrArg String.toList h
      rw [String.toList_append] at hlist
      cases hlist
    exact ⟨_, hnonempty, stream_eq text ⟨"chatcmpl-" ++ uuid, modelId⟩⟩
  · intro answer v hsuccess hjson hmodel hcalls providerId selectedModel
    rw [complete, completeWith_of_success hsuccess hjson]
    exact parseResponse_eq text hmodel hcalls providerId selectedModel

def plainCompletion : Value :=
  .object
    [("id", .string "c1"), ("model", .string "gpt-4o"),
      ("choices", .array
        [.object
          [("message", .object [("content", .string "hi")]), ("finish_reason", .string "stop")]]),
      ("usage", .object
        [("prompt_tokens", .ofU32 7), ("completion_tokens", .ofU32 2),
          ("prompt_tokens_details", .object [("cached_tokens", .ofU32 3)])])]

theorem Generic.agrees_with_openai_sample :
    complete "relay" "llama" (.ok ⟨200, "", .ok plainCompletion⟩) =
      .ok
        { id := "c1", model := "gpt-4o", provider := "relay", content := [.text "hi"]
          finishReason := some "stop", usage := { inputTokens := 7, outputTokens := 2 } } := by
  refine ((agrees_with_openai sampleText "1" "gpt-4o").2 ⟨200, "", .ok plainCompletion⟩
    plainCompletion rfl rfl rfl ?_ "relay" "llama").trans rfl
  intro choice message hchoice hmessage
  cases hchoice
  cases hmessage
  rfl

end Agreement

end TokenDealer
