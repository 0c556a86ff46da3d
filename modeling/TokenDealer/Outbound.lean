import TokenDealer.OpenAi

set_option autoImplicit true

namespace TokenDealer

open Json

namespace Outbound

variable (text : Json.Text)

def textFromBlocks (blocks : List ContentBlock) : String :=
  Str.concat (blocks.filterMap OpenAi.blockText)

def toolCall : ContentBlock → Option Value
  | .toolUse id name input => some (OpenAi.toolCallToOpenai text id name input)
  | _ => none

def toolCallsFromBlocks (blocks : List ContentBlock) : Option Value :=
  let calls := blocks.filterMap (toolCall text)
  if calls.isEmpty then none else some (.array calls)

/-- The sum of the tokens wraps around, as it does in a release build. -/
def usageToOpenai (u : Usage) : Value :=
  .object
    [("prompt_tokens", .ofU32 u.inputTokens),
      ("completion_tokens", .ofU32 u.outputTokens),
      ("total_tokens", .ofU32 (u.inputTokens + u.outputTokens)),
      ("cache_read_input_tokens", .ofOption .ofU32 u.cacheReadTokens),
      ("cache_creation_input_tokens", .ofOption .ofU32 u.cacheWriteTokens)]

/-- The response of an OpenAI-compatible server, made at the time `created`. -/
def responseToOpenai (created : Int64) (resp : CanonicalResponse) : Value :=
  .object
    [("id", .string resp.id),
      ("object", .string "chat.completion"),
      ("created", .ofI64 created),
      ("model", .string resp.model),
      ("choices", .array
        [.object
          [("index", .ofU32 0),
            ("message", .object
              [("role", .string "assistant"),
                ("content", .string (textFromBlocks resp.content)),
                ("tool_calls", .ofOption id (toolCallsFromBlocks text resp.content))]),
            ("finish_reason", .ofOption .string resp.finishReason)]]),
      ("usage", usageToOpenai resp.usage)]

/-- The tool call of a chunk, alone in its list whatever its place in the answer. -/
def chunkToolCall (call : CanonicalToolCall) : Value :=
  .object
    [("index", .ofU32 0), ("id", .string call.id), ("type", .string "function"),
      ("function", .object
        [("name", .string call.name), ("arguments", .string (text.print call.arguments))])]

def chunkUsage (u : Usage) : Value :=
  .object
    [("prompt_tokens", .ofU32 u.inputTokens),
      ("completion_tokens", .ofU32 u.outputTokens),
      ("total_tokens", .ofU32 (u.inputTokens + u.outputTokens))]

/-- The chunk of an OpenAI-compatible server, made at the time `created`. -/
def chunkToOpenai (created : Int64) (chunk : CanonicalChunk) : Option Value :=
  some (.object
    [("id", .string chunk.id),
      ("object", .string "chat.completion.chunk"),
      ("created", .ofI64 created),
      ("model", .string chunk.model),
      ("choices", .array
        [.object
          [("index", .ofU32 0),
            ("delta", .object
              [("role", .string "assistant"),
                ("content", .ofOption .string chunk.delta.text),
                ("tool_calls", .ofOption (fun call => .array [chunkToolCall text call])
                  chunk.delta.toolUse)]),
            ("finish_reason", .ofOption .string chunk.finishReason)]]),
      ("usage", .ofOption chunkUsage chunk.usage)])

/-- The chunks of a stream, each made at its own time. -/
def chunksToOpenai (clock : Nat → Int64) (chunks : List CanonicalChunk) : List Value :=
  (chunks.mapIdx fun n chunk => chunkToOpenai text (clock n) chunk).reduceOption

def doneSentinel : Value := .string "[DONE]"

/-- What is read of the chunks of a stream one by one does not depend on when they were made. -/
theorem flatMap_chunksToOpenai {p : Value → List β} {q : CanonicalChunk → List β}
    (h : ∀ created chunk v, chunkToOpenai text created chunk = some v → p v = q chunk)
    (clock : Nat → Int64) (chunks : List CanonicalChunk) :
    (chunksToOpenai text clock chunks).flatMap p = chunks.flatMap q := by
  induction chunks generalizing clock with
  | nil => rfl
  | cons chunk chunks ih =>
    have hchunk := h (clock 0) chunk _ rfl
    have hrest := ih fun n => clock (n + 1)
    simp only [chunksToOpenai, List.mapIdx_cons] at hrest ⊢
    rw [List.flatMap_cons, ← hchunk, ← hrest]
    rfl

/-- The tool calls of a response. -/
def toolUses (blocks : List ContentBlock) : List ContentBlock :=
  blocks.filter fun
    | .toolUse _ _ _ => true
    | _ => false

variable {text}

theorem getCount_ofU32 {members : List (String × Value)}
    (h : Table.get key members = some (.ofU32 n)) : (Value.object members).getCount key = n := by
  rw [Value.getCount, Value.get_object, h, Option.bind_some, Value.asU64_ofU32, Option.getD_some]
  exact UInt32.toUInt32_toUInt64 n

theorem asStr_ofOption (o : Option String) : (Value.ofOption Value.string o).asStr = o := by
  cases o <;> rfl

theorem parseToolCall_toolCallToOpenai (h : text.parse (text.print input) = some input)
    (id name : String) :
    OpenAi.parseToolCall text (OpenAi.toolCallToOpenai text id name input) =
      .toolUse id name input := by
  have hread : OpenAi.parseToolCall text (OpenAi.toolCallToOpenai text id name input) =
      .toolUse id name ((text.parse (text.print input)).getD .null) := rfl
  rw [hread, h, Option.getD_some]

/-- The tool calls that are written are read back, one by one. -/
theorem map_parseToolCall {blocks : List ContentBlock}
    (hprint : ∀ id name input, .toolUse id name input ∈ blocks →
      text.parse (text.print input) = some input) :
    (blocks.filterMap (toolCall text)).map (OpenAi.parseToolCall text) = toolUses blocks := by
  induction blocks with
  | nil => rfl
  | cons b blocks ih =>
    have hrest := ih fun id name input hmem => hprint id name input (List.mem_cons_of_mem _ hmem)
    cases b with
    | toolUse id name input =>
      have hcall := parseToolCall_toolCallToOpenai (hprint id name input List.mem_cons_self) id name
      have hcons : (ContentBlock.toolUse id name input :: blocks).filterMap (toolCall text) =
          OpenAi.toolCallToOpenai text id name input :: blocks.filterMap (toolCall text) := rfl
      rw [hcons, List.map_cons, hcall, hrest]
      rfl
    | _ => exact hrest

theorem asArray_toolCalls (blocks : List ContentBlock) :
    (((Value.ofOption id (toolCallsFromBlocks text blocks)).asArray).getD []) =
      blocks.filterMap (toolCall text) := by
  rw [toolCallsFromBlocks]
  cases blocks.filterMap (toolCall text) <;> rfl

theorem messageContent_eq (message : Value) : OpenAi.messageContent text message =
    ((message.getStr "content").map ContentBlock.text).toList ++
      ((((message.get "tool_calls").bind Value.asArray).getD []).map
        (OpenAi.parseToolCall text)) := by
  rw [OpenAi.messageContent]
  cases (message.get "tool_calls").bind Value.asArray with
  | none => exact (List.append_nil _).symm
  | some calls => rfl

theorem textFromBlocks_message (t : String) (blocks : List ContentBlock) :
    textFromBlocks (.text t :: toolUses blocks) = t := by
  have hnone : (toolUses blocks).filterMap OpenAi.blockText = [] := by
    apply List.filterMap_eq_nil_iff.mpr
    intro b hb
    have hkept := (List.mem_filter.mp hb).2
    cases b with
    | toolUse id name input => rfl
    | _ => cases hkept
  have hcons : (ContentBlock.text t :: toolUses blocks).filterMap OpenAi.blockText =
      t :: (toolUses blocks).filterMap OpenAi.blockText := rfl
  rw [textFromBlocks, hcons, hnone]
  rfl

theorem toolUses_message (t : String) (blocks : List ContentBlock) :
    toolUses (.text t :: toolUses blocks) = toolUses blocks := by
  rw [toolUses, List.filter_cons_of_neg Bool.false_ne_true, toolUses, List.filter_filter]
  exact congrArg (List.filter · blocks) (funext fun b => Bool.and_self _)

/-- A response that is written as an OpenAI server's and read by the OpenAI adapter says the
same. -/
theorem response_round_trip {r : CanonicalResponse}
    (hprint : ∀ id name input, .toolUse id name input ∈ r.content →
      text.parse (text.print input) = some input) (created : Int64) (providerId : String) :
    ∃ parsed, OpenAi.parseOpenaiResponse text (responseToOpenai text created r) providerId =
        .ok parsed ∧
      parsed.id = r.id ∧ parsed.model = r.model ∧ parsed.finishReason = r.finishReason ∧
      textFromBlocks parsed.content = textFromBlocks r.content ∧
      toolUses parsed.content = toolUses r.content ∧
      parsed.usage.inputTokens = r.usage.inputTokens ∧
      parsed.usage.outputTokens = r.usage.outputTokens := by
  have hcontent : OpenAi.messageContent text (.object
      [("role", .string "assistant"), ("content", .string (textFromBlocks r.content)),
        ("tool_calls", .ofOption id (toolCallsFromBlocks text r.content))]) =
      .text (textFromBlocks r.content) :: toolUses r.content := by
    rw [messageContent_eq, ← map_parseToolCall hprint, ← asArray_toolCalls]
    rfl
  refine ⟨_, rfl, rfl, rfl, ?_, ?_, ?_, ?_, ?_⟩
  · exact asStr_ofOption r.finishReason
  · exact (congrArg textFromBlocks hcontent).trans (textFromBlocks_message _ _)
  · exact (congrArg toolUses hcontent).trans (toolUses_message _ _)
  · exact getCount_ofU32 rfl
  · exact getCount_ofU32 rfl

def sampleResponse : CanonicalResponse where
  id := "r1"
  model := "gpt-4o"
  provider := "openai"
  content := [.text "let me", .toolUse "c1" "search" sampleObject, .text " see"]
  finishReason := some "tool_calls"
  usage := { inputTokens := 7, outputTokens := 4 }

theorem response_round_trip_sample :
    ∃ parsed, OpenAi.parseOpenaiResponse sampleText (responseToOpenai sampleText 0 sampleResponse)
        "relay" = .ok parsed ∧
      parsed.id = "r1" ∧ parsed.model = "gpt-4o" ∧ parsed.finishReason = some "tool_calls" ∧
      textFromBlocks parsed.content = "let me see" ∧
      toolUses parsed.content = [.toolUse "c1" "search" sampleObject] ∧
      parsed.usage.inputTokens = 7 ∧ parsed.usage.outputTokens = 4 := by
  refine response_round_trip (r := sampleResponse) ?_ 0 "relay"
  intro id name input hmem
  simp only [sampleResponse, List.mem_cons, reduceCtorEq, List.not_mem_nil, or_false, false_or,
    ContentBlock.toolUse.injEq] at hmem
  rw [hmem.2.2]
  exact parse_sampleSource

end Outbound

end TokenDealer
