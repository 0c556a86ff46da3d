import TokenDealer.RequestTranslation

set_option autoImplicit true

namespace TokenDealer

open Json

namespace Anthropic

def textBlock (t : String) : Value := .object [("type", .string "text"), ("text", .string t)]

def imageSource (mediaType : String) : ImageData → Value
  | .url url => .object [("type", .string "url"), ("url", .string url)]
  | .base64 data =>
    .object
      [("type", .string "base64"), ("media_type", .string mediaType), ("data", .string data)]

def contentBlock : ContentBlock → Option Value
  | .text t => some (textBlock t)
  | .image mediaType data =>
    some (.object [("type", .string "image"), ("source", imageSource mediaType data)])
  | _ => none

def blocksToAnthropicContent (blocks : List ContentBlock) : Value :=
  .array (blocks.filterMap contentBlock)

def toolUseBlock (call : CanonicalToolCall) : Value :=
  .object
    [("type", .string "tool_use"), ("id", .string call.id), ("name", .string call.name),
      ("input", call.arguments)]

/-- A result of a tool, whose content is the list of its texts. -/
def toolResultBlock : ContentBlock → Option Value
  | .toolResult toolUseId content =>
    some (.object
      [("type", .string "tool_result"), ("tool_use_id", .string toolUseId),
        ("content", .array ((content.filterMap OpenAi.blockText).map .string))])
  | _ => none

def messageToAnthropic (msg : CanonicalMessage) : Value :=
  match msg.role with
  | .user =>
    .object [("role", .string "user"), ("content", blocksToAnthropicContent msg.content)]
  | .assistant =>
    .object
      [("role", .string "assistant"),
        ("content", .array ((msg.content.filterMap OpenAi.blockText).map textBlock ++
          (msg.toolCalls.getD []).map toolUseBlock))]
  | .tool =>
    .object
      [("role", .string "user"), ("content", .array (msg.content.filterMap toolResultBlock))]
  | .system => .object [("role", .string "user"), ("content", .array [])]

def toolToAnthropic (tool : CanonicalTool) : Value :=
  .object
    [("name", .string tool.name), ("description", .ofOption .string tool.description),
      ("input_schema", tool.parameters)]

def toolChoiceToAnthropic : ToolChoice → Value
  | .auto => .object [("type", .string "auto")]
  | .none => .object [("type", .string "none")]
  | .required => .object [("type", .string "any")]
  | .specific name => .object [("type", .string "tool"), ("name", .string name)]

def buildBody (req : CanonicalRequest) : Value :=
  let body :=
    [("model", .string req.selectedModel),
      ("messages", .array (req.messages.map messageToAnthropic)),
      ("max_tokens", .ofU32 (req.maxTokens.getD 4096)), ("stream", .bool req.stream)]
  let body := Table.setSome "system" (req.system.map .string) body
  let body := Table.setSome "temperature" (req.temperature.map .ofF32) body
  let body := Table.setSome "top_p" (req.topP.map .ofF32) body
  let body :=
    Table.setSome "stop_sequences" (req.stop.map fun stop => .array (stop.map .string)) body
  let tools := req.tools.map fun tools => .array (tools.map toolToAnthropic)
  let body := Table.setSome "tools" tools body
  .object (Table.setSome "tool_choice" (req.toolChoice.map toolChoiceToAnthropic) body)

theorem get_messages (req : CanonicalRequest) :
    (buildBody req).get "messages" = some (.array (req.messages.map messageToAnthropic)) := by
  simp (disch := decide) only [buildBody, Value.get_object, Table.get_setSome_of_ne,
    Table.get_cons_self, Table.get_cons_of_ne]

end Anthropic

/-- Content that is text, as a string or in parts. -/
def HasText (v : Value) (s : String) : Prop :=
  ∃ parts, HasParts v parts ∧ parts.all Part.isText ∧ partsText parts = s

namespace Anthropic

/-- A message that carries the result of a tool. -/
def CarriesResult (out : Value) (id s : String) : Prop :=
  ∃ blocks, out.get "content" = some (.array blocks) ∧ ∃ block ∈ blocks,
    block.getStr "type" = some "tool_result" ∧ block.getStr "tool_use_id" = some id ∧
      ∃ content, block.get "content" = some content ∧ HasText content s

/-- A message of the user without content. -/
def emptyMessage : Value := .object [("role", .string "user"), ("content", .array [])]

theorem not_carriesResult (id s : String) : ¬ CarriesResult emptyMessage id s := by
  intro h
  obtain ⟨blocks, hblocks, block, hmem, -⟩ := h
  cases hblocks
  cases hmem

/-- Of text no block is the result of a tool. -/
theorem filterMap_toolResultBlock {parts : List Part} :
    (parts.map Part.toBlock).filterMap toolResultBlock = [] := by
  rw [List.filterMap_map, List.filterMap_eq_nil_iff]
  intro part _
  cases part <;> rfl

/-- A message of a tool with text goes out as a message of the user without content. -/
theorem messageToAnthropic_tool (text : Json.Text) {msg : InboundMessage}
    (hrole : msg.role = "tool") (hcontent : HasText msg.content s) :
    messageToAnthropic (messageToCanonical text msg) = emptyMessage := by
  obtain ⟨parts, hparts, -⟩ := hcontent
  have htool : (messageToCanonical text msg).role = .tool := by
    rw [messageToCanonical, hrole]
    rfl
  have hblocks : (messageToCanonical text msg).content = parts.map Part.toBlock :=
    contentToBlocks_hasParts hparts
  rw [messageToAnthropic, htool, hblocks]
  dsimp only
  rw [filterMap_toolResultBlock, emptyMessage]

/-- No result of a tool that is a text reaches the service: where its message stood, the body has a
message without any result. -/
theorem toolResult_never_sent (text : Json.Text) (r : InboundRequest) (tier : Tier)
    (selectedModel selectedProvider requestId : String) {before after : List InboundMessage}
    {msg : InboundMessage}
    (hmessages : (r.messages.filter fun msg => !isSystem msg) = before ++ msg :: after)
    (hrole : msg.role = "tool") (hcontent : HasText msg.content s) :
    ∃ req, r.intoCanonical text tier selectedModel selectedProvider requestId = .ok req ∧
      ∃ outs, (buildBody req).get "messages" = some (.array outs) ∧
        ∃ out, outs[before.length]? = some out ∧ ∀ id, ¬ CarriesResult out id s := by
  obtain ⟨req, hreq, hcanonical, -⟩ :=
    intoCanonical_eq text r tier selectedModel selectedProvider requestId
  refine ⟨req, hreq, _, get_messages req, emptyMessage, ?_, fun id => not_carriesResult id s⟩
  have hlength : ((before.map (messageToCanonical text)).map messageToAnthropic).length =
      before.length := by
    rw [List.length_map, List.length_map]
  rw [hcanonical, hmessages, List.map_append, List.map_append, List.map_cons, List.map_cons,
    messageToAnthropic_tool text hrole hcontent, ← hlength,
    List.getElem?_append_right (Nat.le_refl _), Nat.sub_self]
  rfl

def toolMessage : InboundMessage :=
  { role := "tool", content := .string "a cat", toolCallId := some "c1" }

theorem toolResult_never_sent_sample :
    ∃ req, sampleConversation.intoCanonical sampleText .standard "claude" "anthropic" "1" =
        .ok req ∧
      ∃ outs, (buildBody req).get "messages" = some (.array outs) ∧
        ∃ out, outs[2]? = some out ∧ ∀ id, ¬ CarriesResult out id "a cat" := by
  have hmessages : (sampleConversation.messages.filter fun msg => !isSystem msg) =
      (sampleConversation.messages.filter fun msg => msg.role ∈ ["user", "assistant"]) ++
        toolMessage :: [] := rfl
  exact toolResult_never_sent sampleText sampleConversation .standard "claude" "anthropic" "1"
    hmessages rfl ⟨[.text "a cat"], .string _, rfl, rfl⟩

/-- The conversation calls a tool and has its result. The body has the call, but behind it a message
with nothing in it. -/
theorem toolResult_lost :
    ∃ req, sampleConversation.intoCanonical sampleText .standard "claude" "anthropic" "1" =
        .ok req ∧
      ∃ question, (buildBody req).get "messages" = some (.array
        [question,
          .object
            [("role", .string "assistant"), ("content", .array
              [textBlock "", toolUseBlock ⟨"c1", "search", sampleObject⟩])],
          emptyMessage]) ∧
      ∀ id, ¬ CarriesResult emptyMessage id "a cat" :=
  ⟨_, rfl, _, rfl, fun id => not_carriesResult id "a cat"⟩

end Anthropic

end TokenDealer
