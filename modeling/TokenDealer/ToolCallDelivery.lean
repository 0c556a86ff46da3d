import Mathlib.Data.List.Basic
import Mathlib.Data.List.Forall2
import TokenDealer.Completion
import TokenDealer.Outbound

set_option autoImplicit true

namespace TokenDealer

open Json

/-- A part of what an upstream answers: a piece of its text, or a tool that it calls. -/
inductive AnswerPart where
  | text (t : String)
  | call (call : CanonicalToolCall)

namespace AnswerPart

def getText : AnswerPart → Option String
  | text t => some t
  | call _ => none

def getCall : AnswerPart → Option CanonicalToolCall
  | text _ => none
  | call c => some c

def toBlock : AnswerPart → ContentBlock
  | text t => .text t
  | call c => .toolUse c.id c.name c.arguments

end AnswerPart

section Formats

variable (text : Json.Text)

/-- A tool call as an OpenAI server writes it, its arguments as the text of a JSON value. -/
structure OpenAi.Calls (v : Value) (call : CanonicalToolCall) : Prop where
  id : v.getStr "id" = some call.id
  name : (v.get "function").bind (fun f => f.getStr "name") = some call.name
  arguments : ∃ s, (v.get "function").bind (fun f => f.getStr "arguments") = some s ∧
    text.parse s = some call.arguments

/-- A response of an OpenAI server: the text is the content of the message and the calls are a list
of their own. Either may be missing or null. -/
def OpenAi.Answers (v : Value) (parts : List AnswerPart) : Prop :=
  ∃ message calls, (OpenAi.firstChoice v).bind (fun choice => choice.get "message") =
      some message ∧
    List.Forall₂ (OpenAi.Calls text) (((message.get "tool_calls").bind Value.asArray).getD [])
      calls ∧
    parts = ((message.getStr "content").map AnswerPart.text).toList ++ calls.map .call

/-- A content block of an Anthropic message. A block of another type stands for no part. -/
inductive Anthropic.Spells (v : Value) : List AnswerPart → Prop where
  | text (htype : v.getStr "type" = some "text") (htext : v.getStr "text" = some t) :
      Anthropic.Spells v [.text t]
  | toolUse (htype : v.getStr "type" = some "tool_use") (hid : v.getStr "id" = some call.id)
      (hname : v.getStr "name" = some call.name) (hinput : v.get "input" = some call.arguments) :
      Anthropic.Spells v [.call call]
  | other (htype : v.getStr "type" = some kind) (htext : kind ≠ "text")
      (htool : kind ≠ "tool_use") : Anthropic.Spells v []

def Anthropic.Answers (v : Value) (parts : List AnswerPart) : Prop :=
  ∃ blocks groups, v.get "content" = some (.array blocks) ∧
    List.Forall₂ Anthropic.Spells blocks groups ∧ parts = groups.flatten

/-- A part of an output message. A refusal has no text. -/
inductive Responses.PartSpells (v : Value) : List AnswerPart → Prop where
  | text (htype : v.getStr "type" = some "output_text") (htext : v.getStr "text" = some t) :
      Responses.PartSpells v [.text t]
  | refusal (htype : v.getStr "type" = some "refusal") (htext : v.getStr "text" = none) :
      Responses.PartSpells v []

/-- An output item of a response. -/
inductive Responses.Spells (v : Value) : List AnswerPart → Prop where
  | message (htype : v.getStr "type" = some "message") (hcontent : v.get "content" =
        some (.array contents)) (hparts : List.Forall₂ Responses.PartSpells contents groups) :
      Responses.Spells v groups.flatten
  | functionCall (htype : v.getStr "type" = some "function_call")
      (hid : v.getStr "call_id" = some call.id) (hname : v.getStr "name" = some call.name)
      (harguments : v.getStr "arguments" = some s) (hparse : text.parse s = some call.arguments) :
      Responses.Spells v [.call call]
  | other (htype : v.getStr "type" = some kind) (hmessage : kind ≠ "message")
      (hcall : kind ≠ "function_call") : Responses.Spells v []

def Responses.Answers (v : Value) (parts : List AnswerPart) : Prop :=
  ∃ items groups, v.get "output" = some (.array items) ∧
    List.Forall₂ (Responses.Spells text) items groups ∧ parts = groups.flatten

/-- The client gets the text of an answer in one piece, and its calls one by one. -/
def Delivered (created : Int64) (parsed : AppResult CanonicalResponse)
    (parts : List AnswerPart) : Prop :=
  ∃ r message, parsed = .ok r ∧
    (OpenAi.firstChoice (Outbound.responseToOpenai text created r)).bind
      (fun choice => choice.get "message") = some message ∧
    message.get "content" = some (.string (Str.concat (parts.filterMap AnswerPart.getText))) ∧
    List.Forall₂ (OpenAi.Calls text) (((message.get "tool_calls").bind Value.asArray).getD [])
      (parts.filterMap AnswerPart.getCall)

end Formats

section Delivery

variable {text : Json.Text}

theorem delivered_iff (created : Int64) (r : CanonicalResponse) (parts : List AnswerPart) :
    Delivered text created (.ok r) parts ↔
      Outbound.textFromBlocks r.content = Str.concat (parts.filterMap AnswerPart.getText) ∧
      List.Forall₂ (OpenAi.Calls text) (r.content.filterMap (Outbound.toolCall text))
        (parts.filterMap AnswerPart.getCall) := by
  rw [← Outbound.asArray_toolCalls]
  constructor
  · intro h
    obtain ⟨r', message, hr, hmessage, hcontent, hcalls⟩ := h
    cases hr
    cases hmessage
    exact ⟨Value.string.inj (Option.some.inj hcontent), hcalls⟩
  · intro h
    exact ⟨r, _, rfl, rfl, congrArg (fun t => some (Value.string t)) h.1, h.2⟩

/-- The arguments of every call survive being printed and parsed again. -/
def CallsReadBack (text : Json.Text) (parts : List AnswerPart) : Prop :=
  ∀ call, .call call ∈ parts → text.parse (text.print call.arguments) = some call.arguments

theorem calls_toolCallToOpenai {call : CanonicalToolCall}
    (h : text.parse (text.print call.arguments) = some call.arguments) :
    OpenAi.Calls text (OpenAi.toolCallToOpenai text call.id call.name call.arguments) call :=
  ⟨rfl, rfl, _, rfl, h⟩

theorem textFromBlocks_parts (parts : List AnswerPart) :
    Outbound.textFromBlocks (parts.map AnswerPart.toBlock) =
      Str.concat (parts.filterMap AnswerPart.getText) := by
  rw [Outbound.textFromBlocks, List.filterMap_map]
  exact congrArg (fun f => Str.concat (List.filterMap f parts))
    (funext fun part => by cases part <;> rfl)

/-- An answer that is read into its blocks is delivered. -/
theorem delivered_of_content {r : CanonicalResponse} {parts : List AnswerPart}
    (hcontent : r.content = parts.map AnswerPart.toBlock) (hread : CallsReadBack text parts)
    (created : Int64) : Delivered text created (.ok r) parts := by
  rw [delivered_iff, hcontent]
  refine ⟨textFromBlocks_parts parts, ?_⟩
  clear hcontent
  induction parts with
  | nil => exact .nil
  | cons part parts ih =>
    have hrest := ih fun call hcall => hread call (List.mem_cons_of_mem _ hcall)
    cases part with
    | text t => exact hrest
    | call call =>
      exact .cons (calls_toolCallToOpenai (hread call List.mem_cons_self)) hrest

/-- What is read group by group. -/
theorem flatMap_spells {R : Value → List AnswerPart → Prop} {f : Value → List β}
    {g : AnswerPart → Option β} (hf : ∀ v parts, R v parts → f v = parts.filterMap g)
    (h : List.Forall₂ R vs groups) : vs.flatMap f = groups.flatten.filterMap g := by
  induction h with
  | nil => rfl
  | cons hv _ ih =>
    rw [List.flatMap_cons, List.flatten_cons, List.filterMap_append, hf _ _ hv, ih]

theorem OpenAi.parseToolCall_calls (h : OpenAi.Calls text v call) :
    OpenAi.parseToolCall text v = .toolUse call.id call.name call.arguments := by
  obtain ⟨s, hs, hparse⟩ := h.arguments
  rw [OpenAi.parseToolCall, h.id, h.name, hs]
  dsimp only [Option.getD_some]
  rw [hparse, Option.getD_some]

theorem OpenAi.map_parseToolCall_calls (h : List.Forall₂ (OpenAi.Calls text) vs calls) :
    vs.map (OpenAi.parseToolCall text) =
      (calls.map AnswerPart.call).map AnswerPart.toBlock := by
  induction h with
  | nil => rfl
  | cons hv _ ih =>
    rw [List.map_cons, List.map_cons, List.map_cons, OpenAi.parseToolCall_calls hv, ih]
    rfl

theorem OpenAi.answers_delivered (h : OpenAi.Answers text v parts)
    (hread : CallsReadBack text parts) (created : Int64) (providerId : String) :
    Delivered text created (OpenAi.parseOpenaiResponse text v providerId) parts := by
  obtain ⟨message, calls, hmessage, hcalls, rfl⟩ := h
  apply delivered_of_content _ hread
  rw [hmessage]
  dsimp only
  rw [Outbound.messageContent_eq, OpenAi.map_parseToolCall_calls hcalls, List.map_append]
  cases message.getStr "content" <;> rfl

theorem Anthropic.parseBlock_spells (h : Anthropic.Spells v parts) :
    (Anthropic.parseBlock v).toList = parts.filterMap (some ∘ AnswerPart.toBlock) := by
  cases h with
  | text htype htext =>
    rw [Anthropic.parseBlock, if_pos htype, htext]
    rfl
  | toolUse htype hid hname hinput =>
    rw [Anthropic.parseBlock, htype, if_neg (by decide), if_pos rfl, hid, hname, hinput]
    rfl
  | other htype htext htool =>
    rw [Anthropic.parseBlock, htype, if_neg fun h => htext (Option.some.inj h),
      if_neg fun h => htool (Option.some.inj h)]
    rfl

/-- The content of a message is read block by block. -/
theorem Anthropic.content_answers (h : Anthropic.Answers v parts) :
    (((v.get "content").bind Value.asArray).getD []).filterMap Anthropic.parseBlock =
      parts.map AnswerPart.toBlock := by
  obtain ⟨blocks, groups, hcontent, hblocks, rfl⟩ := h
  rw [hcontent]
  dsimp only [Option.bind_some, Value.asArray, Option.getD_some]
  have hflat := flatMap_spells (R := Anthropic.Spells) (fun _ _ => parseBlock_spells) hblocks
  rw [List.filterMap_eq_flatMap_toList, hflat]
  exact congrFun List.filterMap_eq_map _

theorem Anthropic.answers_delivered (h : Anthropic.Answers v parts)
    (hread : CallsReadBack text parts) (created : Int64) (providerId : String) :
    Delivered text created (Anthropic.parseAnthropicResponse v providerId) parts :=
  delivered_of_content (Anthropic.content_answers h) hread created

/-- The texts of an answer as blocks. -/
def AnswerPart.textBlock (part : AnswerPart) : Option ContentBlock := part.getText.map .text

theorem Responses.getStr_partSpells (h : Responses.PartSpells v parts) :
    ((v.getStr "text").map ContentBlock.text).toList = parts.filterMap AnswerPart.textBlock := by
  cases h with
  | text htype htext =>
    rw [htext]
    rfl
  | refusal htype htext =>
    rw [htext]
    rfl

theorem Responses.itemTexts_spells (h : Responses.Spells text v parts) :
    Responses.itemTexts v = parts.filterMap AnswerPart.textBlock := by
  cases h with
  | message htype hcontent hparts =>
    rw [Responses.itemTexts, if_pos htype, hcontent]
    dsimp only [Option.bind_some, Value.asArray, Option.getD_some]
    have hflat := flatMap_spells (R := PartSpells) (fun _ _ => getStr_partSpells) hparts
    rw [List.filterMap_eq_flatMap_toList, hflat]
  | functionCall htype _ _ _ _ =>
    rw [Responses.itemTexts, htype, if_neg (by decide)]
    rfl
  | other htype hmessage _ =>
    rw [Responses.itemTexts, htype, if_neg fun h => hmessage (Option.some.inj h)]
    rfl

/-- An answer of the Responses service is delivered only as far as it is text. -/
theorem Responses.answers_delivered_iff (h : Responses.Answers text v parts) (created : Int64)
    (providerId fallbackModel : String) :
    Delivered text created (Responses.parseResponsesResponse v providerId fallbackModel) parts ↔
      ∀ call, .call call ∉ parts := by
  obtain ⟨items, groups, houtput, hitems, rfl⟩ := h
  have hcontent : (((v.get "output").bind Value.asArray).getD []).flatMap Responses.itemTexts =
      groups.flatten.filterMap AnswerPart.textBlock := by
    rw [houtput]
    exact flatMap_spells (fun _ _ => itemTexts_spells) hitems
  rw [Responses.parseResponsesResponse, delivered_iff, hcontent]
  generalize groups.flatten = parts
  have htexts : (parts.filterMap AnswerPart.textBlock).filterMap OpenAi.blockText =
      parts.filterMap AnswerPart.getText := by
    rw [List.filterMap_filterMap]
    exact congrArg (List.filterMap · parts) (funext fun part => by cases part <;> rfl)
  have hnone : (parts.filterMap AnswerPart.textBlock).filterMap (Outbound.toolCall text) = [] := by
    rw [List.filterMap_filterMap, List.filterMap_eq_nil_iff]
    intro part _
    cases part <;> rfl
  rw [hnone, List.forall₂_nil_left_iff, List.filterMap_eq_nil_iff]
  constructor
  · intro h call hcall
    cases h.2 _ hcall
  · intro h
    refine ⟨congrArg Str.concat htexts, ?_⟩
    intro part hpart
    cases part with
    | text t => rfl
    | call call => exact absurd hpart (h call)

end Delivery

/-- The answers of OpenAI and Anthropic are delivered, text and tool calls. Those of the Responses
service are exactly if they call no tool, since its function calls are passed over. -/
theorem toolCalls_delivered (text : Json.Text) (created : Int64) (v : Value)
    (parts : List AnswerPart) (providerId fallbackModel : String) :
    (OpenAi.Answers text v parts → CallsReadBack text parts →
      Delivered text created (OpenAi.parseOpenaiResponse text v providerId) parts) ∧
    (Anthropic.Answers v parts → CallsReadBack text parts →
      Delivered text created (Anthropic.parseAnthropicResponse v providerId) parts) ∧
    (Responses.Answers text v parts →
      (Delivered text created (Responses.parseResponsesResponse v providerId fallbackModel) parts ↔
        ∀ call, .call call ∉ parts)) :=
  ⟨fun h hread => OpenAi.answers_delivered h hread created providerId,
    fun h hread => Anthropic.answers_delivered h hread created providerId,
    fun h => Responses.answers_delivered_iff h created providerId fallbackModel⟩

def searchCall : CanonicalToolCall := ⟨"c1", "search", sampleObject⟩

def toolMessageAnswer : Value :=
  .object [("content", .array
    [.object [("type", .string "text"), ("text", .string "let me see")],
      .object
        [("type", .string "tool_use"), ("id", .string "c1"), ("name", .string "search"),
          ("input", sampleObject)]])]

theorem toolCalls_delivered_sample :
    Delivered sampleText 0 (Anthropic.parseAnthropicResponse toolMessageAnswer "anthropic")
      [.text "let me see", .call searchCall] := by
  apply (toolCalls_delivered sampleText 0 toolMessageAnswer _ "anthropic" "claude").2.1
  · refine ⟨_, [[.text "let me see"], [.call searchCall]], rfl, ?_, rfl⟩
    exact .cons (.text rfl rfl) (.cons (.toolUse rfl rfl rfl rfl) .nil)
  · intro call hcall
    simp only [List.mem_cons, List.not_mem_nil, reduceCtorEq, AnswerPart.call.injEq, false_or,
      or_false] at hcall
    rw [hcall]
    exact parse_sampleSource

def functionCallAnswer : Value :=
  .object [("output", .array
    [.object
      [("type", .string "function_call"), ("call_id", .string "c1"), ("name", .string "search"),
        ("arguments", .string sampleSource)]])]

/-- A function call of the Responses service is not delivered. -/
theorem functionCall_undelivered :
    Responses.Answers sampleText functionCallAnswer [.call searchCall] ∧
    ¬ Delivered sampleText 0
      (Responses.parseResponsesResponse functionCallAnswer "openai" "gpt-4o")
      [.call searchCall] := by
  have hanswers : Responses.Answers sampleText functionCallAnswer [.call searchCall] :=
    ⟨_, [[.call searchCall]], rfl,
      .cons (.functionCall rfl rfl rfl rfl parse_sampleSource) .nil, rfl⟩
  refine ⟨hanswers, ?_⟩
  rw [Responses.answers_delivered_iff hanswers]
  exact fun h => h searchCall (List.mem_singleton_self _)

end TokenDealer
