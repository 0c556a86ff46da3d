import TokenDealer.StreamReasons
import TokenDealer.ToolCallDelivery

set_option autoImplicit true

namespace TokenDealer

open Json Incremental EventStream

/-- What a client has of an answer in the end: its text and tool calls, and the last finish reason
and usage that it was told. -/
@[ext]
structure Accumulated where
  text : String
  toolUses : List ContentBlock
  finishReason : Option String
  usage : Usage

def accumulate (chunks : List CanonicalChunk) : Accumulated where
  text := Str.concat (chunks.filterMap fun c => c.delta.text)
  toolUses := chunks.filterMap fun c =>
    c.delta.toolUse.map fun call => .toolUse call.id call.name call.arguments
  finishReason := (reasons chunks).getLast?
  usage := ((chunks.filterMap CanonicalChunk.usage).getLast?).getD {}

def CanonicalResponse.accumulated (r : CanonicalResponse) : Accumulated where
  text := Outbound.textFromBlocks r.content
  toolUses := Outbound.toolUses r.content
  finishReason := r.finishReason
  usage := r.usage

namespace Anthropic

/-- A message of the service. The text and tool calls are its content blocks. -/
structure Message where
  parts : List AnswerPart
  stopReason : Option String
  inputTokens : UInt64
  outputTokens : UInt64
  cacheRead : Option UInt64
  cacheWrite : Option UInt64

namespace Message

variable (m : Message)

def said : String := Str.concat (m.parts.filterMap AnswerPart.getText)

/-- The counts of a usage object that are known when the message starts. -/
structure Counts (u : Value) : Prop where
  input : (u.get "input_tokens").bind Value.asU64 = some m.inputTokens
  cacheRead : (u.get "cache_read_input_tokens").bind Value.asU64 = m.cacheRead
  cacheWrite : (u.get "cache_creation_input_tokens").bind Value.asU64 = m.cacheWrite

/-- The message as one document. -/
structure Document (v : Value) : Prop where
  parts : Answers v m.parts
  stopReason : v.getStr "stop_reason" = m.stopReason
  usage : ∃ u, v.get "usage" = some u ∧ m.Counts u ∧
    (u.get "output_tokens").bind Value.asU64 = some m.outputTokens

end Message

/-- An event that opens a content block. -/
structure BlockStart (kind : String) (block v : Value) : Prop where
  type : v.getStr "type" = some "content_block_start"
  opens : v.get "content_block" = some block
  kind : block.getStr "type" = some kind

/-- An event that adds a piece to a content block. -/
structure Delta (kind field : String) (v : Value) (piece : String) : Prop where
  type : v.getStr "type" = some "content_block_delta"
  delta : ∃ delta, v.get "delta" = some delta ∧ delta.getStr "type" = some kind ∧
    delta.getStr field = some piece

/-- The events of a content block. The input of a tool comes as the text of a JSON value, or as no
text at all when it is empty. -/
inductive BlockEvents (text : Json.Text) : AnswerPart → List Value → Prop where
  | text (hstart : BlockStart "text" block start)
      (hdeltas : List.Forall₂ (Delta "text_delta" "text") deltas pieces)
      (hstop : stop.getStr "type" = some "content_block_stop") :
      BlockEvents text (.text (Str.concat pieces)) (start :: (deltas ++ [stop]))
  | toolUse (hstart : BlockStart "tool_use" block start) (hid : block.getStr "id" = some call.id)
      (hname : block.getStr "name" = some call.name)
      (hdeltas : List.Forall₂ (Delta "input_json_delta" "partial_json") deltas pieces)
      (hinput : text.parse (Str.concat pieces) = some call.arguments ∨
        Str.concat pieces = "" ∧ call.arguments = .object [])
      (hstop : stop.getStr "type" = some "content_block_stop") :
      BlockEvents text (.call call) (start :: (deltas ++ [stop]))

/-- The message as a stream of events, with pings anywhere in between. -/
def Message.Events (text : Json.Text) (m : Message) (vs : List Value) : Prop :=
  ∃ start groups delta stop,
    (vs.filter fun v => v.getStr "type" ≠ some "ping") =
      start :: (groups.flatten ++ [delta, stop]) ∧
    (start.getStr "type" = some "message_start" ∧
      ∃ u, (start.get "message").bind (fun message => message.get "usage") = some u ∧
        m.Counts u) ∧
    List.Forall₂ (BlockEvents text) m.parts groups ∧
    (delta.getStr "type" = some "message_delta" ∧
      (delta.get "delta").bind (fun d => d.getStr "stop_reason") = m.stopReason ∧
      ∃ u, delta.get "usage" = some u ∧
        (u.get "output_tokens").bind Value.asU64 = some m.outputTokens) ∧
    stop.getStr "type" = some "message_stop"

section Stream

variable (ids : StreamId)

theorem texts_emit (s : String) (vs : List Value) :
    ((emit (onValue ids) s vs).2.filterMap fun c => c.delta.text) = vs.filterMap saidText := by
  rw [List.filterMap_eq_flatMap_toList (f := saidText)]
  refine filterMap_emit ?_ s vs
  intro s v
  rw [onValue_eq, List.filterMap_append]
  cases saidText v <;> cases endUsage v <;> rfl

theorem toolUses_emit (s : String) (vs : List Value) :
    ((emit (onValue ids) s vs).2.filterMap fun c => c.delta.toolUse.map fun call =>
      ContentBlock.toolUse call.id call.name call.arguments) = [] := by
  rw [filterMap_emit (q := fun _ => []), List.flatMap_eq_nil_iff]
  · exact fun _ _ => rfl
  · intro s v
    rw [onValue_eq, List.filterMap_append]
    cases saidText v <;> cases endUsage v <;> rfl

theorem usages_emit (s : String) (vs : List Value) :
    (emit (onValue ids) s vs).2.filterMap CanonicalChunk.usage = vs.filterMap endUsage := by
  rw [List.filterMap_eq_flatMap_toList (f := endUsage)]
  refine filterMap_emit ?_ s vs
  intro s v
  rw [onValue_eq, List.filterMap_append]
  cases saidText v <;> cases endUsage v <;> rfl

end Stream

section Events

theorem endUsage_eq_none (h : v.getStr "type" = some kind) (hne : kind ≠ "message_delta") :
    endUsage v = none := by
  rw [endUsage, h]
  exact if_neg fun he => hne (Option.some.inj he)

theorem saidText_eq_none (h : v.getStr "type" = some kind) (hne : kind ≠ "content_block_delta") :
    saidText v = none := by
  rw [saidText, h]
  exact if_neg fun he => hne (Option.some.inj he)

theorem saidText_delta (h : Delta "text_delta" "text" v piece) : saidText v = some piece := by
  obtain ⟨delta, hdelta, hkind, hpiece⟩ := h.delta
  rw [saidText, if_pos h.type, deltaText, hdelta]
  exact (if_pos hkind).trans hpiece

theorem saidText_other (h : Delta kind field v piece) (hne : kind ≠ "text_delta") :
    saidText v = none := by
  obtain ⟨delta, hdelta, hkind, -⟩ := h.delta
  rw [saidText, if_pos h.type, deltaText, hdelta]
  refine if_neg ?_
  rw [hkind]
  exact fun he => hne (Option.some.inj he)

theorem filterMap_saidText (h : List.Forall₂ (Delta "text_delta" "text") deltas pieces) :
    deltas.filterMap saidText = pieces := by
  induction h with
  | nil => rfl
  | cons hv _ ih => rw [List.filterMap_cons_some (saidText_delta hv), ih]

theorem forall_of_forall₂ {R : α → β → Prop} {P : α → Prop} (hR : ∀ a b, R a b → P a)
    (h : List.Forall₂ R as bs) : ∀ a ∈ as, P a := by
  induction h with
  | nil => exact List.forall_mem_nil _
  | cons hab _ ih => exact List.forall_mem_cons.mpr ⟨hR _ _ hab, ih⟩

/-- Of a content block the text alone is heard. -/
theorem saidText_block (h : BlockEvents text part vs) :
    Str.concat (vs.filterMap saidText) = part.getText.getD "" := by
  cases h with
  | text hstart hdeltas hstop =>
    rw [List.filterMap_cons_none (saidText_eq_none hstart.type (by decide)),
      List.filterMap_append, filterMap_saidText hdeltas,
      List.filterMap_cons_none (saidText_eq_none hstop (by decide))]
    exact congrArg Str.concat (List.append_nil _)
  | toolUse hstart _ _ hdeltas _ hstop =>
    have hnone := List.filterMap_eq_nil_iff.mpr (forall_of_forall₂ (P := (saidText · = none))
      (fun v piece hv => saidText_other hv (by decide)) hdeltas)
    rw [List.filterMap_cons_none (saidText_eq_none hstart.type (by decide)),
      List.filterMap_append, hnone,
      List.filterMap_cons_none (saidText_eq_none hstop (by decide))]
    rfl

/-- No event of a content block tells of the end. -/
theorem endUsage_block (h : BlockEvents text part vs) : ∀ v ∈ vs, endUsage v = none := by
  have hdelta : ∀ {kind field : String} {deltas : List Value} {pieces : List String},
      List.Forall₂ (Delta kind field) deltas pieces → ∀ v ∈ deltas, endUsage v = none :=
    forall_of_forall₂ fun v piece hv => endUsage_eq_none hv.type (by decide)
  cases h with
  | text hstart hdeltas hstop =>
    rw [List.forall_mem_cons, List.forall_mem_append, List.forall_mem_singleton]
    exact ⟨endUsage_eq_none hstart.type (by decide), hdelta hdeltas,
      endUsage_eq_none hstop (by decide)⟩
  | toolUse hstart _ _ hdeltas _ hstop =>
    rw [List.forall_mem_cons, List.forall_mem_append, List.forall_mem_singleton]
    exact ⟨endUsage_eq_none hstart.type (by decide), hdelta hdeltas,
      endUsage_eq_none hstop (by decide)⟩

theorem concat_saidText_blocks (h : List.Forall₂ (BlockEvents text) parts groups) :
    Str.concat (groups.flatten.filterMap saidText) =
      Str.concat (parts.filterMap AnswerPart.getText) := by
  induction h with
  | nil => rfl
  | cons hv _ ih =>
    rw [List.flatten_cons, List.filterMap_append, Str.concat_append, saidText_block hv, ih,
      List.filterMap_cons]
    split
    · next hnone => rw [hnone, Option.getD_none, String.empty_append]
    · next hsome => rw [hsome, Option.getD_some, Str.concat_cons]

theorem sentReason_eq_none (h : endUsage v = none) : sentReason v = none := by
  rw [sentReason, h]
  rfl

/-- Pings say nothing. -/
theorem filterMap_noPing {f : Value → Option β}
    (hf : ∀ v, v.getStr "type" = some "ping" → f v = none) (vs : List Value) :
    (vs.filter fun v => v.getStr "type" ≠ some "ping").filterMap f = vs.filterMap f := by
  rw [List.filterMap_filter]
  apply List.filterMap_congr
  intro v _
  by_cases hping : v.getStr "type" = some "ping"
  · rw [hf v hping, ite_self]
  · exact if_pos (decide_eq_true hping)

/-- What the events of a message say to the loop. -/
theorem Message.Events.heard {m : Message} (h : m.Events text vs) :
    Str.concat (vs.filterMap saidText) = m.said ∧
    vs.filterMap endUsage = [{ outputTokens := m.outputTokens.toUInt32 }] ∧
    vs.filterMap sentReason = m.stopReason.toList := by
  obtain ⟨start, groups, delta, stop, hvs, ⟨hstart, -⟩, hblocks,
    ⟨hdelta, hreason, u, hu, hcount⟩, hstop⟩ := h
  have hquiet : ∀ v ∈ start :: groups.flatten, endUsage v = none := by
    refine List.forall_mem_cons.mpr ⟨endUsage_eq_none hstart (by decide), ?_⟩
    have hgroups := forall_of_forall₂ (R := flip (BlockEvents text))
      (fun group part hpart => endUsage_block hpart) hblocks.flip
    intro v hv
    obtain ⟨group, hgroup, hv⟩ := List.mem_flatten.mp hv
    exact hgroups group hgroup v hv
  have hend : endUsage delta = some { outputTokens := m.outputTokens.toUInt32 } := by
    rw [endUsage, if_pos hdelta, hu, Option.map_some, Value.getCount, hcount]
    rfl
  have hlast : endUsage stop = none := endUsage_eq_none hstop (by decide)
  have hsent : sentReason delta = m.stopReason := by
    rw [sentReason, hend, givenReason, if_pos hdelta, hreason]
    rfl
  refine ⟨?_, ?_, ?_⟩
  · rw [← filterMap_noPing fun v hv => saidText_eq_none hv (by decide), hvs,
      List.filterMap_cons_none (saidText_eq_none hstart (by decide)), List.filterMap_append,
      List.filterMap_cons_none (saidText_eq_none hdelta (by decide)),
      List.filterMap_cons_none (saidText_eq_none hstop (by decide)), List.filterMap_nil,
      List.append_nil, concat_saidText_blocks hblocks, said]
  · rw [← filterMap_noPing fun v hv => endUsage_eq_none hv (by decide), hvs, ← List.cons_append,
      List.filterMap_append, List.filterMap_eq_nil_iff.mpr hquiet,
      List.filterMap_cons_some hend, List.filterMap_cons_none hlast]
    rfl
  · rw [← filterMap_noPing fun v hv => sentReason_eq_none (endUsage_eq_none hv (by decide)), hvs,
      ← List.cons_append, List.filterMap_append,
      List.filterMap_eq_nil_iff.mpr fun v hv => sentReason_eq_none (hquiet v hv),
      List.filterMap_cons, hsent, List.filterMap_cons_none (sentReason_eq_none hlast)]
    cases m.stopReason <;> rfl

end Events

section Agreement

variable (ids : StreamId)

/-- What is left to a client of a streamed message: its text, no tool call, a made-up reason behind
any text, and of the counts that of the output. -/
def Message.streamed (m : Message) : Accumulated where
  text := m.said
  toolUses := []
  finishReason := if m.said = "" then m.stopReason else some "end_turn"
  usage := { outputTokens := m.outputTokens.toUInt32 }

/-- The message as it is. -/
def Message.whole (m : Message) : Accumulated where
  text := m.said
  toolUses := Outbound.toolUses (m.parts.map AnswerPart.toBlock)
  finishReason := m.stopReason
  usage :=
    { inputTokens := m.inputTokens.toUInt32
      outputTokens := m.outputTokens.toUInt32
      cacheReadTokens := m.cacheRead.map UInt64.toUInt32
      cacheWriteTokens := m.cacheWrite.map UInt64.toUInt32 }

theorem accumulate_events {m : Message} (h : m.Events text vs) :
    accumulate ((emit (onValue ids) "" vs).2 ++ (machine ids).finish (emit (onValue ids) "" vs).1) =
      m.streamed := by
  obtain ⟨hsaid, husage, hreason⟩ := h.heard
  rw [Message.streamed, state_emit, hsaid, accumulate, List.filterMap_append, List.filterMap_append,
    List.filterMap_append, reasons_append, texts_emit, toolUses_emit, usages_emit, reasons_emit,
    husage, hreason]
  by_cases hempty : m.said = ""
  · have hfinish : (machine ids).finish m.said = [] := if_neg (not_not_intro hempty)
    rw [hfinish, if_pos hempty]
    simp only [List.filterMap_nil, List.append_nil, reasons, hsaid]
    cases m.stopReason <;> rfl
  · have hfinish : (machine ids).finish m.said = [ids.endChunk (some "end_turn") none] :=
      if_pos hempty
    have hend : reasons [ids.endChunk (some "end_turn") none] = ["end_turn"] := rfl
    rw [hfinish, if_neg hempty, hend, List.getLast?_concat]
    simp only [StreamId.endChunk, List.filterMap_cons, List.filterMap_nil, Option.map_none,
      List.append_nil, hsaid]
    rfl

theorem accumulated_document {m : Message} (h : m.Document v) (providerId : String) :
    ∃ r, parseAnthropicResponse v providerId = .ok r ∧ r.accumulated = m.whole := by
  obtain ⟨u, hu, hcounts, houtput⟩ := h.usage
  have husage : parseUsage u = m.whole.usage := by
    rw [parseUsage, Value.getCount, Value.getCount, readCount, readCount, hcounts.input, houtput,
      hcounts.cacheRead, hcounts.cacheWrite]
    rfl
  refine ⟨_, rfl, ?_⟩
  rw [CanonicalResponse.accumulated, content_answers h.parts, textFromBlocks_parts, h.stopReason,
    hu, Option.map_some, husage]
  rfl

theorem toolUses_parts {parts : List AnswerPart} :
    Outbound.toolUses (parts.map AnswerPart.toBlock) = [] ↔ ∀ call, .call call ∉ parts := by
  rw [Outbound.toolUses, List.filter_eq_nil_iff, List.forall_mem_map]
  constructor
  · intro h call hcall
    exact h _ hcall rfl
  · intro h part hpart
    cases part with
    | text t => exact Bool.false_ne_true
    | call call => exact absurd hpart (h call)

theorem streamed_eq_whole (m : Message) :
    m.streamed = m.whole ↔
      (∀ call, .call call ∉ m.parts) ∧ (m.said = "" ∨ m.stopReason = some "end_turn") ∧
        m.inputTokens.toUInt32 = 0 ∧ m.cacheRead = none ∧ m.cacheWrite = none := by
  have hreason : (if m.said = "" then m.stopReason else some "end_turn") = m.stopReason ↔
      m.said = "" ∨ m.stopReason = some "end_turn" := by
    by_cases hempty : m.said = ""
    · rw [if_pos hempty]
      exact iff_of_true rfl (.inl hempty)
    · rw [if_neg hempty, or_iff_right hempty]
      exact eq_comm
  have hnone : ∀ o : Option UInt64, none = o.map UInt64.toUInt32 ↔ o = none := by
    intro o
    rw [eq_comm, Option.map_eq_none_iff]
  simp only [Message.streamed, Message.whole, Accumulated.mk.injEq, Usage.mk.injEq, true_and,
    eq_comm (a := []), toolUses_parts, hreason, hnone, eq_comm (a := (0 : UInt32))]

end Agreement

/-- When a streamed message comes to the same as the message in one piece: exactly if it calls no
tool, has no text or the reason that is made up behind it, and its counts other than that of the
output are nothing. -/
theorem stream_agrees_iff (text : Json.Text) (ids : StreamId) (providerId : String) {m : Message}
    {v : Value} (hdocument : m.Document v) {input : List (AppResult (List UInt8))}
    (hend : failure input = none)
    (hevents : m.Events text ((SseAdapter.anthropic.machine text ids).values text input)) :
    (∃ r, parseAnthropicResponse v providerId = .ok r ∧
      accumulate (received ((SseAdapter.anthropic.machine text ids).stream text input)) =
        r.accumulated) ↔
      (∀ call, .call call ∉ m.parts) ∧ (m.said = "" ∨ m.stopReason = some "end_turn") ∧
        m.inputTokens.toUInt32 = 0 ∧ m.cacheRead = none ∧ m.cacheWrite = none := by
  obtain ⟨r, hr, hread⟩ := accumulated_document hdocument providerId
  have hnot : ¬ (failure input).isSome := by
    rw [hend]
    exact Bool.false_ne_true
  rw [StreamMachine.received_stream, if_neg hnot, ← streamed_eq_whole,
    ← accumulate_events ids hevents, ← hread]
  constructor
  · intro h
    obtain ⟨r', hr', heq⟩ := h
    rw [hr] at hr'
    cases hr'
    exact heq
  · exact fun heq => ⟨r, hr, heq⟩

def blockStop : String × Value :=
  ("\x7b\"type\":\"content_block_stop\"\x7d", .object [("type", .string "content_block_stop")])

def messageStop : String × Value :=
  ("\x7b\"type\":\"message_stop\"\x7d", .object [("type", .string "message_stop")])

/-- The events of a message of one content block, each as its source and the value it reads as. -/
def messageEvents (start : String × Value) (block : List (String × Value))
    (stop : String × Value) : List (String × Value) :=
  start :: (block ++ [stop, messageStop])

theorem unbroken_messageEvents {start stop : String × Value} {block : List (String × Value)}
    (hstart : Unbroken start.1) (hblock : ∀ e ∈ block, Unbroken e.1) (hstop : Unbroken stop.1) :
    ∀ e ∈ messageEvents start block stop, Unbroken e.1 := by
  have hlast : Unbroken messageStop.1 := .of_chars rfl (by decide) (by decide)
  rw [messageEvents, List.forall_mem_cons, List.forall_mem_append]
  exact ⟨hstart, hblock, List.forall_mem_cons.mpr ⟨hstop, List.forall_mem_singleton.mpr hlast⟩⟩

theorem unbroken_blockStop : Unbroken blockStop.1 := .of_chars rfl (by decide) (by decide)

def greeting : Message where
  parts := [.text "hi"]
  stopReason := some "end_turn"
  inputTokens := 0
  outputTokens := 2
  cacheRead := none
  cacheWrite := none

def greetingDocument : Value :=
  .object
    [("content", .array [.object [("type", .string "text"), ("text", .string "hi")]]),
      ("stop_reason", .string "end_turn"),
      ("usage", .object [("input_tokens", .ofU32 0), ("output_tokens", .ofU32 2)])]

def greetingBlock : List (String × Value) :=
  [("\x7b\"type\":\"content_block_start\",\"content_block\":\x7b\"type\":\"text\"\x7d\x7d",
      .object
        [("type", .string "content_block_start"),
          ("content_block", .object [("type", .string "text")])]),
    (textSource, textEvent), blockStop]

def greetingEvents : List (String × Value) :=
  messageEvents
    ("\x7b\"type\":\"message_start\",\"message\":\x7b\"usage\":\x7b\"input_tokens\":0\x7d\x7d\x7d",
      .object
        [("type", .string "message_start"),
          ("message", .object [("usage", .object [("input_tokens", .ofU32 0)])])])
    greetingBlock (stopSource, stopEvent)

theorem greeting_document : greeting.Document greetingDocument where
  parts := ⟨_, [[.text "hi"]], rfl, .cons (.text rfl rfl) .nil, rfl⟩
  stopReason := rfl
  usage := ⟨_, rfl, ⟨rfl, rfl, rfl⟩, rfl⟩

theorem greeting_events (text : Json.Text) :
    greeting.Events text (greetingEvents.map Prod.snd) := by
  refine ⟨_, [greetingBlock.map Prod.snd], _, _, rfl, ⟨rfl, _, rfl, rfl, rfl, rfl⟩,
    .cons ?_ .nil, ⟨rfl, rfl, _, rfl, rfl⟩, rfl⟩
  exact .text ⟨rfl, rfl, rfl⟩ (.cons ⟨rfl, _, rfl, rfl, rfl⟩ .nil) rfl

/-- A library that knows the events of a greeting. -/
def greetingText : Json.Text := .knowing (fun _ => "null") greetingEvents

def greetingInput : List (AppResult (List UInt8)) :=
  [.ok (streamBytes (greetingEvents.map Prod.fst))]

theorem greeting_values (ids : StreamId) :
    (SseAdapter.anthropic.machine greetingText ids).values greetingText greetingInput =
      greetingEvents.map Prod.snd := by
  apply (SseAdapter.anthropic.machine greetingText ids).values_known
  · decide
  · apply unbroken_messageEvents (.of_chars rfl (by decide) (by decide)) _ unbroken_stopSource
    simp only [greetingBlock, List.forall_mem_cons]
    exact ⟨.of_chars rfl (by decide) (by decide), unbroken_textSource, unbroken_blockStop,
      List.forall_mem_nil _⟩
  · decide

/-- A greeting with a natural end that answers nothing comes to the same. -/
theorem stream_agrees_iff_sample :
    ∃ r, parseAnthropicResponse greetingDocument "anthropic" = .ok r ∧
      accumulate (received ((SseAdapter.anthropic.machine greetingText ⟨"m", "claude"⟩).stream
        greetingText greetingInput)) = r.accumulated := by
  have hevents : greeting.Events greetingText
      ((SseAdapter.anthropic.machine greetingText ⟨"m", "claude"⟩).values greetingText
        greetingInput) := by
    rw [greeting_values]
    exact greeting_events greetingText
  apply (stream_agrees_iff greetingText _ "anthropic" greeting_document rfl hevents).mpr
  refine ⟨?_, .inr rfl, rfl, rfl, rfl⟩
  intro call hcall
  cases List.mem_singleton.mp hcall

def clockMessage : Message where
  parts := [.call ⟨"c1", "clock", .object []⟩]
  stopReason := some "tool_use"
  inputTokens := 3
  outputTokens := 2
  cacheRead := none
  cacheWrite := none

def clockBlock : Value :=
  .object
    [("type", .string "tool_use"), ("id", .string "c1"), ("name", .string "clock"),
      ("input", .object [])]

def clockDocument : Value :=
  .object
    [("content", .array [clockBlock]), ("stop_reason", .string "tool_use"),
      ("usage", .object [("input_tokens", .ofU32 3), ("output_tokens", .ofU32 2)])]

def clockEvents : List (String × Value) :=
  messageEvents
    ("\x7b\"type\":\"message_start\",\"message\":\x7b\"usage\":\x7b\"input_tokens\":3\x7d\x7d\x7d",
      .object
        [("type", .string "message_start"),
          ("message", .object [("usage", .object [("input_tokens", .ofU32 3)])])])
    [("\x7b\"type\":\"content_block_start\",\"content_block\":\x7b\"type\":\"tool_use\"," ++
        "\"id\":\"c1\",\"name\":\"clock\",\"input\":\x7b\x7d\x7d\x7d",
      .object [("type", .string "content_block_start"), ("content_block", clockBlock)]), blockStop]
    ("\x7b\"type\":\"message_delta\",\"delta\":\x7b\"stop_reason\":\"tool_use\"\x7d," ++
        "\"usage\":\x7b\"output_tokens\":2\x7d\x7d",
      .object
        [("type", .string "message_delta"),
          ("delta", .object [("stop_reason", .string "tool_use")]),
          ("usage", .object [("output_tokens", .ofU32 2)])])

def clockText : Json.Text := .knowing (fun _ => "\x7b\x7d") clockEvents

def clockInput : List (AppResult (List UInt8)) := [.ok (streamBytes (clockEvents.map Prod.fst))]

/-- A message that calls a tool is read whole, but of its stream neither the call nor the tokens
that it answers are left. -/
theorem clock_lost :
    clockMessage.Document clockDocument ∧
    clockMessage.Events clockText
      ((SseAdapter.anthropic.machine clockText ⟨"m", "claude"⟩).values clockText clockInput) ∧
    (∃ r, parseAnthropicResponse clockDocument "anthropic" = .ok r ∧
      r.accumulated.toolUses = [.toolUse "c1" "clock" (.object [])] ∧
      r.accumulated.usage = { inputTokens := 3, outputTokens := 2 }) ∧
    (accumulate (received ((SseAdapter.anthropic.machine clockText ⟨"m", "claude"⟩).stream
      clockText clockInput))).toolUses = [] ∧
    (accumulate (received ((SseAdapter.anthropic.machine clockText ⟨"m", "claude"⟩).stream
      clockText clockInput))).usage = { inputTokens := 0, outputTokens := 2 } := by
  have hvalues : (SseAdapter.anthropic.machine clockText ⟨"m", "claude"⟩).values clockText
      clockInput = clockEvents.map Prod.snd := by
    apply (SseAdapter.anthropic.machine clockText ⟨"m", "claude"⟩).values_known
    · decide
    · apply unbroken_messageEvents (.of_chars rfl (by decide) (by decide)) _
        (.append (.of_chars rfl (by decide) (by decide)) (.of_chars rfl (by decide) (by decide)))
      simp only [List.forall_mem_cons]
      refine ⟨.append ?_ ?_, unbroken_blockStop, List.forall_mem_nil _⟩
      · exact .of_chars rfl (by decide) (by decide)
      · exact .of_chars rfl (by decide) (by decide)
    · decide
  have hdocument : clockMessage.Document clockDocument :=
    { parts := ⟨_, [[.call _]], rfl, .cons (.toolUse rfl rfl rfl rfl) .nil, rfl⟩
      stopReason := rfl
      usage := ⟨_, rfl, ⟨rfl, rfl, rfl⟩, rfl⟩ }
  have hevents : clockMessage.Events clockText (clockEvents.map Prod.snd) := by
    refine ⟨_, [[_, _]], _, _, rfl, ⟨rfl, _, rfl, rfl, rfl, rfl⟩,
      .cons ?_ .nil, ⟨rfl, rfl, _, rfl, rfl⟩, rfl⟩
    exact .toolUse ⟨rfl, rfl, rfl⟩ rfl rfl .nil (.inr ⟨rfl, rfl⟩) rfl
  have hstream : received ((SseAdapter.anthropic.machine clockText ⟨"m", "claude"⟩).stream
      clockText clockInput) = _ := StreamMachine.received_stream _ _ _
  rw [hstream, hvalues]
  exact ⟨hdocument, hevents, ⟨_, rfl, rfl, rfl⟩, rfl, rfl⟩

end Anthropic

end TokenDealer
