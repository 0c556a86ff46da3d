import TokenDealer.AnthropicStream

set_option autoImplicit true

namespace TokenDealer

open Json Incremental EventStream

namespace Google

/-- An answer of the service: its text, the name that the service has for its end, and the counts of
its tokens. -/
structure Answer where
  said : String
  finishReason : Option String
  promptTokens : UInt64
  candidatesTokens : UInt64

/-- A part of a candidate. A call or a file has no text. -/
inductive PartSpells (v : Value) : List String → Prop where
  | text (htext : v.getStr "text" = some t) : PartSpells v [t]
  | other (htext : v.getStr "text" = none) : PartSpells v []

/-- The pieces of text in the first candidate of a response, which may come without content. -/
inductive Spells (v : Value) : List String → Prop where
  | parts (hcandidate : firstCandidate v = some cand)
      (hparts : (cand.get "content").bind (fun c => c.get "parts") = some (.array parts))
      (hspells : List.Forall₂ PartSpells parts groups) : Spells v groups.flatten
  | silent (hcandidate : firstCandidate v = some cand)
      (hparts : (cand.get "content").bind (fun c => c.get "parts") = none) : Spells v []

namespace Answer

variable (a : Answer)

/-- The response says how the answer ends and what it comes to. -/
structure Ends (v : Value) : Prop where
  finishReason : (firstCandidate v).bind (fun cand => cand.getStr "finishReason") = a.finishReason
  usage : ∃ u, v.get "usageMetadata" = some u ∧
    (u.get "promptTokenCount").bind Value.asU64 = some a.promptTokens ∧
    (u.get "candidatesTokenCount").bind Value.asU64 = some a.candidatesTokens

/-- The answer as one document. -/
structure Document (v : Value) : Prop where
  spells : ∃ pieces, Spells v pieces ∧ Str.concat pieces = a.said
  ends : a.Ends v

/-- The answer as a stream of responses, each with the next pieces. The last one ends it. -/
def Events (vs : List Value) : Prop :=
  ∃ front last groups, vs = front ++ [last] ∧ List.Forall₂ Spells vs groups ∧
    Str.concat groups.flatten = a.said ∧ a.Ends last

def usage : Usage where
  inputTokens := a.promptTokens.toUInt32
  outputTokens := a.candidatesTokens.toUInt32

/-- What a client of the stream is left with. -/
def streamed : Accumulated where
  text := a.said
  toolUses := []
  finishReason := some "stop"
  usage := a.usage

def whole : Accumulated where
  text := a.said
  toolUses := []
  finishReason := a.finishReason.map finishReasonName
  usage := a.usage

end Answer

section Texts

def spokenText (part : Value) : Option String := part.getStr "text"

/-- The texts of the parts of a first candidate. -/
def partTexts (v : Value) : List String :=
  ((((firstCandidate v).bind fun cand => cand.get "content").bind fun c => c.get "parts").bind
    Value.asArray |>.getD []).filterMap spokenText

theorem filterMap_partSpells (h : List.Forall₂ PartSpells parts groups) :
    parts.filterMap spokenText = groups.flatten := by
  induction h with
  | nil => rfl
  | cons hpart _ ih =>
    cases hpart with
    | text htext =>
      rw [List.filterMap_cons_some (f := spokenText) htext, ih, List.flatten_cons,
        List.singleton_append]
    | other htext =>
      rw [List.filterMap_cons_none (f := spokenText) htext, ih, List.flatten_cons, List.nil_append]

theorem partTexts_spells (h : Spells v pieces) : partTexts v = pieces := by
  cases h with
  | parts hcandidate hparts hspells =>
    rw [partTexts, hcandidate, Option.bind_some, hparts]
    exact filterMap_partSpells hspells
  | silent hcandidate hparts =>
    rw [partTexts, hcandidate, Option.bind_some, hparts]
    rfl

/-- An empty text is passed over in a stream. -/
theorem concat_saidTexts (v : Value) : Str.concat (saidTexts v) = Str.concat (partTexts v) := by
  rw [saidTexts, partTexts]
  generalize ((((firstCandidate v).bind fun cand => cand.get "content").bind fun c =>
    c.get "parts").bind Value.asArray |>.getD []) = parts
  induction parts with
  | nil => rfl
  | cons part parts ih =>
    have hpart : partText part = (spokenText part).bind fun t => if t ≠ "" then some t else none :=
      rfl
    cases htext : spokenText part with
    | none =>
      rw [htext, Option.bind_none] at hpart
      rw [List.filterMap_cons_none hpart, List.filterMap_cons_none htext, ih]
    | some t =>
      rw [htext, Option.bind_some] at hpart
      rw [List.filterMap_cons_some htext, Str.concat_cons]
      by_cases hempty : t = ""
      · rw [if_neg (not_not_intro hempty)] at hpart
        rw [List.filterMap_cons_none hpart, ih, hempty, String.empty_append]
      · rw [if_pos hempty] at hpart
        rw [List.filterMap_cons_some hpart, Str.concat_cons, ih]

theorem concat_events {vs : List Value} (h : List.Forall₂ Spells vs groups) :
    Str.concat (vs.flatMap saidTexts) = Str.concat groups.flatten := by
  induction h with
  | nil => rfl
  | cons hv _ ih =>
    rw [List.flatMap_cons, List.flatten_cons, Str.concat_append, Str.concat_append,
      concat_saidTexts, partTexts_spells hv, ih]

end Texts

section Agreement

variable (ids : StreamId)

theorem texts_emit (s : Option Usage) (vs : List Value) :
    ((emit (onValue ids) s vs).2.filterMap fun c => c.delta.text) = vs.flatMap saidTexts := by
  refine filterMap_emit ?_ s vs
  intro s v
  rw [onValue_eq, List.filterMap_append, List.filterMap_map]
  cases (givenReason v).isSome <;> simp [StreamId.textChunk, StreamId.endChunk, Function.comp_def]

theorem toolUses_emit (s : Option Usage) (vs : List Value) :
    ((emit (onValue ids) s vs).2.filterMap fun c => c.delta.toolUse.map fun call =>
      ContentBlock.toolUse call.id call.name call.arguments) = [] := by
  rw [filterMap_emit (q := fun _ => []), List.flatMap_eq_nil_iff]
  · exact fun _ _ => rfl
  · intro s v
    rw [onValue_eq, List.filterMap_append, List.filterMap_map]
    cases (givenReason v).isSome <;> simp [StreamId.textChunk, StreamId.endChunk, Function.comp_def]

/-- The usage that was given last is kept for the end. -/
theorem state_emit_concat (s : Option Usage) (front : List Value) (last : Value)
    (h : givenUsage last = some u) : (emit (onValue ids) s (front ++ [last])).1 = some u := by
  induction front generalizing s with
  | nil =>
    have hone : (emit (onValue ids) s [last]).1 = (onValue ids s last).1 := rfl
    rw [List.nil_append, hone, onValue_eq, h]
    rfl
  | cons v front ih => exact ih (onValue ids s v).1

theorem givenUsage_ends {a : Answer} (h : a.Ends v) : givenUsage v = some a.usage := by
  obtain ⟨u, hu, hprompt, hcandidates⟩ := h.usage
  rw [givenUsage, hu, Option.map_some, readUsage, Value.getCount, Value.getCount, hprompt,
    hcandidates]
  rfl

theorem accumulate_events {a : Answer} (h : a.Events vs) :
    accumulate ((emit (onValue ids) none vs).2 ++
      (machine ids).finish (emit (onValue ids) none vs).1) = a.streamed := by
  obtain ⟨front, last, groups, rfl, hspells, hsaid, hends⟩ := h
  have hfinish : (machine ids).finish (emit (onValue ids) none (front ++ [last])).1 =
      [ids.endChunk (some "stop") (some a.usage)] := by
    rw [state_emit_concat ids none front last (givenUsage_ends hends)]
    rfl
  have hreason : reasons [ids.endChunk (some "stop") (some a.usage)] = ["stop"] := rfl
  have husage : [ids.endChunk (some "stop") (some a.usage)].filterMap CanonicalChunk.usage =
      [a.usage] := rfl
  have htext : ([ids.endChunk (some "stop") (some a.usage)].filterMap fun c => c.delta.text) = [] :=
    rfl
  have hcalls : ([ids.endChunk (some "stop") (some a.usage)].filterMap fun c =>
      c.delta.toolUse.map fun call => ContentBlock.toolUse call.id call.name call.arguments) = [] :=
    rfl
  rw [hfinish, accumulate, List.filterMap_append, List.filterMap_append, List.filterMap_append,
    reasons_append, hreason, husage, htext, hcalls, texts_emit, toolUses_emit, List.append_nil,
    List.append_nil, concat_events hspells, hsaid, List.getLast?_concat, List.getLast?_concat]
  rfl

theorem accumulated_document {a : Answer} (h : a.Document v) (uuid providerId model : String) :
    ∃ r, parseGoogleResponse uuid v providerId model = .ok r ∧ r.accumulated = a.whole := by
  obtain ⟨pieces, hspells, hsaid⟩ := h.spells
  have hcontent : ((((firstCandidate v).bind fun cand => cand.get "content").bind fun content =>
      content.get "parts").bind Value.asArray |>.getD []).filterMap
        (fun part => (part.getStr "text").map ContentBlock.text) =
      (partTexts v).map ContentBlock.text := by
    rw [partTexts, List.map_filterMap]
    rfl
  have htext : Outbound.textFromBlocks ((partTexts v).map ContentBlock.text) = a.said := by
    have hback : OpenAi.blockText ∘ ContentBlock.text = some := rfl
    rw [Outbound.textFromBlocks, List.filterMap_map, hback, List.filterMap_some,
      partTexts_spells hspells, hsaid]
  have hcalls : Outbound.toolUses ((partTexts v).map ContentBlock.text) = [] := by
    rw [Outbound.toolUses, List.filter_eq_nil_iff, List.forall_mem_map]
    exact fun _ _ => Bool.false_ne_true
  have husage : (v.get "usageMetadata").map
      (readUsage "promptTokenCount" "candidatesTokenCount") = some a.usage :=
    givenUsage_ends h.ends
  refine ⟨_, rfl, ?_⟩
  rw [CanonicalResponse.accumulated, hcontent, htext, hcalls, husage, h.ends.finishReason]
  rfl

end Agreement

def pieceSource : String :=
  "\x7b\"candidates\":[\x7b\"content\":\x7b\"parts\":[\x7b\"text\":\"hi \"\x7d]\x7d\x7d]\x7d"

def pieceResponse : Value :=
  .object [("candidates", .array [.object [("content", .object [("parts", .array
    [.object [("text", .string "hi ")]])])]])]

def lastSource : String :=
  "\x7b\"candidates\":[\x7b\"content\":\x7b\"parts\":[\x7b\"text\":\"there\"\x7d]\x7d," ++
    "\"finishReason\":\"STOP\"\x7d],\"usageMetadata\":\x7b\"promptTokenCount\":3," ++
    "\"candidatesTokenCount\":2\x7d\x7d"

def candidateCounts : Value :=
  .object [("promptTokenCount", .ofU32 3), ("candidatesTokenCount", .ofU32 2)]

def candidateWith (texts : List String) : Value :=
  .object
    [("content", .object [("parts", .array (texts.map fun t => .object [("text", .string t)]))]),
      ("finishReason", .string "STOP")]

def lastResponse : Value :=
  .object [("candidates", .array [candidateWith ["there"]]), ("usageMetadata", candidateCounts)]

def wholeResponse : Value :=
  .object [("candidates", .array [candidateWith ["hi there"]]), ("usageMetadata", candidateCounts)]

def pieceEvents : List (String × Value) :=
  [(pieceSource, pieceResponse), (lastSource, lastResponse)]

def greeting : Answer where
  said := "hi there"
  finishReason := some "STOP"
  promptTokens := 3
  candidatesTokens := 2

theorem greeting_document : greeting.Document wholeResponse where
  spells := ⟨_, .parts rfl rfl (.cons (.text rfl) .nil), rfl⟩
  ends := ⟨rfl, _, rfl, rfl, rfl⟩

theorem greeting_values (ids : StreamId) :
    (SseAdapter.google.machine (.knowing (fun _ => "null") pieceEvents) ids).values
        (.knowing (fun _ => "null") pieceEvents) [.ok (streamBytes (pieceEvents.map Prod.fst))] =
      [pieceResponse, lastResponse] := by
  apply StreamMachine.values_known
  · decide
  · simp only [pieceEvents, List.forall_mem_cons]
    refine ⟨.of_chars rfl (by decide) (by decide), ?_, List.forall_mem_nil _⟩
    exact .append (.append (.of_chars rfl (by decide) (by decide))
      (.of_chars rfl (by decide) (by decide))) (.of_chars rfl (by decide) (by decide))
  · decide

end Google

namespace Responses

/-- An answer of the service, which is completed or breaks off at a limit. -/
structure Answer where
  said : String
  completed : Bool
  inputTokens : UInt64
  outputTokens : UInt64

namespace Answer

variable (text : Json.Text) (a : Answer)

/-- The answer as one document. -/
structure Document (v : Value) : Prop where
  parts : ∃ parts, Answers text v parts ∧
    Str.concat (parts.filterMap AnswerPart.getText) = a.said
  usage : ∃ u, v.get "usage" = some u ∧
    (u.get "input_tokens").bind Value.asU64 = some a.inputTokens ∧
    (u.get "output_tokens").bind Value.asU64 = some a.outputTokens

def isDelta (e : Value) : Bool := e.getStr "type" = some "response.output_text.delta"

/-- The answer as a stream of events: pieces of its text, others among them, and at the end one that
has the document. -/
def Events (vs : List Value) : Prop :=
  ∃ front last pieces v, vs = front ++ [last] ∧
    List.Forall₂ (fun e piece => e.getStr "delta" = some piece)
      (front.filter isDelta) pieces ∧
    Str.concat pieces = a.said ∧ (∀ e ∈ front, e.getStr "type" ≠ some "response.completed") ∧
    last.getStr "type" =
      some (if a.completed then "response.completed" else "response.incomplete") ∧
    last.get "response" = some v ∧ a.Document text v

def usage : Usage where
  inputTokens := a.inputTokens.toUInt32
  outputTokens := a.outputTokens.toUInt32

/-- What a client of the stream is left with. -/
def streamed : Accumulated where
  text := a.said
  toolUses := []
  finishReason := if a.completed = true ∨ a.said ≠ "" then some "stop" else none
  usage := if a.completed then a.usage else {}

def whole : Accumulated where
  text := a.said
  toolUses := []
  finishReason := some "stop"
  usage := a.usage

end Answer

section Agreement

variable (ids : StreamId) {text : Json.Text}

theorem texts_emit (s : State) (vs : List Value) :
    ((emit (onValue ids) s vs).2.filterMap fun c => c.delta.text) = vs.filterMap saidText := by
  rw [List.filterMap_eq_flatMap_toList (f := saidText)]
  refine filterMap_emit ?_ s vs
  intro s v
  rw [onValue_eq, List.filterMap_append]
  cases saidText v <;> cases completed v <;> rfl

theorem toolUses_emit (s : State) (vs : List Value) :
    ((emit (onValue ids) s vs).2.filterMap fun c => c.delta.toolUse.map fun call =>
      ContentBlock.toolUse call.id call.name call.arguments) = [] := by
  rw [filterMap_emit (q := fun _ => []), List.flatMap_eq_nil_iff]
  · exact fun _ _ => rfl
  · intro s v
    rw [onValue_eq, List.filterMap_append]
    cases saidText v <;> cases completed v <;> rfl

theorem saidText_eq_none (h : v.getStr "type" ≠ some "response.output_text.delta") :
    saidText v = none := if_neg h

theorem completed_eq_none (h : v.getStr "type" ≠ some "response.completed") :
    completed v = none := if_neg h

/-- The texts of the deltas are those that are said. -/
theorem saidTexts_front {front : List Value}
    (h : List.Forall₂ (fun e piece => e.getStr "delta" = some piece)
      (front.filter Answer.isDelta) pieces) :
    front.filterMap saidText = pieces := by
  induction front generalizing pieces with
  | nil =>
    cases h
    rfl
  | cons e front ih =>
    by_cases htype : e.getStr "type" = some "response.output_text.delta"
    · rw [List.filter_cons_of_pos (p := Answer.isDelta) (decide_eq_true htype)] at h
      cases h with
      | cons hpiece hrest =>
        have hsaid : saidText e = some _ := (if_pos htype).trans hpiece
        rw [List.filterMap_cons_some hsaid, ih hrest]
    · have hother : ¬ Answer.isDelta e = true := fun h => htype (of_decide_eq_true h)
      rw [List.filter_cons_of_neg hother] at h
      rw [List.filterMap_cons_none (saidText_eq_none htype), ih h]

/-- Before the end only texts are put out, and only they are kept. -/
theorem emit_front {front : List Value} (h : ∀ e ∈ front, completed e = none) (s : State) :
    emit (onValue ids) s front =
      ({ s with acc := s.acc ++ Str.concat (front.filterMap saidText) },
        (front.filterMap saidText).map (ids.textChunk · none)) := by
  induction front generalizing s with
  | nil =>
    rw [List.filterMap_nil, Str.concat_nil, String.append_empty]
    rfl
  | cons e front ih =>
    obtain ⟨he, hfront⟩ := List.forall_mem_cons.mp h
    have husage : givenUsage e = none := by
      rw [givenUsage, he]
      rfl
    rw [emit, onValue_eq, he, husage]
    dsimp only
    rw [ih hfront]
    cases hsaid : saidText e with
    | none =>
      rw [List.filterMap_cons_none hsaid, Option.getD_none, String.append_empty]
      rfl
    | some t =>
      rw [List.filterMap_cons_some hsaid, Str.concat_cons, Option.getD_some, String.append_assoc]
      rfl

/-- Texts without a reason, and then what ends them. -/
theorem accumulate_texts (pieces : List String) {ends : List CanonicalChunk}
    (h : ∀ c ∈ ends, c.delta = {}) :
    accumulate (pieces.map (ids.textChunk · none) ++ ends) =
      { text := Str.concat pieces
        toolUses := []
        finishReason := (reasons ends).getLast?
        usage := ((ends.filterMap CanonicalChunk.usage).getLast?).getD {} } := by
  have htexts : ((pieces.map (ids.textChunk · none)).filterMap fun c => c.delta.text) = pieces := by
    rw [List.filterMap_map]
    exact List.filterMap_some
  have hcalls : ((pieces.map (ids.textChunk · none)).filterMap fun c => c.delta.toolUse.map
      fun call => ContentBlock.toolUse call.id call.name call.arguments) = [] := by
    rw [List.filterMap_map, List.filterMap_eq_nil_iff]
    exact fun t _ => rfl
  have hreasons : reasons (pieces.map (ids.textChunk · none)) = [] := ids.reasons_textChunks _ none
  have husages : (pieces.map (ids.textChunk · none)).filterMap CanonicalChunk.usage = [] := by
    rw [List.filterMap_map, List.filterMap_eq_nil_iff]
    exact fun t _ => rfl
  have htexts_end : (ends.filterMap fun c => c.delta.text) = [] := by
    rw [List.filterMap_eq_nil_iff]
    intro c hc
    rw [h c hc]
  have hcalls_end : (ends.filterMap fun c => c.delta.toolUse.map
      fun call => ContentBlock.toolUse call.id call.name call.arguments) = [] := by
    rw [List.filterMap_eq_nil_iff]
    intro c hc
    rw [h c hc]
    rfl
  rw [accumulate, List.filterMap_append, List.filterMap_append, List.filterMap_append,
    reasons_append, htexts, hcalls, hreasons, husages, htexts_end, hcalls_end, List.append_nil,
    List.append_nil, List.nil_append, List.nil_append]

theorem accumulate_events {a : Answer} (h : a.Events text vs) :
    accumulate ((emit (onValue ids) {} vs).2 ++
      (machine ids).finish (emit (onValue ids) {} vs).1) = a.streamed := by
  obtain ⟨front, last, pieces, v, rfl, hpieces, hsaid, hfront, htype, hresponse, hdocument⟩ := h
  have hnone : ∀ e ∈ front, completed e = none := fun e he => completed_eq_none (hfront e he)
  have hquiet : saidText last = none := by
    apply saidText_eq_none
    rw [htype]
    cases a.completed <;> decide
  have hemit : emit (onValue ids) {} (front ++ [last]) =
      ((onValue ids { acc := a.said } last).1,
        pieces.map (ids.textChunk · none) ++ (onValue ids { acc := a.said } last).2) := by
    rw [emit_append, emit_front ids hnone, saidTexts_front hpieces, hsaid, String.empty_append]
    simp [emit]
  rw [hemit, onValue_eq, hquiet, Option.getD_none, String.append_empty, Answer.streamed]
  dsimp only
  cases hcompleted : a.completed with
  | true =>
    rw [hcompleted] at htype
    have hlast : completed last = some v := (if_pos htype).trans hresponse
    have husage : givenUsage last = some a.usage := by
      obtain ⟨u, hu, hinput, houtput⟩ := hdocument.usage
      rw [givenUsage, hlast, Option.bind_some, hu, Option.map_some, readUsage, Value.getCount,
        Value.getCount, hinput, houtput]
      rfl
    have hfinish : (machine ids).finish { acc := a.said, lastUsage := some a.usage } = [] :=
      if_neg fun h => Option.some_ne_none _ h.2
    rw [hlast, husage, Option.some_or, hfinish, List.append_nil]
    have hends : ∀ c ∈ [ids.endChunk (some "stop") (some a.usage)], c.delta = {} := by
      intro c hc
      rw [List.mem_singleton.mp hc]
      rfl
    have htotal := accumulate_texts ids pieces hends
    rw [hsaid] at htotal
    exact htotal.trans (by rw [if_pos (.inl rfl)]; rfl)
  | false =>
    rw [hcompleted] at htype
    have hlast : completed last = none := by
      apply completed_eq_none
      rw [htype]
      decide
    have husage : givenUsage last = none := by
      rw [givenUsage, hlast]
      rfl
    rw [hlast, husage, Option.none_or]
    simp only [Option.toList_none, List.map_nil, List.append_nil]
    by_cases hempty : a.said = ""
    · have hfinish : (machine ids).finish { acc := a.said, lastUsage := none } = [] :=
        if_neg fun h => h.1 hempty
      rw [hfinish, if_neg (by simp [hempty])]
      have htotal := accumulate_texts ids pieces (List.forall_mem_nil _)
      rw [hsaid] at htotal
      exact htotal
    · have hfinish : (machine ids).finish { acc := a.said, lastUsage := none } =
          [ids.endChunk (some "stop") none] := if_pos ⟨hempty, rfl⟩
      rw [hfinish, if_pos (.inr hempty)]
      have hends : ∀ c ∈ [ids.endChunk (some "stop") none], c.delta = {} := by
        intro c hc
        rw [List.mem_singleton.mp hc]
        rfl
      have htotal := accumulate_texts ids pieces hends
      rw [hsaid] at htotal
      exact htotal

theorem accumulated_document {a : Answer} (h : a.Document text v) (providerId model : String) :
    ∃ r, parseResponsesResponse v providerId model = .ok r ∧ r.accumulated = a.whole := by
  obtain ⟨parts, ⟨items, groups, houtput, hitems, rfl⟩, hsaid⟩ := h.parts
  obtain ⟨u, hu, hinput, houtputTokens⟩ := h.usage
  have hcontent : (((v.get "output").bind Value.asArray).getD []).flatMap itemTexts =
      groups.flatten.filterMap AnswerPart.textBlock := by
    rw [houtput]
    exact flatMap_spells (fun _ _ => itemTexts_spells) hitems
  have htext : Outbound.textFromBlocks (groups.flatten.filterMap AnswerPart.textBlock) =
      a.said := by
    rw [← hsaid, Outbound.textFromBlocks, List.filterMap_filterMap]
    exact congrArg (fun f => Str.concat (List.filterMap f groups.flatten))
      (funext fun part => by cases part <;> rfl)
  have hcalls : Outbound.toolUses (groups.flatten.filterMap AnswerPart.textBlock) = [] := by
    rw [Outbound.toolUses, List.filter_eq_nil_iff]
    intro block hblock
    obtain ⟨part, -, hpart⟩ := List.mem_filterMap.mp hblock
    cases part with
    | text t =>
      cases hpart
      exact Bool.false_ne_true
    | call call => cases hpart
  have husage : (v.get "usage").map (readUsage "input_tokens" "output_tokens") = some a.usage := by
    rw [hu, Option.map_some, readUsage, Value.getCount, Value.getCount, hinput, houtputTokens]
    rfl
  refine ⟨_, rfl, ?_⟩
  rw [CanonicalResponse.accumulated, hcontent, htext, hcalls, husage]
  rfl

theorem streamed_eq_whole (a : Answer) : a.streamed = a.whole ↔
    a.completed = true ∨
      a.said ≠ "" ∧ a.inputTokens.toUInt32 = 0 ∧ a.outputTokens.toUInt32 = 0 := by
  rw [Answer.streamed, Answer.whole, Answer.usage]
  cases a.completed with
  | true => simp
  | false =>
    by_cases hempty : a.said = ""
    · simp [hempty]
    · simp [hempty, eq_comm (a := (0 : UInt32))]

end Agreement

/-- A streamed answer comes to the same as the document that it ends with exactly if it is
completed, or has been cut off behind some text at no counts. -/
theorem streamed_response_iff (text : Json.Text) (ids : StreamId) (providerId model : String)
    {a : Answer} {v : Value} (hdocument : a.Document text v)
    {input : List (AppResult (List UInt8))} (hend : failure input = none)
    (hevents : a.Events text ((SseAdapter.responses.machine text ids).values text input)) :
    (∃ r, parseResponsesResponse v providerId model = .ok r ∧
      accumulate (received ((SseAdapter.responses.machine text ids).stream text input)) =
        r.accumulated) ↔
      a.completed = true ∨
        a.said ≠ "" ∧ a.inputTokens.toUInt32 = 0 ∧ a.outputTokens.toUInt32 = 0 := by
  obtain ⟨r, hr, hread⟩ := accumulated_document hdocument providerId model
  have hnot : ¬ (failure input).isSome := by
    rw [hend]
    exact Bool.false_ne_true
  rw [StreamMachine.received_stream, if_neg hnot, ← streamed_eq_whole,
    ← accumulate_events ids hevents, ← hread]
  constructor
  · intro h
    obtain ⟨r', hr', heq⟩ := h
    rw [hr] at hr'
    cases hr'
    exact heq
  · exact fun heq => ⟨r, hr, heq⟩

def deltaSource : String :=
  "\x7b\"type\":\"response.output_text.delta\",\"delta\":\"hi\"\x7d"

def deltaEvent : Value :=
  .object [("type", .string "response.output_text.delta"), ("delta", .string "hi")]

def outputDocument : Value :=
  .object
    [("output", .array [.object [("type", .string "message"), ("content", .array
        [.object [("type", .string "output_text"), ("text", .string "hi")]])]]),
      ("usage", .object [("input_tokens", .ofU32 3), ("output_tokens", .ofU32 2)])]

def completedSource : String :=
  "\x7b\"type\":\"response.completed\",\"response\":\x7b\"output\":[\x7b\"type\":\"message\"," ++
    "\"content\":[\x7b\"type\":\"output_text\",\"text\":\"hi\"\x7d]\x7d]," ++
      "\"usage\":\x7b\"input_tokens\":3,\"output_tokens\":2\x7d\x7d\x7d"

def completedEvent : Value :=
  .object [("type", .string "response.completed"), ("response", outputDocument)]

def answerEvents : List (String × Value) :=
  [(deltaSource, deltaEvent), (completedSource, completedEvent)]

def greeting : Answer := ⟨"hi", true, 3, 2⟩

theorem greeting_document (text : Json.Text) : greeting.Document text outputDocument where
  parts := by
    refine ⟨[.text "hi"], ⟨_, [[[.text "hi"]].flatten], rfl, ?_, rfl⟩, rfl⟩
    exact .cons (.message rfl rfl (.cons (.text rfl rfl) .nil)) .nil
  usage := ⟨_, rfl, rfl, rfl⟩

theorem greeting_values (ids : StreamId) :
    (SseAdapter.responses.machine (.knowing (fun _ => "null") answerEvents) ids).values
        (.knowing (fun _ => "null") answerEvents) [.ok (streamBytes (answerEvents.map Prod.fst))] =
      [deltaEvent, completedEvent] := by
  apply StreamMachine.values_known
  · decide
  · simp only [answerEvents, List.forall_mem_cons]
    refine ⟨.of_chars rfl (by decide) (by decide), ?_, List.forall_mem_nil _⟩
    exact .append (.append (.of_chars rfl (by decide) (by decide))
      (.of_chars rfl (by decide) (by decide))) (.of_chars rfl (by decide) (by decide))
  · decide

theorem streamed_response_iff_sample :
    ∃ r, parseResponsesResponse outputDocument "openai" "gpt-4o" = .ok r ∧
      accumulate (received ((SseAdapter.responses.machine (.knowing (fun _ => "null") answerEvents)
        ⟨"m", "gpt-4o"⟩).stream (.knowing (fun _ => "null") answerEvents)
          [.ok (streamBytes (answerEvents.map Prod.fst))])) = r.accumulated := by
  have hevents : greeting.Events (.knowing (fun _ => "null") answerEvents)
      ((SseAdapter.responses.machine (.knowing (fun _ => "null") answerEvents)
        ⟨"m", "gpt-4o"⟩).values (.knowing (fun _ => "null") answerEvents)
          [.ok (streamBytes (answerEvents.map Prod.fst))]) := by
    rw [greeting_values]
    refine ⟨[deltaEvent], completedEvent, ["hi"], outputDocument, rfl, .cons rfl .nil, rfl, ?_, rfl,
      rfl, greeting_document _⟩
    intro e he
    rw [List.mem_singleton.mp he]
    decide
  exact (streamed_response_iff _ _ "openai" "gpt-4o" (greeting_document _) rfl hevents).mpr
    (.inl rfl)

end Responses

end TokenDealer
