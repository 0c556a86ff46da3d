import TokenDealer.SentTexts

set_option autoImplicit true

namespace TokenDealer

open Json

section Received

variable (text : Json.Text)

/-- The content of the result of a tool, where it has any. -/
def resultContent (v : Value) : Option Value :=
  if v.getStr "type" = some "tool_result" ∧ (v.getStr "tool_use_id").isSome then v.get "content"
  else none

def resultContents : Value → List Value
  | .array items => items.filterMap resultContent
  | _ => []

/-- The texts of content that go out. -/
def textsOf (v : Value) : List String := (contentToBlocks text v).filterMap OpenAi.blockText

variable {text}

/-- A block is a text or the result of a tool, or it has no text. -/
theorem blockFromValue_cases (h : blockFromValue text v = some b) :
    (∃ t, b = .text t ∧ v.getStr "text" = some t ∧ resultContent v = none) ∨
    (∃ id, b = .toolResult id (((v.get "content").map (contentToBlocks text)).getD []) ∧
      resultContent v = v.get "content") ∨
    (OpenAi.blockText b = none ∧ resultTexts b = [] ∧ resultContent v = none) := by
  cases v with
  | object members =>
    rw [blockFromValue] at h
    cases hkind : (Table.get "type" members).bind Value.asStr with
    | none => simp only [hkind, reduceCtorEq] at h
    | some kind =>
      have htype : (Value.object members).getStr "type" = some kind := hkind
      have hother : kind ≠ "tool_result" → resultContent (.object members) = none := by
        intro hne
        rw [resultContent, htype, if_neg]
        exact fun hc => hne (Option.some.inj hc.1)
      simp only [hkind] at h
      by_cases htext : kind = "text"
      · rw [if_pos htext] at h
        obtain ⟨t, ht, rfl⟩ := Option.map_eq_some_iff.mp h
        exact .inl ⟨t, rfl, ht, hother (by rw [htext]; decide)⟩
      · rw [if_neg htext] at h
        by_cases hresult : kind = "tool_result"
        · rw [hresult] at h
          simp (disch := decide) only [if_neg, if_true] at h
          obtain ⟨id, hid, hb⟩ := Option.bind_eq_some_iff.mp h
          cases hb
          refine .inr (.inl ⟨id, ?_, ?_⟩)
          · rw [nestedContent_eq, Value.get_object]
          · have hid' : (Value.object members).getStr "tool_use_id" = some id := hid
            rw [resultContent, htype, hresult, hid', if_pos ⟨rfl, rfl⟩]
        · have hplain : OpenAi.blockText b = none ∧ resultTexts b = [] := by
            rw [if_neg hresult] at h
            split at h
            · obtain ⟨url, -, rfl⟩ := Option.map_eq_some_iff.mp h
              exact ⟨rfl, rfl⟩
            · split at h
              · obtain ⟨mediaType, -, h⟩ := Option.bind_eq_some_iff.mp h
                obtain ⟨data, -, h⟩ := Option.bind_eq_some_iff.mp h
                cases h
                exact ⟨rfl, rfl⟩
              · split at h
                · obtain ⟨mediaType, -, h⟩ := Option.bind_eq_some_iff.mp h
                  obtain ⟨data, -, h⟩ := Option.bind_eq_some_iff.mp h
                  cases h
                  exact ⟨rfl, rfl⟩
                · split at h
                  · obtain ⟨id, -, h⟩ := Option.bind_eq_some_iff.mp h
                    obtain ⟨name, -, h⟩ := Option.bind_eq_some_iff.mp h
                    cases h
                    exact ⟨rfl, rfl⟩
                  · cases h
          exact .inr (.inr ⟨hplain.1, hplain.2, hother hresult⟩)
  | _ => simp only [blockFromValue, reduceCtorEq] at h

/-- The result of a tool is never dropped. -/
theorem resultContent_none (h : blockFromValue text v = none) : resultContent v = none := by
  rw [resultContent, if_neg]
  intro hc
  obtain ⟨htype, hid⟩ := hc
  obtain ⟨id, hid⟩ := Option.isSome_iff_exists.mp hid
  obtain ⟨members, rfl, hkind⟩ := getStr_eq_some htype
  have hid' : (Table.get "tool_use_id" members).bind Value.asStr = some id := hid
  rw [blockFromValue] at h
  simp (disch := decide) only [hkind, hid', if_neg, if_true] at h
  cases h

theorem getStr_text_mem (h : v.getStr "text" = some t) : t ∈ itemPieces v := by
  obtain ⟨members, rfl, ht⟩ := getStr_eq_some h
  rw [itemPieces_object, ht]
  exact List.mem_append_left _ List.mem_cons_self

theorem resultContent_mem (h : resultContent v = some c) (hp : p ∈ contentPieces c) :
    p ∈ itemPieces v := by
  rw [resultContent] at h
  split at h
  · cases v with
    | object members =>
      have hc : Table.get "content" members = some c := h
      rw [itemPieces_object, hc]
      exact List.mem_append_right _ hp
    | _ => cases h
  · cases h

/-- The texts found in content are among its pieces. -/
theorem textsOf_mem (hv : IsContent v) (h : t ∈ textsOf text v) : t ∈ contentPieces v := by
  cases hv with
  | string s =>
    rw [textsOf, contentToBlocks] at h
    rw [contentPieces]
    exact h
  | array items =>
    rw [textsOf, contentToBlocks, blocksFromValues_eq_filterMap] at h
    obtain ⟨b, hb, ht⟩ := List.mem_filterMap.mp h
    obtain ⟨item, hitem, hb⟩ := List.mem_filterMap.mp hb
    rw [contentPieces, itemsPieces_eq_flatMap]
    refine List.mem_flatMap.mpr ⟨item, hitem, ?_⟩
    obtain ⟨t', rfl, htext, -⟩ | ⟨id, rfl, -⟩ | ⟨hnone, -⟩ := blockFromValue_cases hb
    · cases ht
      exact getStr_text_mem htext
    · cases ht
    · rw [hnone] at ht
      cases ht

/-- Content of any other kind is printed, and the print is taken for a text. -/
theorem contentToBlocks_print (hv : ¬ IsContent v) :
    contentToBlocks text v = [.text (text.print v)] ∧ contentPieces v = [] := by
  cases v with
  | string s => exact absurd (.string s) hv
  | array items => exact absurd (.array items) hv
  | _ => simp only [contentToBlocks, contentPieces, and_self]

theorem flatMap_resultTexts (v : Value) :
    (contentToBlocks text v).flatMap resultTexts = (resultContents v).flatMap (textsOf text) := by
  cases v with
  | array items =>
    rw [contentToBlocks, blocksFromValues_eq_filterMap, resultContents]
    induction items with
    | nil => rfl
    | cons item rest ih =>
      rw [List.filterMap_cons, List.filterMap_cons]
      cases hb : blockFromValue text item with
      | none =>
        rw [resultContent_none hb]
        exact ih
      | some b =>
        dsimp only
        rw [List.flatMap_cons, ih]
        obtain ⟨t, rfl, -, hnone⟩ | ⟨id, rfl, hsome⟩ | ⟨-, hplain, hnone⟩ :=
          blockFromValue_cases hb
        · rw [hnone]
          rfl
        · rw [hsome, resultTexts]
          cases item.get "content" with
          | none => rfl
          | some c =>
            dsimp only
            rw [List.flatMap_cons]
            rfl
        · rw [hnone, hplain]
          rfl
  | _ =>
    simp only [contentToBlocks, resultContents, resultTexts, List.flatMap_cons, List.flatMap_nil,
      List.append_nil]

theorem resultContents_mem (h : c ∈ resultContents v) (hp : p ∈ contentPieces c) :
    p ∈ contentPieces v := by
  cases v with
  | array items =>
    obtain ⟨item, hitem, hc⟩ := List.mem_filterMap.mp h
    rw [contentPieces, itemsPieces_eq_flatMap]
    exact List.mem_flatMap.mpr ⟨item, hitem, resultContent_mem hc hp⟩
  | _ => cases h

theorem textsOf_print (hv : ¬ IsContent v) : textsOf text v = [text.print v] := by
  rw [textsOf, (contentToBlocks_print hv).1]
  rfl

/-- The texts of the results of tools are pieces of the message, except for those that are the
print of another value. -/
theorem spliced_results_iff (v : Value) :
    (∀ t ∈ (contentToBlocks text v).flatMap resultTexts, Spliced (contentPieces v) t) ↔
      ∀ c ∈ resultContents v, IsContent c ∨ Spliced (contentPieces v) (text.print c) := by
  rw [flatMap_resultTexts]
  constructor
  · intro h c hc
    by_cases hcontent : IsContent c
    · exact .inl hcontent
    · refine .inr (h _ (List.mem_flatMap.mpr ⟨c, hc, ?_⟩))
      rw [textsOf_print hcontent]
      exact List.mem_cons_self
  · intro h t ht
    obtain ⟨c, hc, ht⟩ := List.mem_flatMap.mp ht
    by_cases hcontent : IsContent c
    · exact .of_mem (resultContents_mem hc (textsOf_mem hcontent ht))
    · rw [textsOf_print hcontent] at ht
      rw [List.mem_singleton.mp ht]
      exact (h c hc).resolve_left hcontent

theorem not_spliced_print (hprint : ∀ v, text.print v ≠ "") (hv : ¬ IsContent v) :
    ¬ Spliced (contentPieces v) (text.print v) := by
  have hprinted : contentToBlocks text v = [.text (text.print v)] ∧ contentPieces v = [] :=
    contentToBlocks_print hv
  rw [hprinted.2, spliced_nil]
  exact hprint v

theorem spliced_texts_iff (hprint : ∀ v, text.print v ≠ "") (v : Value) :
    (∀ t ∈ textsOf text v, Spliced (contentPieces v) t) ↔ IsContent v := by
  constructor
  · intro h
    by_contra hv
    refine not_spliced_print hprint hv (h _ ?_)
    rw [textsOf_print hv]
    exact List.mem_cons_self
  · intro hv t ht
    exact .of_mem (textsOf_mem hv ht)

theorem spliced_joined_iff (hprint : ∀ v, text.print v ≠ "") (v : Value) :
    (∀ t ∈ [joinedText (contentToBlocks text v)], Spliced (contentPieces v) t) ↔
      IsContent v := by
  rw [List.forall_mem_singleton]
  constructor
  · intro h
    by_contra hv
    apply not_spliced_print hprint hv
    rw [joinedText, (contentToBlocks_print hv).1] at h
    exact h
  · intro hv
    exact ⟨textsOf text v, fun t ht => textsOf_mem hv ht, rfl⟩

theorem roleOf_tool : roleOf role = .tool ↔ role = "tool" := by
  constructor
  · intro h
    by_contra hne
    rw [roleOf, if_neg hne] at h
    split at h
    · cases h
    · split at h
      · cases h
      · split at h <;> cases h
  · rintro rfl
    rfl

variable (text) in
/-- The proxy finds the texts of a message: its content is a string or an array. Of a message of a
tool only the results go to Anthropic, and it is their content that counts; another value may stand
there if its print is a text of the message all the same. -/
def SseAdapter.FindsTexts (adapter : SseAdapter) (msg : InboundMessage) : Prop :=
  if adapter = anthropic ∧ msg.role = "tool" then
    ∀ v ∈ resultContents msg.content,
      IsContent v ∨ Spliced (contentPieces msg.content) (text.print v)
  else IsContent msg.content

theorem findsTexts_of_ne {adapter : SseAdapter} (h : adapter ≠ .anthropic) {msg : InboundMessage} :
    adapter.FindsTexts text msg ↔ IsContent msg.content := by
  rw [SseAdapter.FindsTexts, if_neg fun hboth => h hboth.1]

theorem spliced_sentTexts_iff (hprint : ∀ v, text.print v ≠ "") (adapter : SseAdapter)
    (msg : InboundMessage) :
    (∀ t ∈ adapter.sentTexts (messageToCanonical text msg),
        Spliced (contentPieces msg.content) t) ↔ adapter.FindsTexts text msg := by
  cases adapter with
  | anthropic =>
    rw [SseAdapter.FindsTexts, SseAdapter.sentTexts, messageToCanonical]
    by_cases hrole : msg.role = "tool"
    · rw [if_pos (roleOf_tool.mpr hrole), if_pos ⟨rfl, hrole⟩]
      exact spliced_results_iff msg.content
    · rw [if_neg (mt roleOf_tool.mp hrole), if_neg fun h => hrole h.2]
      exact spliced_texts_iff hprint msg.content
  | openai =>
    rw [findsTexts_of_ne (by decide)]
    by_cases hblocks : (messageToCanonical text msg).content.any fun b => !OpenAi.isText b
    · rw [SseAdapter.sentTexts, if_pos hblocks]
      exact spliced_texts_iff hprint msg.content
    · rw [SseAdapter.sentTexts, if_neg hblocks]
      exact spliced_joined_iff hprint msg.content
  | google =>
    rw [findsTexts_of_ne (by decide)]
    exact spliced_texts_iff hprint msg.content
  | generic | responses =>
    rw [findsTexts_of_ne (by decide)]
    exact spliced_joined_iff hprint msg.content

/-- The text of a system message is always put together from its own pieces. -/
theorem spliced_contentToText (v : Value) : Spliced (contentPieces v) (contentToText v) := by
  cases v with
  | string s =>
    apply Spliced.of_mem
    rw [contentPieces]
    exact List.mem_cons_self
  | array items =>
    refine ⟨_, ?_, rfl⟩
    intro p hp
    obtain ⟨item, hitem, hp⟩ := List.mem_filterMap.mp hp
    rw [contentPieces, itemsPieces_eq_flatMap]
    exact List.mem_flatMap.mpr ⟨item, hitem, getStr_text_mem hp⟩
  | _ => exact ⟨[], fun p hp => absurd hp List.not_mem_nil, rfl⟩

end Received

/-- A request's body has no new text exactly if the proxy finds the texts of every message. -/
theorem inventsNoText_iff (text : Json.Text) (hprint : ∀ v, text.print v ≠ "")
    (adapter : SseAdapter) (r : InboundRequest) (tier : Tier)
    (selectedModel selectedProvider requestId : String) :
    ∃ req, r.intoCanonical text tier selectedModel selectedProvider requestId = .ok req ∧
      (InventsNoText adapter r (adapter.buildBody text req) ↔
        ∀ msg ∈ r.messages, msg.role ≠ "system" → adapter.FindsTexts text msg) := by
  obtain ⟨req, hreq, hmessages, hsystem⟩ :=
    intoCanonical_eq text r tier selectedModel selectedProvider requestId
  have hroles : ∀ msg ∈ req.messages, msg.role ≠ .system := by
    rw [hmessages]
    intro msg hmsg
    obtain ⟨inbound, hinbound, rfl⟩ := List.mem_map.mp hmsg
    have hs := (List.mem_filter.mp hinbound).2
    apply roleOf_ne_system
    rw [isSystem, Bool.not_eq_true', decide_eq_false_iff_not] at hs
    exact hs
  refine ⟨req, hreq, ?_⟩
  have hsent : adapter.messageTexts (adapter.buildBody text req) =
      (r.messages.filter fun msg => !isSystem msg).map fun msg =>
        adapter.sentTexts (messageToCanonical text msg) := by
    rw [adapter.messageTexts_buildBody text hroles, hmessages, List.map_map]
    rfl
  have hkept : ∀ msg, msg ∈ r.messages.filter (fun msg => !isSystem msg) ↔
      msg ∈ r.messages ∧ msg.role ≠ "system" := by
    intro msg
    rw [List.mem_filter, isSystem, Bool.not_eq_true', decide_eq_false_iff_not]
  constructor
  · intro h msg hmsg hrole
    have hmessage := h.messages
    rw [hsent, List.forall₂_map_right_iff, List.forall₂_same] at hmessage
    exact (spliced_sentTexts_iff hprint adapter msg).mp
      (hmessage msg ((hkept msg).mpr ⟨hmsg, hrole⟩))
  · intro h
    refine ⟨⟨(r.messages.filter isSystem).map fun msg => contentToText msg.content, ?_, ?_⟩, ?_⟩
    · rw [List.forall₂_map_right_iff, List.forall₂_same]
      exact fun msg _ => spliced_contentToText msg.content
    · rw [adapter.promptTexts_buildBody text hroles, hsystem.1]
    · rw [hsent, List.forall₂_map_right_iff, List.forall₂_same]
      intro msg hmsg
      obtain ⟨hmem, hrole⟩ := (hkept msg).mp hmsg
      exact (spliced_sentTexts_iff hprint adapter msg).mpr (h msg hmem hrole)

/-- An assistant that calls a tool and says nothing. -/
def silentCall : InboundRequest where
  model := "gpt-4o"
  messages :=
    [{ role := "user", content := .string "a cat?" },
      { role := "assistant", content := .null,
        toolCalls := some [⟨"c1", "function", ⟨"search", "\x7b\x7d"⟩⟩] }]

/-- A library that knows the empty object and prints null. -/
def silentText : Json.Text :=
  .knowing (fun v => match v with | .null => "null" | _ => "\x7b\x7d") [("\x7b\x7d", .object [])]

theorem silentText_print (v : Value) : silentText.print v ≠ "" := by
  have hobject : "\x7b\x7d" ≠ "" := by decide
  cases v with
  | null => decide
  | _ => exact hobject

theorem inventsNoText_iff_silentCall :
    ∃ req, silentCall.intoCanonical silentText .standard "gpt-4o" "openai" "1" = .ok req ∧
      (InventsNoText .openai silentCall (SseAdapter.openai.buildBody silentText req) ↔
        ∀ msg ∈ silentCall.messages, msg.role ≠ "system" →
          SseAdapter.openai.FindsTexts silentText msg) :=
  inventsNoText_iff silentText silentText_print .openai silentCall .standard "gpt-4o" "openai" "1"

/-- The assistant that said nothing goes to the service with the text null. -/
theorem null_sent_as_text :
    ∃ req, silentCall.intoCanonical silentText .standard "gpt-4o" "openai" "1" = .ok req ∧
      SseAdapter.openai.messageTexts (SseAdapter.openai.buildBody silentText req) =
        [["a cat?"], ["null"]] ∧
      ¬ InventsNoText .openai silentCall (SseAdapter.openai.buildBody silentText req) := by
  refine ⟨_, rfl, rfl, ?_⟩
  intro h
  have hmessages := h.messages
  obtain _ | ⟨-, hrest⟩ := hmessages
  obtain _ | ⟨hcall, -⟩ := hrest
  have hnull : Spliced [] "null" := hcall "null" List.mem_cons_self
  exact absurd (spliced_nil.mp hnull) (by decide)

end TokenDealer
