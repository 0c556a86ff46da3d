import TokenDealer.RequestBodies

set_option autoImplicit true

namespace TokenDealer

open Json

/-- A text put together from pieces, in any order and each of them any number of times. -/
def Spliced (pieces : List String) (t : String) : Prop :=
  ∃ used, (∀ p ∈ used, p ∈ pieces) ∧ Str.concat used = t

theorem Spliced.of_mem (h : t ∈ pieces) : Spliced pieces t := by
  refine ⟨[t], ?_, rfl⟩
  intro p hp
  rw [List.mem_singleton.mp hp]
  exact h

theorem spliced_nil : Spliced [] t ↔ t = "" := by
  constructor
  · intro h
    obtain ⟨used, hused, rfl⟩ := h
    rw [List.eq_nil_iff_forall_not_mem.mpr fun p hp => List.not_mem_nil (hused p hp)]
    rfl
  · intro h
    exact ⟨[], fun p hp => absurd hp List.not_mem_nil, h.symm⟩

mutual

/-- The texts in the content of a message, those in the results of tools included. Content that is
neither a string nor an array has none. -/
def contentPieces : Value → List String
  | .string s => [s]
  | .array items => itemsPieces items
  | _ => []

def itemsPieces : List Value → List String
  | [] => []
  | v :: rest => itemPieces v ++ itemsPieces rest

def itemPieces : Value → List String
  | .string s => [s]
  | .object members =>
    ((Table.get "text" members).bind Value.asStr).toList ++ memberPieces members
  | _ => []

/-- The texts of the first content member. -/
def memberPieces : List (String × Value) → List String
  | [] => []
  | (key, v) :: rest => if key = "content" then contentPieces v else memberPieces rest

end

theorem itemsPieces_eq_flatMap (items : List Value) :
    itemsPieces items = items.flatMap itemPieces := by
  induction items with
  | nil => simp only [itemsPieces, List.flatMap_nil]
  | cons v rest ih => rw [itemsPieces, ih, List.flatMap_cons]

theorem memberPieces_eq (members : List (String × Value)) :
    memberPieces members = ((Table.get "content" members).map contentPieces).getD [] := by
  induction members with
  | nil => simp only [memberPieces, Table.get, Option.map_none, Option.getD_none]
  | cons m rest ih =>
    obtain ⟨key, v⟩ := m
    by_cases hk : key = "content"
    · simp only [memberPieces, Table.get, if_pos hk, Option.map_some, Option.getD_some]
    · simp only [memberPieces, Table.get, if_neg hk, ih]

/-- Content as the interface has it, a string or an array. -/
inductive IsContent : Value → Prop where
  | string (s : String) : IsContent (.string s)
  | array (items : List Value) : IsContent (.array items)

section Bodies

/-- The entries of a list in a body. -/
def entries (key : String) (body : Value) : List Value :=
  ((body.get key).bind Value.asArray).getD []

def memberTexts (key : String) (v : Value) : List String :=
  ((v.get key).map contentPieces).getD []

/-- A message that is the system prompt. -/
def isPrompt (v : Value) : Bool := v.getStr "role" = some "system"

namespace SseAdapter

/-- The member of a body that holds the conversation. -/
def messagesKey : SseAdapter → String
  | openai | anthropic | generic => "messages"
  | google => "contents"
  | responses => "input"

/-- The member of a message that holds what it says. -/
def textsKey : SseAdapter → String
  | openai | anthropic | generic | responses => "content"
  | google => "parts"

/-- The texts of the system prompt in a body: it is a message of its own, or a member beside the
conversation. -/
def promptTexts (body : Value) : SseAdapter → List String
  | anthropic => memberTexts "system" body
  | google => ((body.get "systemInstruction").map (memberTexts "parts")).getD []
  | openai => ((entries "messages" body).filter isPrompt).flatMap (memberTexts "content")
  | generic => ((entries "messages" body).filter isPrompt).flatMap (memberTexts "content")
  | responses => ((entries "input" body).filter isPrompt).flatMap (memberTexts "content")

/-- The texts of each message of the conversation in a body. -/
def messageTexts (body : Value) (adapter : SseAdapter) : List (List String) :=
  ((entries adapter.messagesKey body).filter fun v => !isPrompt v).map
    (memberTexts adapter.textsKey)

end SseAdapter

/-- A body in which no text is new. The texts of a message are put together from those of the
message they stand for; the prompt has one such text for each system message, with line feeds
between them. -/
structure InventsNoText (adapter : SseAdapter) (r : InboundRequest) (body : Value) : Prop where
  prompt : ∃ shares,
    List.Forall₂ (fun msg share => Spliced (contentPieces msg.content) share)
      (r.messages.filter isSystem) shares ∧
    adapter.promptTexts body = (joinTexts shares).toList
  messages :
    List.Forall₂ (fun msg texts => ∀ t ∈ texts, Spliced (contentPieces msg.content) t)
      (r.messages.filter fun msg => !isSystem msg) (adapter.messageTexts body)

/-- A message without any text, such as one that is null or an empty array, contributes none. -/
theorem InventsNoText.silent (h : InventsNoText adapter r body) :
    List.Forall₂ (fun msg texts => contentPieces msg.content = [] → ∀ t ∈ texts, t = "")
      (r.messages.filter fun msg => !isSystem msg) (adapter.messageTexts body) := by
  apply h.messages.imp
  intro msg texts htexts hsilent t ht
  have hspliced := htexts t ht
  rw [hsilent] at hspliced
  exact spliced_nil.mp hspliced

end Bodies

section Sent

/-- The texts of a block that stands for the result of a tool. -/
def resultTexts : ContentBlock → List String
  | .toolResult _ content => content.filterMap OpenAi.blockText
  | _ => []

/-- The texts that a message has at a service. -/
def SseAdapter.sentTexts (msg : CanonicalMessage) : SseAdapter → List String
  | openai =>
    if msg.content.any fun b => !OpenAi.isText b then msg.content.filterMap OpenAi.blockText
    else [joinedText msg.content]
  | anthropic =>
    if msg.role = .tool then msg.content.flatMap resultTexts
    else msg.content.filterMap OpenAi.blockText
  | google => msg.content.filterMap OpenAi.blockText
  | generic => [joinedText msg.content]
  | responses => [joinedText msg.content]

/-- Reading the blocks that went out gives their texts. -/
theorem itemsPieces_filterMap {f : ContentBlock → Option Value} {g : ContentBlock → List String}
    (h : ∀ b, ((f b).map itemPieces).getD [] = g b) (blocks : List ContentBlock) :
    itemsPieces (blocks.filterMap f) = blocks.flatMap g := by
  induction blocks with
  | nil => simp only [List.filterMap_nil, itemsPieces, List.flatMap_nil]
  | cons b rest ih =>
    have hb := h b
    rw [List.filterMap_cons, List.flatMap_cons, ← hb]
    cases f b with
    | none => exact ih
    | some v => rw [itemsPieces, ih, Option.map_some, Option.getD_some]

theorem flatMap_blockText (blocks : List ContentBlock) :
    (blocks.flatMap fun b => (OpenAi.blockText b).toList) = blocks.filterMap OpenAi.blockText :=
  (List.filterMap_eq_flatMap_toList _ _).symm

theorem itemPieces_strings (ts : List String) : itemsPieces (ts.map .string) = ts := by
  induction ts with
  | nil => simp only [List.map_nil, itemsPieces]
  | cons t rest ih => rw [List.map_cons, itemsPieces, itemPieces, ih, List.singleton_append]

theorem itemPieces_textPart (t : String) : itemPieces (OpenAi.textPart t) = [t] := by
  simp (disch := decide) only [OpenAi.textPart, itemPieces, memberPieces_eq,
    Table.get_cons_self, Table.get_cons_of_ne, Table.get_nil]
  rfl

theorem contentPieces_contentToOpenai (blocks : List ContentBlock) :
    contentPieces (OpenAi.contentToOpenai blocks) =
      if blocks.any fun b => !OpenAi.isText b then blocks.filterMap OpenAi.blockText
      else [joinedText blocks] := by
  rw [OpenAi.contentToOpenai]
  split
  · rw [contentPieces, ← flatMap_blockText]
    apply itemsPieces_filterMap
    intro b
    cases b with
    | text t => exact itemPieces_textPart t
    | image mediaType data =>
      simp (disch := decide) only [OpenAi.blockPart, OpenAi.imagePart, Option.map_some, itemPieces,
        memberPieces_eq, Table.get_cons_of_ne, Table.get_nil]
      rfl
    | _ => rfl
  · rw [contentPieces]
    rfl

theorem itemPieces_object (members : List (String × Value)) :
    itemPieces (.object members) = ((Table.get "text" members).bind Value.asStr).toList ++
      ((Table.get "content" members).map contentPieces).getD [] := by
  rw [itemPieces, memberPieces_eq]

theorem contentPieces_blocksToAnthropicContent (blocks : List ContentBlock) :
    contentPieces (Anthropic.blocksToAnthropicContent blocks) =
      blocks.filterMap OpenAi.blockText := by
  rw [Anthropic.blocksToAnthropicContent, contentPieces, ← flatMap_blockText]
  apply itemsPieces_filterMap
  intro b
  cases b with
  | text t => exact itemPieces_textPart t
  | image mediaType data =>
    simp (disch := decide) only [Anthropic.contentBlock, Option.map_some, itemPieces_object,
      Table.get_cons_of_ne, Table.get_nil]
    rfl
  | _ => rfl

theorem itemsPieces_append (xs ys : List Value) :
    itemsPieces (xs ++ ys) = itemsPieces xs ++ itemsPieces ys := by
  rw [itemsPieces_eq_flatMap, itemsPieces_eq_flatMap, itemsPieces_eq_flatMap, List.flatMap_append]

theorem itemsPieces_textBlocks (ts : List String) :
    itemsPieces (ts.map Anthropic.textBlock) = ts := by
  induction ts with
  | nil => simp only [List.map_nil, itemsPieces]
  | cons t rest ih =>
    have ht : itemPieces (Anthropic.textBlock t) = [t] := itemPieces_textPart t
    rw [List.map_cons, itemsPieces, ht, ih, List.singleton_append]

/-- A call of a tool says nothing by itself. -/
theorem itemsPieces_toolUseBlocks (calls : List CanonicalToolCall) :
    itemsPieces (calls.map Anthropic.toolUseBlock) = [] := by
  rw [itemsPieces_eq_flatMap, List.flatMap_eq_nil_iff]
  intro v hv
  obtain ⟨call, -, rfl⟩ := List.mem_map.mp hv
  simp (disch := decide) only [Anthropic.toolUseBlock, itemPieces_object, Table.get_cons_of_ne,
    Table.get_nil]
  rfl

theorem itemsPieces_toolResultBlocks (blocks : List ContentBlock) :
    itemsPieces (blocks.filterMap Anthropic.toolResultBlock) = blocks.flatMap resultTexts := by
  apply itemsPieces_filterMap
  intro b
  cases b with
  | toolResult toolUseId content =>
    simp (disch := decide) only [Anthropic.toolResultBlock, Option.map_some, itemPieces_object,
      Table.get_cons_of_ne, Table.get_cons_self, Table.get_nil, contentPieces, itemPieces_strings]
    rfl
  | _ => rfl

theorem itemsPieces_googleParts (blocks : List ContentBlock) :
    itemsPieces (blocks.filterMap Google.part) = blocks.filterMap OpenAi.blockText := by
  rw [← flatMap_blockText]
  apply itemsPieces_filterMap
  intro b
  cases b with
  | text t =>
    simp (disch := decide) only [Google.part, Option.map_some, itemPieces_object,
      Table.get_cons_of_ne, Table.get_cons_self, Table.get_nil]
    rfl
  | image mediaType data =>
    cases data with
    | url url => rfl
    | base64 data =>
      simp (disch := decide) only [Google.part, Option.map_some, itemPieces_object,
        Table.get_cons_of_ne, Table.get_nil]
      rfl
  | _ => rfl

namespace SseAdapter

variable (text : Json.Text)

/-- What a message of the conversation becomes in a body. -/
def sentMessage (msg : CanonicalMessage) : SseAdapter → Value
  | openai => OpenAi.messageToOpenai text msg
  | anthropic => Anthropic.messageToAnthropic msg
  | google => (Google.content msg).getD .null
  | generic => plainMessage (OpenAi.roleName msg.role) (joinedText msg.content)
  | responses => plainMessage (OpenAi.roleName msg.role) (joinedText msg.content)

/-- The system prompt where it is a message of its own. -/
def promptMessage (req : CanonicalRequest) : SseAdapter → Option Value
  | openai | generic | responses => req.system.map (plainMessage "system")
  | anthropic | google => none

theorem isPrompt_promptMessage (adapter : SseAdapter) (req : CanonicalRequest) :
    ∀ v ∈ (adapter.promptMessage req).toList, isPrompt v = true := by
  have hplain : ∀ v ∈ (req.system.map (plainMessage "system")).toList, isPrompt v = true := by
    intro v hv
    obtain ⟨system, -, rfl⟩ := Option.map_eq_some_iff.mp (Option.mem_toList.mp hv)
    rfl
  cases adapter with
  | anthropic | google => exact fun v hv => absurd hv List.not_mem_nil
  | _ => exact hplain

theorem entries_buildBody (adapter : SseAdapter) {req : CanonicalRequest}
    (h : ∀ msg ∈ req.messages, msg.role ≠ .system) :
    entries adapter.messagesKey (adapter.buildBody text req) =
      (adapter.promptMessage req).toList ++
        req.messages.map fun msg => adapter.sentMessage text msg := by
  cases adapter with
  | openai =>
    rw [entries, messagesKey, buildBody, (OpenAi.get_buildBody text req).1]
    rfl
  | anthropic =>
    rw [entries, messagesKey, buildBody, Anthropic.get_messages]
    rfl
  | google =>
    rw [entries, messagesKey, buildBody, Google.get_contents]
    have hcontent : ∀ msg ∈ req.messages,
        Google.content msg = some (sentMessage text msg google) := by
      intro msg hmsg
      have hrole := h msg hmsg
      rw [sentMessage, Google.content]
      cases hr : msg.role with
      | system => exact absurd hr hrole
      | _ => rfl
    rw [List.filterMap_congr hcontent, List.filterMap_eq_map']
    rfl
  | generic =>
    rw [entries, messagesKey, buildBody, Generic.get_messages]
    rfl
  | responses =>
    rw [entries, messagesKey, buildBody, Responses.get_input]
    rfl

theorem isPrompt_sentMessage (adapter : SseAdapter) {msg : CanonicalMessage}
    (h : msg.role ≠ .system) : isPrompt (adapter.sentMessage text msg) = false := by
  rw [isPrompt, Value.getStr, decide_eq_false_iff_not]
  cases adapter with
  | openai =>
    rw [sentMessage, (OpenAi.get_messageToOpenai text msg).1]
    cases hr : msg.role with
    | system => exact absurd hr h
    | _ => decide
  | _ =>
    cases hr : msg.role with
    | system => exact absurd hr h
    | _ =>
      simp only [sentMessage, Anthropic.messageToAnthropic, Google.content, Google.roleName,
        plainMessage, hr, Option.map_some, Option.getD_some, Value.get_object,
        Table.get_cons_self]
      decide

theorem memberTexts_sentMessage (adapter : SseAdapter) {msg : CanonicalMessage}
    (h : msg.role ≠ .system) :
    memberTexts adapter.textsKey (adapter.sentMessage text msg) = adapter.sentTexts msg := by
  cases adapter with
  | openai =>
    rw [memberTexts, textsKey, sentMessage, (OpenAi.get_messageToOpenai text msg).2.1,
      Option.map_some, Option.getD_some, contentPieces_contentToOpenai]
    rfl
  | anthropic =>
    rw [textsKey, sentMessage, Anthropic.messageToAnthropic, sentTexts]
    cases hr : msg.role with
    | system => exact absurd hr h
    | user =>
      rw [if_neg (by decide), ← contentPieces_blocksToAnthropicContent]
      rfl
    | assistant =>
      have hpieces := itemsPieces_append
        ((msg.content.filterMap OpenAi.blockText).map Anthropic.textBlock)
        ((msg.toolCalls.getD []).map Anthropic.toolUseBlock)
      rw [itemsPieces_textBlocks, itemsPieces_toolUseBlocks, List.append_nil, ← contentPieces]
        at hpieces
      rw [if_neg (by decide)]
      exact hpieces
    | tool =>
      rw [if_pos rfl, ← itemsPieces_toolResultBlocks, ← contentPieces]
      rfl
  | google =>
    rw [sentTexts, ← itemsPieces_googleParts, ← contentPieces, sentMessage, Google.content]
    cases hr : msg.role with
    | system => exact absurd hr h
    | _ => rfl
  | generic =>
    rw [sentTexts, ← contentPieces]
    rfl
  | responses =>
    rw [sentTexts, ← contentPieces]
    rfl

theorem messageTexts_buildBody (adapter : SseAdapter) {req : CanonicalRequest}
    (h : ∀ msg ∈ req.messages, msg.role ≠ .system) :
    adapter.messageTexts (adapter.buildBody text req) =
      req.messages.map fun msg => adapter.sentTexts msg := by
  have hprompt : (adapter.promptMessage req).toList.filter (fun v => !isPrompt v) = [] := by
    rw [List.filter_eq_nil_iff]
    intro v hv
    rw [adapter.isPrompt_promptMessage req v hv]
    decide
  have hmessages : (req.messages.map fun msg => adapter.sentMessage text msg).filter
      (fun v => !isPrompt v) = req.messages.map fun msg => adapter.sentMessage text msg := by
    rw [List.filter_eq_self]
    intro v hv
    obtain ⟨msg, hmsg, rfl⟩ := List.mem_map.mp hv
    rw [adapter.isPrompt_sentMessage text (h msg hmsg)]
    rfl
  rw [messageTexts, adapter.entries_buildBody text h, List.filter_append, hprompt, hmessages,
    List.nil_append, List.map_map]
  apply List.map_congr_left
  intro msg hmsg
  exact adapter.memberTexts_sentMessage text (h msg hmsg)

theorem promptTexts_buildBody (adapter : SseAdapter) {req : CanonicalRequest}
    (h : ∀ msg ∈ req.messages, msg.role ≠ .system) :
    adapter.promptTexts (adapter.buildBody text req) = req.system.toList := by
  have hprompt : (adapter.promptMessage req).toList.filter isPrompt =
      (adapter.promptMessage req).toList :=
    List.filter_eq_self.mpr (adapter.isPrompt_promptMessage req)
  have hmessages : (req.messages.map fun msg => adapter.sentMessage text msg).filter isPrompt =
      [] := by
    rw [List.filter_eq_nil_iff]
    intro v hv
    obtain ⟨msg, hmsg, rfl⟩ := List.mem_map.mp hv
    rw [adapter.isPrompt_sentMessage text (h msg hmsg)]
    decide
  have hentries := adapter.entries_buildBody text h
  cases adapter with
  | anthropic =>
    rw [promptTexts, memberTexts, buildBody, Anthropic.get_system]
    cases req.system <;> rfl
  | google =>
    rw [promptTexts, buildBody, Google.get_systemInstruction]
    cases req.system <;> rfl
  | openai | generic | responses =>
    rw [messagesKey] at hentries
    rw [promptTexts, hentries, List.filter_append, hprompt, hmessages, List.append_nil,
      promptMessage]
    cases req.system <;> rfl

end SseAdapter

end Sent

end TokenDealer
