import Mathlib.Data.List.Forall2
import TokenDealer.OpenAi

set_option autoImplicit true

namespace TokenDealer

open Json

/-- A part of a message, as a client means it. -/
inductive Part where
  | text (t : String)
  | image (url : String)
  deriving DecidableEq, Repr

namespace Part

def isText : Part → Bool
  | text _ => true
  | image _ => false

def getText : Part → Option String
  | text t => some t
  | image _ => none

def toBlock : Part → ContentBlock
  | text t => .text t
  | image url => .image (imageMediaType url) (.url url)

def toJson : Part → Value
  | text t => OpenAi.textPart t
  | image url => OpenAi.imagePart url

end Part

/-- A JSON value that spells a part. -/
def Spells (v : Value) : Part → Prop
  | .text t => v.getStr "type" = some "text" ∧ v.getStr "text" = some t
  | .image url => v.getStr "type" = some "image_url" ∧
      (v.get "image_url").bind (fun image => image.getStr "url") = some url ∧
      v.getStr "text" = none

/-- The content of a message: a string, or an array of parts. -/
inductive HasParts : Value → List Part → Prop where
  | string (s : String) : HasParts (.string s) [.text s]
  | array (h : List.Forall₂ Spells vs parts) : HasParts (.array vs) parts

def partsText (parts : List Part) : String := Str.concat (parts.filterMap Part.getText)

/-- Text only goes out as one string, anything else part by part. -/
def partsJson (parts : List Part) : Value :=
  if parts.all Part.isText then .string (partsText parts) else .array (parts.map Part.toJson)

section Content

variable {text : Json.Text}

theorem getStr_eq_some {v : Value} (h : v.getStr key = some s) : ∃ members,
    v = .object members ∧ (Table.get key members).bind Value.asStr = some s := by
  cases v with
  | object members => exact ⟨members, rfl, h⟩
  | _ => cases h

/-- A link to an image stays a link, whatever else is in its part. -/
theorem blockFromValue_imageUrl {v : Value} (htype : v.getStr "type" = some "image_url")
    (hurl : (v.get "image_url").bind (fun image => image.getStr "url") = some url) :
    blockFromValue text v = some (.image (imageMediaType url) (.url url)) := by
  obtain ⟨members, rfl, hkind⟩ := getStr_eq_some htype
  obtain ⟨image, himage, hlink⟩ := Option.bind_eq_some_iff.mp hurl
  obtain ⟨link, rfl, hlink'⟩ := getStr_eq_some hlink
  have himage' : Table.get "image_url" members = some (.object link) := himage
  rw [blockFromValue, hkind]
  simp only [if_neg (show ¬ "image_url" = "text" by decide), if_true, himage', Option.bind_some,
    Value.asObject_object, hlink']
  rfl

theorem blockFromValue_spells (h : Spells v p) : blockFromValue text v = some p.toBlock := by
  cases p with
  | text t =>
    obtain ⟨htype, htext⟩ := h
    obtain ⟨members, rfl, hkind⟩ := getStr_eq_some htype
    have htext' : (Table.get "text" members).bind Value.asStr = some t := htext
    rw [blockFromValue, hkind]
    simp only [if_true, htext']
    rfl
  | image url =>
    obtain ⟨htype, hurl, -⟩ := h
    exact blockFromValue_imageUrl htype hurl

theorem getStr_text_spells (h : Spells v p) : v.getStr "text" = p.getText := by
  cases p with
  | text t => exact h.2
  | image url => exact h.2.2

theorem filterMap_spells {f : Value → Option β} {g : Part → Option β}
    (hf : ∀ v p, Spells v p → f v = g p) (h : List.Forall₂ Spells vs parts) :
    vs.filterMap f = parts.filterMap g := by
  induction h with
  | nil => rfl
  | cons hv _ ih => rw [List.filterMap_cons, List.filterMap_cons, hf _ _ hv, ih]

theorem contentToBlocks_hasParts (h : HasParts v parts) :
    contentToBlocks text v = parts.map Part.toBlock := by
  cases h with
  | string s => rw [contentToBlocks]; rfl
  | array h =>
    rw [contentToBlocks, blocksFromValues_eq_filterMap,
      filterMap_spells (g := fun p => some p.toBlock) (fun v p => blockFromValue_spells) h,
      List.filterMap_eq_map']

theorem contentToText_hasParts (h : HasParts v parts) : contentToText v = partsText parts := by
  cases h with
  | string s => rfl
  | array h =>
    rw [contentToText, partsText]
    exact congrArg Str.concat (filterMap_spells (fun v p => getStr_text_spells) h)

theorem any_not_isText (parts : List Part) :
    ((parts.map Part.toBlock).any fun b => !OpenAi.isText b) = !parts.all Part.isText := by
  induction parts with
  | nil => rfl
  | cons p parts ih =>
    rw [List.map_cons, List.any_cons, ih, List.all_cons, Bool.not_and]
    cases p <;> rfl

/-- Reading content and sending it on keeps its parts. -/
theorem contentToOpenai_parts (parts : List Part) :
    OpenAi.contentToOpenai (parts.map Part.toBlock) = partsJson parts := by
  have htext : (parts.map Part.toBlock).filterMap OpenAi.blockText =
      parts.filterMap Part.getText := by
    rw [List.filterMap_map]
    exact congrArg (List.filterMap · parts) (funext fun p => by cases p <;> rfl)
  have hpart : (parts.map Part.toBlock).filterMap OpenAi.blockPart = parts.map Part.toJson := by
    rw [List.filterMap_map, ← List.filterMap_eq_map']
    exact congrArg (List.filterMap · parts) (funext fun p => by cases p <;> rfl)
  rw [OpenAi.contentToOpenai, any_not_isText, partsJson, htext, hpart]
  cases parts.all Part.isText <;> rfl

end Content

section System

/-- The texts of all system messages, with a line feed between each two of them. -/
def joinTexts : List String → Option String
  | [] => none
  | t :: rest => some (Str.join "\n" (t :: rest))

theorem joinTexts_concat (seen : List String) (t : String) :
    some (match joinTexts seen with
      | none => t
      | some prev => prev ++ "\n" ++ t) = joinTexts (seen ++ [t]) := by
  cases seen with
  | nil => rfl
  | cons s rest => exact congrArg some (Str.join_concat "\n" s rest t).symm

def isSystem (msg : InboundMessage) : Bool := msg.role = "system"

variable {text : Json.Text}

/-- The loop parts the messages: the system texts are joined, the others go on in order. -/
theorem extractSystemFrom_eq (seen : List String) (out : List CanonicalMessage)
    (messages : List InboundMessage) :
    extractSystemFrom text (joinTexts seen) out messages =
      (joinTexts (seen ++ (messages.filter isSystem).map fun msg => contentToText msg.content),
        out ++ (messages.filter fun msg => !isSystem msg).map (messageToCanonical text)) := by
  induction messages generalizing seen out with
  | nil => simp only [extractSystemFrom, List.filter_nil, List.map_nil, List.append_nil]
  | cons msg rest ih =>
    rw [extractSystemFrom]
    by_cases hrole : msg.role = "system"
    · have hs : isSystem msg = true := decide_eq_true hrole
      have hjoin := joinTexts_concat seen (contentToText msg.content)
      rw [if_pos hrole]
      apply (congrArg (extractSystemFrom text · out rest) hjoin).trans
      rw [ih, List.filter_cons_of_pos hs, List.filter_cons_of_neg (by rw [hs]; decide),
        List.map_cons, List.append_assoc]
      rfl
    · have hs : isSystem msg = false := decide_eq_false hrole
      rw [if_neg hrole, ih, List.filter_cons_of_neg (by rw [hs]; decide),
        List.filter_cons_of_pos (by rw [hs]; rfl), List.map_cons, List.append_assoc]
      rfl

theorem extractSystem_eq (messages : List InboundMessage) :
    extractSystem text messages =
      (joinTexts ((messages.filter isSystem).map fun msg => contentToText msg.content),
        (messages.filter fun msg => !isSystem msg).map (messageToCanonical text)) :=
  extractSystemFrom_eq [] [] messages

end System

section Message

variable (text : Json.Text)

/-- A message whose role is known, whose content is text or parts, and whose tool calls carry
JSON. -/
structure WellFormed (msg : InboundMessage) : Prop where
  role : msg.role ∈ ["system", "user", "assistant", "tool"]
  content : ∃ parts, HasParts msg.content parts
  toolCalls : ∀ calls, msg.toolCalls = some calls → ∀ call ∈ calls,
    ∃ v, text.parse call.function.arguments = some v

/-- The arguments of the message's tool calls survive being printed and parsed again. -/
def ArgumentsReadBack (msg : InboundMessage) : Prop :=
  ∀ calls, msg.toolCalls = some calls → ∀ call ∈ calls, ∀ v,
    text.parse call.function.arguments = some v → text.parse (text.print v) = some v

/-- A tool call as it goes out, always under the type of a function. -/
structure CallSentAs (call : InboundToolCall) (out : Value) : Prop where
  id : out.getStr "id" = some call.id
  kind : out.getStr "type" = some "function"
  name : (out.get "function").bind (fun f => f.getStr "name") = some call.function.name
  arguments : ∃ s v, (out.get "function").bind (fun f => f.getStr "arguments") = some s ∧
    text.parse s = some v ∧ text.parse call.function.arguments = some v

structure SentAs (msg : InboundMessage) (out : Value) : Prop where
  role : out.getStr "role" = some msg.role
  content : ∀ parts, HasParts msg.content parts → out.get "content" = some (partsJson parts)
  name : out.get "name" = msg.name.map .string
  toolCallId : out.get "tool_call_id" = msg.toolCallId.map .string
  noToolCalls : msg.toolCalls = none → out.get "tool_calls" = none
  toolCalls : ∀ calls, msg.toolCalls = some calls → ∃ outs,
    out.get "tool_calls" = some (.array outs) ∧ List.Forall₂ (CallSentAs text) calls outs

variable {text}

theorem roleOf_ne_system (h : role ≠ "system") : roleOf role ≠ .system := by
  rw [roleOf, if_neg h]
  split
  · decide
  · split
    · decide
    · split <;> decide

theorem roleName_roleOf (h : role ∈ ["system", "user", "assistant", "tool"]) :
    OpenAi.roleName (roleOf role) = role := by
  simp only [List.mem_cons, List.not_mem_nil, or_false] at h
  rcases h with rfl | rfl | rfl | rfl <;> rfl

theorem callSentAs (harguments : text.parse call.function.arguments = some v)
    (hprint : text.parse (text.print v) = some v) :
    CallSentAs text call (OpenAi.toolCallToOpenai text (call.toCanonical text).id
      (call.toCanonical text).name (call.toCanonical text).arguments) := by
  have harg : (call.toCanonical text).arguments = v := by
    rw [InboundToolCall.toCanonical, harguments, Option.getD_some]
  rw [harg]
  exact ⟨rfl, rfl, rfl, text.print v, v, rfl, hprint, harguments⟩

/-- A message goes out with all that it came with. -/
theorem sentAs (hwf : WellFormed text msg) (hprint : ArgumentsReadBack text msg) :
    SentAs text msg (OpenAi.messageToOpenai text (messageToCanonical text msg)) := by
  obtain ⟨hrole, hcontent, hname, hid, hcalls⟩ :=
    OpenAi.get_messageToOpenai text (messageToCanonical text msg)
  refine ⟨?_, ?_, hname, hid, ?_, ?_⟩
  · rw [Value.getStr, hrole, messageToCanonical, roleName_roleOf hwf.role]
    rfl
  · intro parts hparts
    rw [hcontent, messageToCanonical, contentToBlocks_hasParts hparts, contentToOpenai_parts]
  · intro hnone
    rw [hcalls, messageToCanonical, hnone]
    rfl
  · intro calls hsome
    have hcanonical : (messageToCanonical text msg).toolCalls =
        some (calls.map (InboundToolCall.toCanonical text)) := by
      rw [messageToCanonical, hsome, Option.map_some]
    rw [hcanonical] at hcalls
    refine ⟨_, hcalls, ?_⟩
    rw [List.map_map, List.forall₂_map_right_iff, List.forall₂_same]
    intro call hmem
    obtain ⟨v, hv⟩ := hwf.toolCalls calls hsome call hmem
    exact callSentAs hv (hprint calls hsome call hmem v hv)

end Message

section Request

variable (text : Json.Text)

/-- The forms a tool choice is written in. -/
def ChoiceIs (v : Value) : ToolChoice → Prop
  | .auto => v = .string "auto"
  | .none => v = .string "none"
  | .required => v = .string "required"
  | .specific name => v.getStr "type" = some "function" ∧
      (v.get "function").bind (fun f => f.getStr "name") = some name

/-- A tool as JSON. -/
def InboundTool.toJson (tool : InboundTool) : Value :=
  .object
    [("type", .string tool.kind),
      ("function", .object
        [("name", .string tool.function.name),
          ("description", .ofOption .string tool.function.description),
          ("parameters", tool.function.parameters)])]

/-- The tool under the one type that is ever sent. -/
def InboundTool.asFunction (tool : InboundTool) : InboundTool := { tool with kind := "function" }

def systemPart : List String → List Value
  | [] => []
  | texts => [OpenAi.systemMessage (Str.join "\n" texts)]

/-- A body that says what the request says. -/
structure Translates (r : InboundRequest) (body : Value) : Prop where
  messages : ∃ texts outs,
    List.Forall₂ (fun msg t => ∀ parts, HasParts msg.content parts → t = partsText parts)
      (r.messages.filter isSystem) texts ∧
    List.Forall₂ (SentAs text) (r.messages.filter fun msg => !isSystem msg) outs ∧
    body.get "messages" = some (.array (systemPart texts ++ outs))
  tools : body.get "tools" =
    r.tools.map fun tools => .array (tools.map fun tool => tool.asFunction.toJson)
  noToolChoice : r.toolChoice = none → body.get "tool_choice" = none
  toolChoice : ∀ v, r.toolChoice = some v → ∃ out, body.get "tool_choice" = some out ∧
    ∀ choice, ChoiceIs v choice → ChoiceIs out choice
  maxTokens : body.get "max_tokens" = r.maxTokens.map .ofU32
  stop : body.get "stop" = r.stop.map fun stop => .array (stop.map .string)

variable {text}

theorem parseToolChoice_of_choiceIs (h : ChoiceIs v choice) : parseToolChoice v = some choice := by
  cases choice with
  | auto => rw [show v = _ from h]; rfl
  | none => rw [show v = _ from h]; rfl
  | required => rw [show v = _ from h]; rfl
  | specific name =>
    obtain ⟨htype, hname⟩ := h
    obtain ⟨members, rfl, -⟩ := getStr_eq_some htype
    have hfound : ((Table.get "function" members).bind fun f => f.get "name").bind Value.asStr =
        some name := by
      rw [Option.bind_assoc]
      exact hname
    rw [parseToolChoice, hfound]
    rfl

theorem choiceIs_toolChoiceToOpenai (choice : ToolChoice) :
    ChoiceIs (OpenAi.toolChoiceToOpenai choice) choice := by
  cases choice with
  | specific name => exact ⟨rfl, rfl⟩
  | _ => rfl

theorem systemPart_joinTexts (texts : List String) :
    ((joinTexts texts).map OpenAi.systemMessage).toList = systemPart texts := by
  cases texts <;> rfl

/-- What a request turns into. -/
theorem intoCanonical_eq (text : Json.Text) (r : InboundRequest) (tier : Tier)
    (selectedModel selectedProvider requestId : String) :
    ∃ req, r.intoCanonical text tier selectedModel selectedProvider requestId = .ok req ∧
      req.messages = (r.messages.filter fun msg => !isSystem msg).map (messageToCanonical text) ∧
      req.system =
        joinTexts ((r.messages.filter isSystem).map fun msg => contentToText msg.content) ∧
      req.maxTokens = r.maxTokens ∧ req.stop = r.stop ∧
      req.tools = r.tools.map (List.map InboundTool.toCanonical) ∧
      req.toolChoice = r.toolChoice.bind parseToolChoice := by
  refine ⟨_, rfl, ?_, ?_, rfl, rfl, rfl, rfl⟩
  · exact congrArg Prod.snd (extractSystem_eq r.messages)
  · exact congrArg Prod.fst (extractSystem_eq r.messages)

/-- The OpenAI body of a well-formed request says what the request says. -/
theorem request_translates {r : InboundRequest} (hwf : ∀ msg ∈ r.messages, WellFormed text msg)
    (hprint : ∀ msg ∈ r.messages, ArgumentsReadBack text msg)
    (hchoice : ∀ v, r.toolChoice = some v → ∃ choice, ChoiceIs v choice) (tier : Tier)
    (selectedModel selectedProvider requestId : String) :
    ∃ req, r.intoCanonical text tier selectedModel selectedProvider requestId = .ok req ∧
      Translates text r (OpenAi.buildBody text req) := by
  obtain ⟨req, hreq, hmessages, hsystem, hmaxTokens, hstop, htools, hchosen⟩ :=
    intoCanonical_eq text r tier selectedModel selectedProvider requestId
  obtain ⟨hbodyMessages, hbodyMax, hbodyStop, hbodyTools, hbodyChoice⟩ :=
    OpenAi.get_buildBody text req
  rw [hmaxTokens] at hbodyMax
  rw [hstop] at hbodyStop
  refine ⟨req, hreq, ⟨(r.messages.filter isSystem).map fun msg => contentToText msg.content,
    (r.messages.filter fun msg => !isSystem msg).map fun msg =>
      OpenAi.messageToOpenai text (messageToCanonical text msg), ?_, ?_, ?_⟩, ?_, ?_, ?_,
    hbodyMax, hbodyStop⟩
  · rw [List.forall₂_map_right_iff, List.forall₂_same]
    exact fun msg _ parts hparts => contentToText_hasParts hparts
  · rw [List.forall₂_map_right_iff, List.forall₂_same]
    intro msg hmem
    have hmem := (List.mem_filter.mp hmem).1
    exact sentAs (hwf msg hmem) (hprint msg hmem)
  · rw [hbodyMessages, hsystem, systemPart_joinTexts, hmessages, List.map_map]
    rfl
  · rw [hbodyTools, htools, Option.map_map]
    exact congrArg (Option.map · r.tools) (funext fun tools =>
      congrArg Value.array (List.map_map))
  · intro hnone
    rw [hbodyChoice, hchosen, hnone]
    rfl
  · intro v hsome
    obtain ⟨choice, hv⟩ := hchoice v hsome
    refine ⟨OpenAi.toolChoiceToOpenai choice, ?_, ?_⟩
    · rw [hbodyChoice, hchosen, hsome, Option.bind_some, parseToolChoice_of_choiceIs hv]
      rfl
    · intro other hother
      have hsame := (parseToolChoice_of_choiceIs hother).symm.trans (parseToolChoice_of_choiceIs hv)
      rw [Option.some.inj hsame]
      exact choiceIs_toolChoiceToOpenai choice

end Request

def sampleTool (kind : String) : InboundTool :=
  ⟨kind, "search", none, .object [("type", .string "object")]⟩

/-- Two system messages, a question with an image, and a call with its answer. -/
def sampleConversation : InboundRequest where
  model := "gpt-4o"
  messages :=
    [{ role := "system", content := .string "be brief" },
      { role := "user",
        content := .array
          [OpenAi.textPart "what is this", OpenAi.imagePart "https://x.test/a.png"] },
      { role := "system", content := .array [OpenAi.textPart "be ", OpenAi.textPart "kind"] },
      { role := "assistant", content := .string "",
        toolCalls := some [⟨"c1", "function", "search", sampleSource⟩] },
      { role := "tool", content := .string "a cat", toolCallId := some "c1" }]
  maxTokens := some 100
  stop := some ["END"]
  tools := some [sampleTool "function"]
  toolChoice := some (.object
    [("type", .string "function"), ("function", .object [("name", .string "search")])])

theorem wellFormed_noCalls (hrole : msg.role ∈ ["system", "user", "assistant", "tool"])
    (hcontent : HasParts msg.content parts) (hcalls : msg.toolCalls = none) :
    WellFormed text msg := by
  refine ⟨hrole, ⟨parts, hcontent⟩, ?_⟩
  intro calls h
  rw [hcalls] at h
  cases h

theorem sampleConversation_wellFormed :
    ∀ msg ∈ sampleConversation.messages, WellFormed sampleText msg := by
  have htext : ∀ t, Spells (OpenAi.textPart t) (.text t) := fun t => ⟨rfl, rfl⟩
  have himage : ∀ url, Spells (OpenAi.imagePart url) (.image url) := fun url => ⟨rfl, rfl, rfl⟩
  simp only [sampleConversation, List.forall_mem_cons]
  refine ⟨?_, ?_, ?_, ?_, ?_, List.forall_mem_nil _⟩
  · exact wellFormed_noCalls (by decide) (.string _) rfl
  · exact wellFormed_noCalls (by decide) (.array (.cons (htext _) (.cons (himage _) .nil))) rfl
  · exact wellFormed_noCalls (by decide) (.array (.cons (htext _) (.cons (htext _) .nil))) rfl
  · refine ⟨by decide, ⟨_, .string _⟩, ?_⟩
    intro calls h call hmem
    cases h
    rw [List.mem_singleton.mp hmem]
    exact ⟨_, parse_sampleSource⟩
  · exact wellFormed_noCalls (by decide) (.string _) rfl

theorem sampleText_readBack (msg : InboundMessage) : ArgumentsReadBack sampleText msg := by
  intro calls _ call _ v hv
  rw [parse_sampleText hv]
  exact parse_sampleSource

theorem request_translates_sample :
    ∃ req, sampleConversation.intoCanonical sampleText .standard "gpt-4o" "openai" "1" = .ok req ∧
      Translates sampleText sampleConversation (OpenAi.buildBody sampleText req) := by
  refine request_translates sampleConversation_wellFormed (fun msg _ => sampleText_readBack msg)
    (fun v h => ?_) .standard "gpt-4o" "openai" "1"
  cases h
  exact ⟨.specific "search", rfl, rfl⟩

/-- A tool of another type goes out as a function. -/
theorem request_changes_tool_type :
    (∀ msg ∈ sampleConversation.messages, WellFormed sampleText msg) ∧
    ∃ req, { sampleConversation with tools := some [sampleTool "custom"] }.intoCanonical sampleText
        .standard "gpt-4o" "openai" "1" = .ok req ∧
      (OpenAi.buildBody sampleText req).get "tools" ≠
        some (.array [(sampleTool "custom").toJson]) := by
  refine ⟨sampleConversation_wellFormed, _, rfl, ?_⟩
  intro h
  have htype := congrArg (fun tools => (tools.bind Value.asArray).bind List.head? >>= fun tool =>
    tool.getStr "type") h
  exact absurd htype (by decide)

end TokenDealer
