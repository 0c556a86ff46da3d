import TokenDealer.KiroAdapter
import TokenDealer.RequestBodies

set_option autoImplicit true

namespace TokenDealer

open Json

namespace Kiro

def kiroOrigin : String := "KIRO_CLI"

def kiroAgentMode : String := "SUPERVISED"

/-- What the pass over the messages has collected: the turns of the history and the text of the
current message. -/
structure Walk where
  history : List Value
  currentText : String

/-- What a text is put behind. -/
def lead (text : String) : String := if text = "" then "" else text ++ "\n\n"

def systemText (text : String) : String := "System instructions:\n" ++ text

def userText (text : String) : String := "User:\n" ++ text

def assistantEntry (text : String) : Value :=
  .object [("assistantResponseMessage", .object [("content", .string text)])]

def toolEntry (text : String) : Value :=
  .object [("userInputMessage", .object
    [("content", .string ("Tool result: " ++ text)), ("origin", .string kiroOrigin)])]

def Walk.push (walk : Walk) (m : CanonicalMessage) : Walk :=
  let text := joinedText m.content
  match m.role with
  | .system => { walk with currentText := lead walk.currentText ++ systemText text }
  | .user => { walk with currentText := lead walk.currentText ++ userText text }
  | .assistant => { walk with history := walk.history ++ [assistantEntry text] }
  | .tool => { walk with history := walk.history ++ [toolEntry text] }

def walk (messages : List CanonicalMessage) : Walk := messages.foldl Walk.push ⟨[], ""⟩

def withSystem (system : Option String) (currentText : String) : String :=
  match system with
  | none => currentText
  | some sys =>
    if currentText ≠ "" then systemText sys ++ "\n\n" ++ userText currentText else systemText sys

/-- The identifier is drawn for this call. -/
def buildBody (conversationId : String) (req : CanonicalRequest) : Value :=
  let model := req.selectedModel
  let modelId := (Str.stripPrefix "kiro/" model).getD model
  let walked := walk req.messages
  let currentText := withSystem req.system walked.currentText
  let currentText := if currentText = "" then "Hello" else currentText
  .object
    [("conversationState", .object
        [("conversationId", .string conversationId),
          ("history", .array walked.history),
          ("currentMessage", .object
            [("userInputMessage", .object
              [("content", .string currentText), ("origin", .string kiroOrigin),
                ("modelId", .string modelId)])]),
          ("chatTriggerType", .string "MANUAL")]),
      ("agentMode", .string kiroAgentMode)]

/-- The turns of a body, the current one apart. -/
def history (body : Value) : Option (List Value) :=
  ((body.get "conversationState").bind (·.get "history")).bind Value.asArray

/-- The text of the turn that is answered. -/
def currentContent (body : Value) : Option String :=
  (((body.get "conversationState").bind (·.get "currentMessage")).bind
    (·.get "userInputMessage")).bind (·.getStr "content")

def entryContent (entry : Value) (kind : String) : Option String :=
  (entry.get kind).bind (·.getStr "content")

/-- An entry of a history that is the turn of a message: from the assistant or from the user's
side, with the message's text behind a label. -/
def Presents (m : CanonicalMessage) (entry : Value) : Prop :=
  match m.role with
  | .system => False
  | .user => ∃ label, entryContent entry "userInputMessage" = some (label ++ joinedText m.content)
  | .assistant => entryContent entry "assistantResponseMessage" = some (joinedText m.content)
  | .tool => entryContent entry "userInputMessage" = some ("Tool result: " ++ joinedText m.content)

def turns (messages : List CanonicalMessage) : List CanonicalMessage :=
  messages.filter fun m => m.role ≠ .system

/-- The system instructions, as they stand before the user's text. -/
def instructions (req : CanonicalRequest) : String :=
  (match req.system with
    | none => ""
    | some sys => systemText sys ++ "\n\n" ++ "User:\n") ++
  Str.concat ((req.messages.filter fun m => m.role = .system).map fun m =>
    systemText (joinedText m.content) ++ "\n\n")

/-- The history presents the turns before the last one in their order, each once, and the current
message has the last one behind the system instructions. -/
def KeepsOrder (req : CanonicalRequest) (body : Value) : Prop :=
  ∃ before last entries, turns req.messages = before ++ [last] ∧
    history body = some entries ∧ List.Forall₂ Presents before entries ∧
    currentContent body = some (instructions req ++ userText (joinedText last.content))

/-- The entry a message adds to the history. -/
def historyEntry (m : CanonicalMessage) : Option Value :=
  match m.role with
  | .system => none
  | .user => none
  | .assistant => some (assistantEntry (joinedText m.content))
  | .tool => some (toolEntry (joinedText m.content))

/-- The text a message adds to the current message. -/
def currentPart (m : CanonicalMessage) : Option String :=
  match m.role with
  | .system => some (systemText (joinedText m.content))
  | .user => some (userText (joinedText m.content))
  | .assistant => none
  | .tool => none

theorem push_history (w : Walk) (m : CanonicalMessage) :
    (w.push m).history = w.history ++ (historyEntry m).toList := by
  unfold Walk.push historyEntry
  cases m.role with
  | system => exact (List.append_nil _).symm
  | user => exact (List.append_nil _).symm
  | assistant => rfl
  | tool => rfl

theorem currentPart_ne_empty (h : currentPart m = some part) : part ≠ "" := by
  unfold currentPart at h
  cases hrole : m.role with
  | system =>
    rw [hrole] at h
    cases h
    intro hempty
    exact absurd (String.append_eq_empty_iff.mp hempty).1 (by decide)
  | user =>
    rw [hrole] at h
    cases h
    intro hempty
    exact absurd (String.append_eq_empty_iff.mp hempty).1 (by decide)
  | assistant => rw [hrole] at h; cases h
  | tool => rw [hrole] at h; cases h

theorem push_currentText (w : Walk) (m : CanonicalMessage) :
    (w.push m).currentText =
      match currentPart m with
      | some part => lead w.currentText ++ part
      | none => w.currentText := by
  unfold Walk.push currentPart
  cases m.role <;> rfl

theorem lead_append (text : String) (h : part ≠ "") :
    lead (lead text ++ part) = lead text ++ (part ++ "\n\n") := by
  have hne : ¬ lead text ++ part = "" := fun hempty => h (String.append_eq_empty_iff.mp hempty).2
  rw [lead, if_neg hne, String.append_assoc]

theorem lead_push (w : Walk) (m : CanonicalMessage) :
    lead (w.push m).currentText =
      lead w.currentText ++ Str.concat ((currentPart m).toList.map (· ++ "\n\n")) := by
  rw [push_currentText]
  cases hpart : currentPart m with
  | none => exact String.append_empty.symm
  | some part => exact lead_append w.currentText (currentPart_ne_empty hpart)

/-- The history has the entries of the messages, and the current message their texts. -/
theorem foldl_push (messages : List CanonicalMessage) (w : Walk) :
    (messages.foldl Walk.push w).history = w.history ++ messages.filterMap historyEntry ∧
      lead (messages.foldl Walk.push w).currentText =
        lead w.currentText ++ Str.concat ((messages.filterMap currentPart).map (· ++ "\n\n")) := by
  induction messages generalizing w with
  | nil => exact ⟨(List.append_nil _).symm, String.append_empty.symm⟩
  | cons m messages ih =>
    obtain ⟨hhistory, hcurrent⟩ := ih (w.push m)
    constructor
    · rw [List.foldl_cons, hhistory, push_history, List.append_assoc, List.filterMap_cons]
      cases historyEntry m <;> rfl
    · rw [List.foldl_cons, hcurrent, lead_push, String.append_assoc, ← Str.concat_append,
        ← List.map_append, List.filterMap_cons]
      cases currentPart m <;> rfl

theorem turns_concat (earlier : List CanonicalMessage) (h : last.role ≠ .system) :
    turns (earlier ++ [last]) = turns earlier ++ [last] := by
  simp only [turns, List.filter_append, List.filter_cons, decide_eq_true h, if_true,
    List.filter_nil]

/-- A message is of the system, of the user, or has an entry. -/
theorem historyEntry_cases (m : CanonicalMessage) :
    (m.role = .system ∧ historyEntry m = none) ∨ (m.role = .user ∧ historyEntry m = none) ∨
      (m.role ≠ .system ∧ m.role ≠ .user ∧
        ∃ entry, historyEntry m = some entry ∧ Presents m entry) := by
  unfold historyEntry Presents
  cases m.role with
  | system => exact .inl ⟨rfl, rfl⟩
  | user => exact .inr (.inl ⟨rfl, rfl⟩)
  | assistant => exact .inr (.inr ⟨by decide, by decide, _, rfl, rfl⟩)
  | tool => exact .inr (.inr ⟨by decide, by decide, _, rfl, rfl⟩)

theorem presents_history {messages : List CanonicalMessage} (h : ∀ m ∈ messages, m.role ≠ .user) :
    List.Forall₂ Presents (turns messages) (messages.filterMap historyEntry) := by
  induction messages with
  | nil => exact .nil
  | cons m messages ih =>
    obtain ⟨huser, hrest⟩ := List.forall_mem_cons.mp h
    rw [turns, List.filter_cons, List.filterMap_cons]
    obtain ⟨hrole, hentry⟩ | ⟨hrole, -⟩ | ⟨hrole, -, entry, hentry, hpresents⟩ :=
      historyEntry_cases m
    · rw [hentry, if_neg (by rw [hrole]; decide)]
      exact ih hrest
    · exact absurd hrole huser
    · rw [hentry, if_pos (decide_eq_true hrole)]
      exact .cons hpresents (ih hrest)

/-- A turn of the user has no entry in the history. -/
theorem length_turns (messages : List CanonicalMessage) :
    (turns messages).length =
      (messages.filterMap historyEntry).length +
        (messages.filter fun m => m.role = .user).length := by
  induction messages with
  | nil => rfl
  | cons m messages ih =>
    simp only [turns, ne_eq] at ih ⊢
    rw [List.filter_cons, List.filterMap_cons, List.filter_cons]
    obtain ⟨hrole, hentry⟩ | ⟨hrole, hentry⟩ | ⟨hsystem, huser, entry, hentry, -⟩ :=
      historyEntry_cases m
    · rw [hentry, hrole]
      exact ih
    · rw [hentry, hrole]
      simp only [reduceCtorEq, not_false_eq_true, decide_true, if_true, List.length_cons]
      omega
    · rw [hentry, if_pos (decide_eq_true hsystem), if_neg (by rw [decide_eq_true_eq]; exact huser),
        List.length_cons, List.length_cons]
      omega

theorem currentParts_system {messages : List CanonicalMessage}
    (h : ∀ m ∈ messages, m.role ≠ .user) :
    messages.filterMap currentPart =
      (messages.filter fun m => m.role = .system).map fun m =>
        systemText (joinedText m.content) := by
  induction messages with
  | nil => rfl
  | cons m messages ih =>
    obtain ⟨huser, hrest⟩ := List.forall_mem_cons.mp h
    rw [List.filter_cons, List.filterMap_cons, ih hrest, currentPart]
    cases hrole : m.role with
    | system => rfl
    | user => exact absurd hrole huser
    | assistant => rfl
    | tool => rfl

theorem history_buildBody (conversationId : String) (req : CanonicalRequest) :
    history (buildBody conversationId req) = some (req.messages.filterMap historyEntry) := by
  have hwalk := (foldl_push req.messages ⟨[], ""⟩).1
  rw [List.nil_append] at hwalk
  rw [← hwalk]
  rfl

theorem currentContent_buildBody (conversationId : String) {req : CanonicalRequest}
    (h : withSystem req.system (walk req.messages).currentText ≠ "") :
    currentContent (buildBody conversationId req) =
      some (withSystem req.system (walk req.messages).currentText) := by
  have hcontent : currentContent (buildBody conversationId req) =
      some (if withSystem req.system (walk req.messages).currentText = "" then "Hello"
        else withSystem req.system (walk req.messages).currentText) := rfl
  rw [hcontent, if_neg h]

theorem userText_ne_empty (text : String) : userText text ≠ "" := fun h =>
  absurd (String.append_eq_empty_iff.mp h).1 (by decide)

/-- Behind system instructions alone the last turn makes up the current message. -/
theorem currentContent_last (conversationId : String) {req : CanonicalRequest}
    (hmessages : req.messages = earlier ++ [last]) (hlast : last.role = .user)
    (h : ∀ m ∈ earlier, m.role ≠ .user) :
    currentContent (buildBody conversationId req) =
      some (instructions req ++ userText (joinedText last.content)) := by
  have hsystem : (req.messages.filter fun m => m.role = .system) =
      earlier.filter fun m => m.role = .system := by
    simp only [hmessages, List.filter_append, List.filter_cons, hlast, reduceCtorEq, decide_false,
      Bool.false_eq_true, if_false, List.filter_nil, List.append_nil]
  have hwalk : (walk req.messages).currentText =
      Str.concat ((req.messages.filter fun m => m.role = .system).map fun m =>
        systemText (joinedText m.content) ++ "\n\n") ++ userText (joinedText last.content) := by
    have hpart : currentPart last = some (userText (joinedText last.content)) := by
      rw [currentPart, hlast]
    have hlead := (foldl_push earlier ⟨[], ""⟩).2
    rw [currentParts_system h, List.map_map] at hlead
    rw [hsystem, walk, hmessages, List.foldl_concat, push_currentText, hpart]
    simp only [hlead]
    rfl
  have hne : (walk req.messages).currentText ≠ "" := by
    rw [hwalk]
    intro hempty
    exact userText_ne_empty _ (String.append_eq_empty_iff.mp hempty).2
  have hwith : withSystem req.system (walk req.messages).currentText =
      instructions req ++ userText (joinedText last.content) := by
    cases hsys : req.system with
    | none =>
      rw [instructions, hsys]
      exact hwalk.trans (congrArg (· ++ _) String.empty_append.symm)
    | some sys =>
      have hpushed : withSystem (some sys) (walk req.messages).currentText =
          systemText sys ++ "\n\n" ++ userText (walk req.messages).currentText := if_pos hne
      rw [hpushed, instructions, hsys, hwalk]
      simp only [userText, String.append_assoc]
  rw [← hwith]
  apply currentContent_buildBody
  rw [hwith]
  intro hempty
  exact userText_ne_empty _ (String.append_eq_empty_iff.mp hempty).2

/-- A conversation keeps its order exactly when its last turn is the only one of the user's: the
others are not in the history but run together in the current message. -/
theorem keepsOrder_iff (conversationId : String) {req : CanonicalRequest}
    (hmessages : req.messages = earlier ++ [last]) (hlast : last.role = .user) :
    KeepsOrder req (buildBody conversationId req) ↔ ∀ m ∈ earlier, m.role ≠ .user := by
  have hnot : last.role ≠ .system := by rw [hlast]; decide
  have hpart : historyEntry last = none := by rw [historyEntry, hlast]
  have hhistory : history (buildBody conversationId req) =
      some (earlier.filterMap historyEntry) := by
    rw [history_buildBody, hmessages, List.filterMap_append, List.filterMap_cons, hpart]
    exact congrArg some (List.append_nil _)
  constructor
  · rintro ⟨before, last', entries, hturns, hentries, hpresents, -⟩
    rw [hmessages, turns_concat earlier hnot] at hturns
    obtain ⟨rfl, -⟩ := List.append_inj' hturns rfl
    rw [hhistory] at hentries
    cases hentries
    have hlength := hpresents.length_eq
    rw [length_turns] at hlength
    have hnone : earlier.filter (fun m => m.role = .user) = [] := by
      rw [← List.length_eq_zero_iff]
      omega
    intro m hm huser
    exact List.filter_eq_nil_iff.mp hnone m hm (decide_eq_true huser)
  · intro h
    refine ⟨turns earlier, last, earlier.filterMap historyEntry, ?_, hhistory,
      presents_history h, currentContent_last conversationId hmessages hlast h⟩
    rw [hmessages, turns_concat earlier hnot]

def sampleTurn (role : Role) (text : String) : CanonicalMessage :=
  ⟨role, [.text text], none, none, none⟩

def sampleKiroRequest (messages : List CanonicalMessage) : CanonicalRequest where
  messages := messages
  system := some "be brief"
  maxTokens := none
  temperature := none
  topP := none
  stop := none
  stream := false
  tools := none
  toolChoice := none
  tier := .standard
  selectedModel := "kiro/claude-sonnet-4"
  selectedProvider := "kiro"
  requestId := "1"

theorem keepsOrder_greeting :
    KeepsOrder (sampleKiroRequest [sampleTurn .assistant "hello", sampleTurn .user "hi"])
      (buildBody "7"
        (sampleKiroRequest [sampleTurn .assistant "hello", sampleTurn .user "hi"])) := by
  have hmessages :
      (sampleKiroRequest [sampleTurn .assistant "hello", sampleTurn .user "hi"]).messages =
        [sampleTurn .assistant "hello"] ++ [sampleTurn .user "hi"] := rfl
  apply (keepsOrder_iff "7" hmessages rfl).mpr
  decide

/-- The first question is no turn of the history. -/
theorem keepsOrder_fails :
    ¬ ∀ (conversationId : String) (req : CanonicalRequest) earlier last,
      req.messages = earlier ++ [last] → last.role = .user →
        KeepsOrder req (buildBody conversationId req) := by
  intro h
  obtain ⟨before, last, entries, hturns, hentries, hpresents, -⟩ := h "7"
    (sampleKiroRequest
      [sampleTurn .user "who?", sampleTurn .assistant "me", sampleTurn .user "why?"])
    [sampleTurn .user "who?", sampleTurn .assistant "me"] (sampleTurn .user "why?") rfl rfl
  have hhistory : entries.length = 1 := by
    cases hentries
    rfl
  have hbefore : before.length + 1 = 3 := by
    have hlength := congrArg List.length hturns
    rw [List.length_append] at hlength
    exact hlength.symm
  have hlength := hpresents.length_eq
  omega

end Kiro

end TokenDealer
