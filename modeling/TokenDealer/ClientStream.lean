import TokenDealer.Outbound

set_option autoImplicit true

namespace TokenDealer

open Json

/-- The text of an error, as its display gives it. -/
def AppError.message : AppError → String
  | .badRequest message => "bad request: " ++ message
  | .unauthorized message => "unauthorized: " ++ message
  | .notFound message => "not found: " ++ message
  | .providerError provider status message =>
    "provider " ++ provider ++ " returned " ++ toString status ++ ": " ++ message
  | .contextTooLong model limit =>
    "upstream context too long for " ++ model ++ " (limit " ++ toString limit ++ ")"
  | .allProvidersFailed tier => "all providers failed for tier " ++ tier
  | .upstreamTimeout ms => "upstream timeout after " ++ toString ms ++ "ms"
  | .internal message => "internal: " ++ message

/-- An event as the client gets it; one without a name is a message. -/
structure SseEvent where
  name : Option String
  data : String
  deriving DecidableEq, Repr

/-- An item of the provider's stream when the handler takes it up: the milliseconds since the
stream was opened, and the time its chunk is stamped with. -/
structure StreamItem where
  outcome : AppResult CanonicalChunk
  elapsedMs : UInt64
  created : Int64

namespace ClientStream

variable (text : Json.Text)

def errorEvent (message : String) : SseEvent :=
  ⟨some "error", text.print (.object [("error", .string message)])⟩

def chunkEvents (created : Int64) (chunk : CanonicalChunk) : List SseEvent :=
  ((Outbound.chunkToOpenai text created chunk).map fun v => ⟨none, text.print v⟩).toList

def doneEvent : SseEvent := ⟨none, text.print Outbound.doneSentinel⟩

/-- A chunk that names no model or no response gets those of the request. -/
def fill (modelId requestId : String) (chunk : CanonicalChunk) : CanonicalChunk :=
  { chunk with
    model := if chunk.model = "" then modelId else chunk.model
    id := if chunk.id = "" then requestId else chunk.id }

section Body

variable (requestBudgetMs : UInt64) (modelId requestId : String)

/-- The body of the answer. The loop ends with the items, with an error among them, or at the
first item that comes after the budget of the request. -/
def body : List StreamItem → List SseEvent
  | [] => [doneEvent text]
  | item :: rest =>
    if requestBudgetMs < item.elapsedMs then
      [errorEvent text "request budget exceeded", doneEvent text]
    else
      match item.outcome with
      | .ok chunk => chunkEvents text item.created (fill modelId requestId chunk) ++ body rest
      | .error e => [errorEvent text e.message, doneEvent text]

/-- The chunks that arrive before an error and within the budget, with their times. -/
def served : List StreamItem → List (Int64 × CanonicalChunk)
  | [] => []
  | item :: rest =>
    if requestBudgetMs < item.elapsedMs then []
    else
      match item.outcome with
      | .ok chunk => (item.created, chunk) :: served rest
      | .error _ => []

end Body

/-- The stream of the helper that knows neither errors nor a budget. -/
def chunksToSse (chunks : List (Int64 × CanonicalChunk)) : List SseEvent :=
  chunks.flatMap (fun c => chunkEvents text c.1 c.2) ++ [doneEvent text]

/-- A properly terminated stream: the events of the chunks in order, at most one error, and an
event whose data the OpenAI loop takes for the marker of the end. -/
def Terminated (sent events : List SseEvent) : Prop :=
  ∃ errors last, events = sent ++ errors ++ [last] ∧ errors.length ≤ 1 ∧
    (∀ e ∈ errors, e.name = some "error") ∧ last.name = none ∧ last.data = "[DONE]"

/-- All that the three ways out of the loop have in common. -/
theorem body_eq (requestBudgetMs : UInt64) (modelId requestId : String)
    (items : List StreamItem) :
    ∃ errors, body text requestBudgetMs modelId requestId items =
        ((served requestBudgetMs items).flatMap fun c =>
          chunkEvents text c.1 (fill modelId requestId c.2)) ++ errors ++ [doneEvent text] ∧
      errors.length ≤ 1 ∧ ∀ e ∈ errors, e.name = some "error" := by
  have hone : ∀ message, [errorEvent text message].length ≤ 1 ∧
      ∀ e ∈ [errorEvent text message], e.name = some "error" := by
    intro message
    refine ⟨Nat.le_refl 1, ?_⟩
    intro e he
    rw [List.mem_singleton.mp he]
    rfl
  induction items with
  | nil => exact ⟨[], rfl, Nat.zero_le 1, List.forall_mem_nil _⟩
  | cons item rest ih =>
    rw [body, served]
    by_cases hbudget : requestBudgetMs < item.elapsedMs
    · rw [if_pos hbudget, if_pos hbudget]
      exact ⟨[errorEvent text "request budget exceeded"], rfl, hone _⟩
    · rw [if_neg hbudget, if_neg hbudget]
      cases item.outcome with
      | error e => exact ⟨[errorEvent text e.message], rfl, hone _⟩
      | ok chunk =>
        obtain ⟨errors, hrest, herrors⟩ := ih
        refine ⟨errors, ?_, herrors⟩
        dsimp only
        rw [hrest, List.flatMap_cons, List.append_assoc, List.append_assoc, List.append_assoc]

section Marker

variable {text} (hread : text.parse (text.print Outbound.doneSentinel) =
    some Outbound.doneSentinel) (hmarker : text.parse "[DONE]" = none)

include hread hmarker

theorem doneEvent_ne : (doneEvent text).data ≠ "[DONE]" := by
  intro h
  have hdone : text.print Outbound.doneSentinel = "[DONE]" := h
  rw [hdone, hmarker] at hread
  cases hread

/-- The loop of the OpenAI adapter takes the terminator for a JSON value. -/
theorem dataValue_doneEvent (modelId : String) :
    (OpenAi.machine text modelId).dataValue text ("data: " ++ (doneEvent text).data) =
      some Outbound.doneSentinel := by
  have hdone : ¬ ((OpenAi.machine text modelId).skipsDone &&
      decide ((doneEvent text).data = "[DONE]")) = true := by
    rw [decide_eq_false (doneEvent_ne hread hmarker), Bool.and_false]
    decide
  rw [StreamMachine.dataValue, Str.stripPrefix_append]
  exact (if_neg hdone).trans hread

theorem not_terminated (sent before : List SseEvent) :
    ¬ Terminated sent (before ++ [doneEvent text]) := by
  intro h
  obtain ⟨errors, last, hevents, -, -, -, hdata⟩ := h
  have hlast : doneEvent text = last := List.singleton_inj.mp (List.append_inj' hevents rfl).2
  rw [← hlast] at hdata
  exact doneEvent_ne hread hmarker hdata

end Marker

/-- The client's stream has the events of the chunks, at most one error and one terminator. But the
terminator is the marker as a JSON string, in quotes: the OpenAI loop takes it for a value, and so
the stream is never properly terminated. -/
theorem stream_never_terminated
    (hread : text.parse (text.print Outbound.doneSentinel) = some Outbound.doneSentinel)
    (hmarker : text.parse "[DONE]" = none) :
    (∀ (requestBudgetMs : UInt64) (modelId requestId : String) (items : List StreamItem),
      (∃ errors, body text requestBudgetMs modelId requestId items =
          ((served requestBudgetMs items).flatMap fun c =>
            chunkEvents text c.1 (fill modelId requestId c.2)) ++ errors ++ [doneEvent text] ∧
        errors.length ≤ 1 ∧ ∀ e ∈ errors, e.name = some "error") ∧
      ¬ Terminated ((served requestBudgetMs items).flatMap fun c =>
          chunkEvents text c.1 (fill modelId requestId c.2))
        (body text requestBudgetMs modelId requestId items)) ∧
    (∀ chunks : List (Int64 × CanonicalChunk),
      ¬ Terminated (chunks.flatMap fun c => chunkEvents text c.1 c.2) (chunksToSse text chunks)) ∧
    ∀ modelId, (OpenAi.machine text modelId).dataValue text ("data: " ++ (doneEvent text).data) =
      some Outbound.doneSentinel := by
  refine ⟨?_, fun chunks => not_terminated hread hmarker _ _, dataValue_doneEvent hread hmarker⟩
  intro requestBudgetMs modelId requestId items
  have hbody := body_eq text requestBudgetMs modelId requestId items
  refine ⟨hbody, ?_⟩
  obtain ⟨errors, hevents, -⟩ := hbody
  rw [hevents]
  exact not_terminated hread hmarker _ _

def quote (s : String) : String := "\"" ++ s ++ "\""

/-- A library for strings, and for objects of one string, that need no escapes. -/
def quoteText : Json.Text where
  print
    | .string s => quote s
    | .object [(key, .string s)] => "\x7b" ++ quote key ++ ":" ++ quote s ++ "\x7d"
    | _ => "null"
  parse s :=
    match s.toList with
    | '"' :: rest => some (.string (String.ofList rest.dropLast))
    | _ => none

theorem parse_quote (s : String) : quoteText.parse (quote s) = some (.string s) := by
  have hquote : (quote s).toList = '"' :: (s.toList ++ ['"']) := by
    rw [quote, String.toList_append, String.toList_append]
    rfl
  simp only [quoteText, hquote, List.dropLast_concat, String.ofList_toList]

theorem parse_marker : quoteText.parse "[DONE]" = none := rfl

def brokenItem : StreamItem := ⟨.error (.internal "connection reset"), 20, 0⟩

theorem stream_never_terminated_sample :
    ¬ Terminated [] (body quoteText 60000 "gpt-4o" "r1" [brokenItem]) :=
  ((stream_never_terminated quoteText (parse_quote _) parse_marker).1 60000 "gpt-4o" "r1"
    [brokenItem]).2

/-- A stream that breaks off tells its error, and ends in the marker in quotes. -/
theorem broken_stream_unterminated :
    body quoteText 60000 "gpt-4o" "r1" [brokenItem] =
      [⟨some "error", "\x7b\"error\":\"internal: connection reset\"\x7d"⟩] ++
        [⟨none, "\"[DONE]\""⟩] ∧
    ¬ Terminated [] (body quoteText 60000 "gpt-4o" "r1" [brokenItem]) := by
  have hbody : body quoteText 60000 "gpt-4o" "r1" [brokenItem] =
      [⟨some "error", "\x7b\"error\":\"internal: connection reset\"\x7d"⟩] ++
        [⟨none, "\"[DONE]\""⟩] := by decide
  refine ⟨hbody, ?_⟩
  rw [hbody]
  intro h
  obtain ⟨errors, last, hevents, -, -, -, hdata⟩ := h
  have hlast := (List.append_inj' hevents rfl).2
  rw [← List.singleton_inj.mp hlast] at hdata
  exact absurd hdata (by decide)

end ClientStream

end TokenDealer
