import TokenDealer.KiroFrames
import TokenDealer.StreamAdapters

set_option autoImplicit true

namespace TokenDealer

open Incremental

/-- An answer of an upstream: its body piece by piece, and what the body reads as when it is
taken for a text. -/
structure HttpAnswer where
  status : Nat
  text : String
  body : List (AppResult (List UInt8))

def HttpAnswer.isSuccess (answer : HttpAnswer) : Bool :=
  200 ≤ answer.status && answer.status < 300

/-- The items of a stream, and whether polling it ends in a panic. -/
structure Polled where
  items : List (AppResult CanonicalChunk)
  panicked : Bool

/-- A stream that tells what a response says: its deltas make up the text, and its last chunk
alone names a finish reason, that of the response, with the same usage. -/
def Polled.Tells (polled : Polled) (response : CanonicalResponse) : Prop :=
  ∃ deltas last, polled = ⟨(deltas ++ [last]).map .ok, false⟩ ∧
    Str.concat ((deltas ++ [last]).filterMap fun c => c.delta.text) =
      Str.concat (response.content.filterMap OpenAi.blockText) ∧
    (∀ c ∈ deltas, c.finishReason = none) ∧
    last.finishReason.isSome ∧ last.finishReason = response.finishReason ∧
    last.usage.getD {} = response.usage

structure KiroAdapter where
  id : String
  baseUrl : String
  defaultModel : String
  deriving DecidableEq, Repr

namespace Kiro

/-- The counts of a metadata event. Counts without a cache come before those with one. -/
def readTokenUsage (payload : Json.Value) (usage : Usage) : Usage :=
  match payload.get "tokenUsage" with
  | none => usage
  | some tokenUsage =>
    let input := (tokenUsage.get "uncachedInputTokens").or (tokenUsage.get "inputTokens")
    { usage with
      inputTokens := ((input.bind Json.Value.asU64).getD 0).toUInt32
      outputTokens := tokenUsage.getCount "outputTokens" }

/-- The text delta of an event, and the text and the usage with the event applied to them. -/
def applyKiroEvent (acc : String) (usage : Usage) (ev : KiroEvent) :
    Option String × String × Usage :=
  if ev.messageType = some "exception" then (none, acc, usage)
  else
    let et := Str.toLowercase (ev.eventType.getD "")
    let content :=
      if Str.contains et "assistantresponse" then ev.payload.getStr "content" else none
    match content with
    | some content => (some content, acc ++ content, usage)
    | none =>
      if Str.contains et "metadata" then (none, acc, readTokenUsage ev.payload usage)
      else (none, acc, usage)

/-- An event in the loop of a completion. -/
def collect (s : String × Usage) (ev : KiroEvent) : String × Usage :=
  (applyKiroEvent s.1 s.2 ev).2

/-- An event in the loop of a stream, whose usage is not there before the first event. -/
def onEvent (ids : StreamId) (s : String × Option Usage) (ev : KiroEvent) :
    (String × Option Usage) × List CanonicalChunk :=
  let (delta, acc, usage) := applyKiroEvent s.1 (s.2.getD {}) ev
  ((acc, some usage), (delta.map fun t => ids.textChunk t none).toList)

end Kiro

namespace KiroAdapter

variable (text : Json.Text)

/-- The loop of a completion. Nothing comes out of it when the parser panics. -/
def collectFrom : List UInt8 → String × Usage → List (AppResult (List UInt8)) →
    Option (AppResult (String × Usage))
  | _, s, [] => some (.ok s)
  | _, _, .error e :: _ => some (.error e)
  | buf, s, .ok chunk :: rest =>
    match Kiro.parseKiroEvents text (buf ++ chunk) with
    | none => none
    | some (events, left) => collectFrom left (events.foldl Kiro.collect s) rest

/-- The response to the text and the usage that were collected. -/
def response (adapter : KiroAdapter) (uuid : String) (req : CanonicalRequest)
    (s : String × Usage) : CanonicalResponse where
  id := "kiro-" ++ uuid
  model := req.selectedModel
  provider := adapter.id
  content := if s.1 = "" then [] else [.text s.1]
  finishReason := some "stop"
  usage := s.2

def complete (adapter : KiroAdapter) (uuid : String) (req : CanonicalRequest)
    (sent : AppResult HttpAnswer) : Option (AppResult CanonicalResponse) :=
  match sent with
  | .error e => some (.error e)
  | .ok answer =>
    if !answer.isSuccess then
      some (.error (.providerError adapter.id answer.status answer.text))
    else
      match collectFrom text [] ("", {}) answer.body with
      | none => none
      | some (.error e) => some (.error e)
      | some (.ok s) => some (.ok (adapter.response uuid req s))

/-- The loop of a stream, with the chunk at its end. -/
def pollFrom (ids : StreamId) : List UInt8 → String × Option Usage →
    List (AppResult (List UInt8)) → Polled
  | _, s, [] => ⟨[.ok (ids.endChunk (some "stop") s.2)], false⟩
  | _, _, .error e :: _ => ⟨[.error e], false⟩
  | buf, s, .ok chunk :: rest =>
    match Kiro.parseKiroEvents text (buf ++ chunk) with
    | none => ⟨[], true⟩
    | some (events, left) =>
      let (s', out) := emit (Kiro.onEvent ids) s events
      let later := pollFrom ids left s' rest
      ⟨out.map .ok ++ later.items, later.panicked⟩

def stream (adapter : KiroAdapter) (uuid : String) (req : CanonicalRequest)
    (sent : AppResult HttpAnswer) : AppResult Polled :=
  match sent with
  | .error e => .error e
  | .ok answer =>
    if !answer.isSuccess then .error (.providerError adapter.id answer.status answer.text)
    else .ok (pollFrom text ⟨"kiro-" ++ uuid, req.selectedModel⟩ [] ("", none) answer.body)

end KiroAdapter

namespace Kiro

/-- An event adds its text delta, if it has one, to the text. -/
theorem applyKiroEvent_text (acc : String) (usage : Usage) (ev : KiroEvent) :
    (applyKiroEvent acc usage ev).2.1 =
      acc ++ Str.concat (applyKiroEvent acc usage ev).1.toList := by
  have hempty : acc = acc ++ Str.concat (none : Option String).toList := String.append_empty.symm
  rw [applyKiroEvent]
  split
  · exact hempty
  · dsimp only
    split
    · rfl
    · split
      · exact hempty
      · exact hempty

section Lockstep

variable (ids : StreamId) (s : String × Option Usage)

theorem collect_onEvent (ev : KiroEvent) :
    collect (s.1, s.2.getD {}) ev =
      ((onEvent ids s ev).1.1, (onEvent ids s ev).1.2.getD {}) := by
  rw [collect, onEvent]
  dsimp only
  generalize applyKiroEvent s.1 (s.2.getD {}) ev = applied
  obtain ⟨delta, acc, usage⟩ := applied
  rfl

/-- Where the loop of a stream stands after some events, the loop of a completion stands too. -/
theorem foldl_collect (events : List KiroEvent) :
    events.foldl collect (s.1, s.2.getD {}) =
      ((emit (onEvent ids) s events).1.1, (emit (onEvent ids) s events).1.2.getD {}) := by
  induction events generalizing s with
  | nil => rfl
  | cons ev events ih =>
    rw [List.foldl_cons, collect_onEvent ids, ih]
    rfl

theorem text_onEvent (ev : KiroEvent) :
    (onEvent ids s ev).1.1 =
      s.1 ++ Str.concat ((onEvent ids s ev).2.filterMap fun c => c.delta.text) := by
  have htext := applyKiroEvent_text s.1 (s.2.getD {}) ev
  have hdelta : ((onEvent ids s ev).2.filterMap fun c => c.delta.text) =
      (applyKiroEvent s.1 (s.2.getD {}) ev).1.toList := by
    rw [onEvent]
    generalize applyKiroEvent s.1 (s.2.getD {}) ev = applied
    obtain ⟨delta, acc, usage⟩ := applied
    cases delta <;> rfl
  rw [hdelta]
  exact htext

/-- The deltas of a stream make up the text that is collected. -/
theorem text_emit (events : List KiroEvent) :
    (emit (onEvent ids) s events).1.1 =
      s.1 ++ Str.concat ((emit (onEvent ids) s events).2.filterMap fun c => c.delta.text) := by
  induction events generalizing s with
  | nil => exact String.append_empty.symm
  | cons ev events ih =>
    have hrest := ih (onEvent ids s ev).1
    rw [text_onEvent] at hrest
    simp only [emit]
    rw [hrest, List.filterMap_append, Str.concat_append, String.append_assoc]

theorem finishReason_emit (events : List KiroEvent) :
    ∀ c ∈ (emit (onEvent ids) s events).2, c.finishReason = none := by
  induction events generalizing s with
  | nil => exact List.forall_mem_nil _
  | cons ev events ih =>
    intro c hc
    obtain hc | hc := List.mem_append.mp hc
    · obtain ⟨t, -, rfl⟩ := Option.map_eq_some_iff.mp (Option.mem_toList.mp hc)
      rfl
    · exact ih _ c hc

end Lockstep

end Kiro

namespace KiroAdapter

variable (text : Json.Text)

/-- A completion takes the events of all that arrives, and an input that fails is an error. -/
theorem collectFrom_eq (buf : List UInt8) (s : String × Usage)
    (input : List (AppResult (List UInt8))) :
    collectFrom text buf s input =
      match Kiro.readEvents text buf (received input) with
      | none => none
      | some (events, _) =>
        some (match failure input with
          | none => .ok (events.foldl Kiro.collect s)
          | some e => .error e) := by
  induction input generalizing buf s with
  | nil => rfl
  | cons item input ih =>
    cases item with
    | error e => rfl
    | ok chunk =>
      rw [collectFrom, received, Kiro.readEvents, failure]
      cases Kiro.parseKiroEvents text (buf ++ chunk) with
      | none => rfl
      | some p =>
        obtain ⟨events, left⟩ := p
        dsimp only
        rw [ih]
        cases Kiro.readEvents text left (received input) with
        | none => rfl
        | some later =>
          obtain ⟨laterEvents, rest⟩ := later
          rw [Cutter.prepend_some]
          dsimp only
          rw [List.foldl_append]

/-- What a stream puts out for its events, and behind it the error or the chunk at the end. -/
theorem pollFrom_eq (ids : StreamId) {buf : List UInt8} (s : String × Option Usage)
    {input : List (AppResult (List UInt8))}
    (h : Kiro.readEvents text buf (received input) = some (events, left)) :
    pollFrom text ids buf s input =
      ⟨(emit (Kiro.onEvent ids) s events).2.map .ok ++
        [match failure input with
          | none => .ok (ids.endChunk (some "stop") (emit (Kiro.onEvent ids) s events).1.2)
          | some e => .error e], false⟩ := by
  induction input generalizing buf s events with
  | nil =>
    cases h
    rfl
  | cons item input ih =>
    cases item with
    | error e =>
      cases h
      rfl
    | ok chunk =>
      rw [received, Kiro.readEvents] at h
      rw [pollFrom, failure]
      cases hparse : Kiro.parseKiroEvents text (buf ++ chunk) with
      | none =>
        rw [hparse] at h
        cases h
      | some p =>
        obtain ⟨front, rest⟩ := p
        rw [hparse] at h
        obtain ⟨back, hback, rfl⟩ := Cutter.prepend_eq_some h
        dsimp only
        rw [ih (emit (Kiro.onEvent ids) s front).1 hback, emit_append, List.map_append,
          List.append_assoc]

/-- A stream whose parser panics has no error and no finish reason to tell. -/
theorem pollFrom_panic (ids : StreamId) {buf : List UInt8} (s : String × Option Usage)
    {input : List (AppResult (List UInt8))}
    (h : Kiro.readEvents text buf (received input) = none) :
    ∃ out : List CanonicalChunk, (pollFrom text ids buf s input).items = out.map .ok ∧
      ∀ c ∈ out, c.finishReason = none := by
  induction input generalizing buf s with
  | nil => cases h
  | cons item input ih =>
    cases item with
    | error e => cases h
    | ok chunk =>
      rw [received, Kiro.readEvents] at h
      rw [pollFrom]
      cases hparse : Kiro.parseKiroEvents text (buf ++ chunk) with
      | none => exact ⟨[], rfl, List.forall_mem_nil _⟩
      | some p =>
        obtain ⟨front, rest⟩ := p
        rw [hparse] at h
        obtain ⟨out, hout, hnone⟩ := ih (emit (Kiro.onEvent ids) s front).1
          (Cutter.prepend_eq_none h)
        refine ⟨(emit (Kiro.onEvent ids) s front).2 ++ out, ?_,
          List.forall_mem_append.mpr ⟨Kiro.finishReason_emit ids s front, hnone⟩⟩
        dsimp only
        rw [hout, List.map_append]

/-- The blocks of a response make up the text that was collected. -/
theorem response_text (adapter : KiroAdapter) (uuid : String) (req : CanonicalRequest)
    (s : String × Usage) :
    Str.concat ((adapter.response uuid req s).content.filterMap OpenAi.blockText) = s.1 := by
  rw [response]
  dsimp only
  split
  · next hempty => exact hempty.symm
  · rfl

theorem complete_of_success {adapter : KiroAdapter} {answer : HttpAnswer}
    (hsuccess : answer.isSuccess) (uuid : String) (req : CanonicalRequest) :
    adapter.complete text uuid req (.ok answer) =
      (collectFrom text [] ("", {}) answer.body).map
        fun r => r.map (adapter.response uuid req) := by
  rw [complete, hsuccess]
  cases collectFrom text [] ("", {}) answer.body with
  | none => rfl
  | some r => cases r <;> rfl

theorem stream_of_success {adapter : KiroAdapter} {answer : HttpAnswer}
    (hsuccess : answer.isSuccess) (uuid : String) (req : CanonicalRequest) :
    adapter.stream text uuid req (.ok answer) =
      .ok (pollFrom text ⟨"kiro-" ++ uuid, req.selectedModel⟩ [] ("", none) answer.body) := by
  rw [stream, hsuccess]
  rfl

/-- However the bytes of some frames are cut for the one and for the other, a stream tells what a
completion says. -/
theorem stream_refines_complete (adapter : KiroAdapter) (uuid uuid' : String)
    (req : CanonicalRequest) (frames : List RawFrame) (chunks chunks' : List (List UInt8))
    {answer answer' : HttpAnswer} (hsuccess : answer.isSuccess)
    (hsuccess' : answer'.isSuccess) (hbody : answer.body = chunks.map .ok)
    (hbody' : answer'.body = chunks'.map .ok)
    (hchunks : chunks.flatten = frames.flatMap RawFrame.encode)
    (hchunks' : chunks'.flatten = frames.flatMap RawFrame.encode) :
    ∃ response polled,
      adapter.complete text uuid req (.ok answer) = some (.ok response) ∧
      adapter.stream text uuid' req (.ok answer') = .ok polled ∧ polled.Tells response := by
  generalize hids : StreamId.mk ("kiro-" ++ uuid') req.selectedModel = ids
  generalize hevents : (frames.map fun frame => frame.event text) = events
  have hread : ∀ {chunks : List (List UInt8)}, chunks.flatten = frames.flatMap RawFrame.encode →
      Kiro.readEvents text [] (received (chunks.map .ok)) = some (events, []) := by
    intro chunks h
    rw [← List.append_nil (frames.flatMap _)] at h
    rw [received_ok, Kiro.readEvents_rawFrames text frames h, hevents,
      (Kiro.cutter text).drain_more rfl, Cutter.prepend_some, List.append_nil]
  have hcollect := collectFrom_eq text [] ("", {}) answer.body
  rw [hbody, hread hchunks, failure_ok] at hcollect
  have hpoll := pollFrom_eq text ids ("", none) (hread hchunks')
  rw [failure_ok] at hpoll
  have hfold := Kiro.foldl_collect ids ("", none) events
  have htext := Kiro.text_emit ids ("", none) events
  have hfinish := Kiro.finishReason_emit ids ("", none) events
  generalize emit (Kiro.onEvent ids) ("", none) events = run at *
  obtain ⟨⟨content, usage⟩, deltas⟩ := run
  dsimp only at hcollect hpoll hfold htext hfinish
  rw [Option.getD_none] at hfold
  rw [hfold] at hcollect
  have hresponse : adapter.complete text uuid req (.ok answer) =
      some (.ok (adapter.response uuid req (content, usage.getD {}))) := by
    rw [complete_of_success text hsuccess, hbody, hcollect]
    rfl
  have hitems : adapter.stream text uuid' req (.ok answer') =
      .ok ⟨(deltas ++ [ids.endChunk (some "stop") usage]).map .ok, false⟩ := by
    rw [stream_of_success text hsuccess', hids, hbody', hpoll, List.map_append]
    rfl
  refine ⟨_, _, hresponse, hitems, deltas, ids.endChunk (some "stop") usage, rfl, ?_, hfinish, rfl,
    rfl, rfl⟩
  rw [List.filterMap_append, Str.concat_append, response_text, htext, String.empty_append]
  exact String.append_empty

def sampleAdapter : KiroAdapter where
  id := "kiro"
  baseUrl := "https://codewhisperer.us-east-1.amazonaws.com/"
  defaultModel := "kiro/auto"

def sampleRequest : CanonicalRequest where
  messages := []
  system := none
  maxTokens := none
  temperature := none
  topP := none
  stop := none
  stream := true
  tools := none
  toolChoice := none
  tier := .standard
  selectedModel := "kiro/auto"
  selectedProvider := "kiro"
  requestId := "1"

/-- Two frames in one piece. -/
def sampleAnswer : HttpAnswer where
  status := 200
  text := ""
  body := [.ok (Kiro.sampleFrame.encode ++ Kiro.sampleFrame.encode)]

/-- The same bytes, cut inside the first frame. -/
def sampleCutAnswer : HttpAnswer where
  status := 200
  text := ""
  body := [.ok (Kiro.sampleFrame.encode.take 5),
    .ok (Kiro.sampleFrame.encode.drop 5 ++ Kiro.sampleFrame.encode)]

theorem stream_refines_complete_sample :
    ∃ response polled,
      sampleAdapter.complete Json.sampleText "a" sampleRequest (.ok sampleAnswer) =
        some (.ok response) ∧
      sampleAdapter.stream Json.sampleText "b" sampleRequest (.ok sampleCutAnswer) =
        .ok polled ∧ polled.Tells response := by
  apply stream_refines_complete Json.sampleText sampleAdapter "a" "b" sampleRequest
    [Kiro.rawFrame Kiro.sampleFrame, Kiro.rawFrame Kiro.sampleFrame]
    [Kiro.sampleFrame.encode ++ Kiro.sampleFrame.encode]
    [Kiro.sampleFrame.encode.take 5, Kiro.sampleFrame.encode.drop 5 ++ Kiro.sampleFrame.encode]
    rfl rfl rfl rfl
  · rfl
  · rw [List.flatten_cons, List.flatten_singleton, ← List.append_assoc, List.take_append_drop]
    rfl

end KiroAdapter

end TokenDealer
