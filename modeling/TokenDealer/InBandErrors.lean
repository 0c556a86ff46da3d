import TokenDealer.KiroAdapter
import TokenDealer.KiroSlices

set_option autoImplicit true

namespace TokenDealer

open Json Incremental

/-- The items tell of an error, and none of them is a chunk with a finish reason. -/
def Reported (items : List (AppResult CanonicalChunk)) : Prop :=
  (∃ e, .error e ∈ items) ∧ ∀ c, .ok c ∈ items → c.finishReason = none

theorem not_reported_ok (out : List CanonicalChunk) : ¬ Reported (out.map .ok) := by
  intro h
  obtain ⟨⟨e, he⟩, -⟩ := h
  obtain ⟨c, -, hc⟩ := List.mem_map.mp he
  cases hc

theorem reported_error (out : List CanonicalChunk) (e : AppError) :
    Reported (out.map .ok ++ [.error e]) ↔ ¬ ∃ c ∈ out, c.finishReason ≠ none := by
  constructor
  · intro h hnames
    obtain ⟨c, hc, hfinish⟩ := hnames
    exact hfinish (h.2 c (List.mem_append_left _ (List.mem_map_of_mem hc)))
  · intro h
    refine ⟨⟨e, List.mem_append_right _ List.mem_cons_self⟩, ?_⟩
    intro c hc
    obtain hc | hc := List.mem_append.mp hc
    · obtain ⟨c', hc', he⟩ := List.mem_map.mp hc
      cases he
      exact Classical.not_not.mp fun hfinish => h ⟨c, hc', hfinish⟩
    · cases List.mem_singleton.mp hc

namespace SseAdapter

/-- A value by which a service says inside of a stream that it has failed. -/
def IsError (v : Value) : SseAdapter → Prop
  | openai => (v.get "error").isSome
  | anthropic => v.getStr "type" = some "error"
  | google => (v.get "error").isSome
  | generic => (v.get "error").isSome
  | responses => v.getStr "type" = some "response.failed" ∨ v.getStr "type" = some "error"

/-- A value that names a reason why the answer is at its end. -/
def NamesFinish (v : Value) : SseAdapter → Prop
  | openai =>
    ∃ choice, OpenAi.firstChoice v = some choice ∧ (choice.get "delta").isSome ∧
      (choice.getStr "finish_reason").isSome
  | anthropic =>
    v.getStr "type" = some "message_delta" ∧ (v.get "usage").isSome ∧
      ((v.get "delta").bind fun d => d.getStr "stop_reason").isSome
  | google =>
    ((((v.get "candidates").bind Value.asArray).bind List.head?).bind fun cand =>
      cand.getStr "finishReason").isSome
  | generic =>
    ∃ choice, OpenAi.firstChoice v = some choice ∧ (choice.get "delta").isSome ∧
      (choice.getStr "finish_reason").isSome
  | responses => v.getStr "type" = some "response.completed" ∧ (v.get "response").isSome

end SseAdapter

theorem OpenAi.parseChunk_finish (text : Json.Text) (readUsage : Value → Usage) (v : Value)
    (modelId : String) :
    (∃ c ∈ (parseChunk text readUsage v modelId).toList, c.finishReason ≠ none) ↔
      ∃ choice, firstChoice v = some choice ∧ (choice.get "delta").isSome ∧
        (choice.getStr "finish_reason").isSome := by
  constructor
  · intro h
    obtain ⟨c, hc, hfinish⟩ := h
    obtain ⟨choice, hchoice, hc⟩ := Option.bind_eq_some_iff.mp (Option.mem_toList.mp hc)
    obtain ⟨delta, hdelta, hc⟩ := Option.bind_eq_some_iff.mp hc
    cases hc
    exact ⟨choice, hchoice, Option.isSome_of_eq_some hdelta, Option.isSome_iff_ne_none.mpr hfinish⟩
  · intro h
    obtain ⟨choice, hchoice, hdelta, hfinish⟩ := h
    obtain ⟨delta, hdelta⟩ := Option.isSome_iff_exists.mp hdelta
    refine ⟨_, Option.mem_toList.mpr (Option.bind_eq_some_iff.mpr ⟨choice, hchoice,
      Option.bind_eq_some_iff.mpr ⟨delta, hdelta, rfl⟩⟩), ?_⟩
    exact Option.isSome_iff_ne_none.mp hfinish

variable (text : Json.Text) (ids : StreamId)

theorem Anthropic.onValue_finish (s : String) (v : Value) :
    (∃ c ∈ (onValue ids s v).2, c.finishReason ≠ none) ↔
      v.getStr "type" = some "message_delta" ∧ (v.get "usage").isSome ∧
        ((v.get "delta").bind fun d => d.getStr "stop_reason").isSome := by
  rw [onValue]
  cases htype : v.getStr "type" with
  | none => simp only [List.not_mem_nil, false_and, exists_false, reduceCtorEq]
  | some event =>
    dsimp only
    by_cases hdelta : event = "content_block_delta"
    · have hother : some event ≠ some "message_delta" := by
        rw [hdelta]
        decide
      rw [if_pos hdelta, eq_false hother, false_and]
      cases deltaText v with
      | none => simp only [List.not_mem_nil, false_and, exists_false]
      | some t =>
        simp only [List.mem_singleton, exists_eq_left, StreamId.textChunk, ne_eq, not_true_eq_false]
    · rw [if_neg hdelta]
      by_cases hmessage : event = "message_delta"
      · rw [if_pos hmessage, hmessage]
        cases v.get "usage" with
        | none =>
          simp only [List.not_mem_nil, false_and, exists_false, Option.isSome_none,
            Bool.false_eq_true, and_false]
        | some usage =>
          simp only [List.mem_singleton, exists_eq_left, StreamId.endChunk, Option.isSome_some,
            true_and, Option.isSome_iff_ne_none]
      · have hother : some event ≠ some "message_delta" := fun h => hmessage (Option.some.inj h)
        rw [if_neg hmessage, eq_false hother, false_and]
        simp only [List.not_mem_nil, false_and, exists_false]

theorem Google.candidateChunks_finish (usage : Option Usage) (cand : Value) :
    (∃ c ∈ candidateChunks ids usage cand, c.finishReason ≠ none) ↔
      (cand.getStr "finishReason").isSome := by
  rw [candidateChunks]
  cases cand.getStr "finishReason" with
  | none =>
    simp only [Option.map_none, Option.isSome_none, Bool.false_eq_true, if_false, List.append_nil,
      iff_false, List.mem_map, not_exists, not_and]
    intro c h hfinish
    obtain ⟨t, -, rfl⟩ := h
    exact hfinish rfl
  | some reason =>
    apply iff_of_true _ rfl
    refine ⟨_, List.mem_append_right _ List.mem_cons_self, ?_⟩
    exact Option.some_ne_none _

theorem Google.onValue_finish (s : Option Usage) (v : Value) :
    (∃ c ∈ (onValue ids s v).2, c.finishReason ≠ none) ↔
      ((((v.get "candidates").bind Value.asArray).bind List.head?).bind fun cand =>
        cand.getStr "finishReason").isSome := by
  rw [onValue]
  cases ((v.get "candidates").bind Value.asArray).bind List.head? with
  | none =>
    simp only [List.not_mem_nil, false_and, exists_false, Option.bind_none, Option.isSome_none,
      Bool.false_eq_true]
  | some cand => exact candidateChunks_finish ids _ cand

theorem Generic.nameChunk_finishReason (c : CanonicalChunk) :
    (nameChunk ids c).finishReason = c.finishReason := by
  rw [nameChunk]
  split <;> rfl

theorem Generic.onValue_finish (v : Value) :
    (∃ c ∈ ((parseOpenaiCompatChunk text v ids.modelId).map (nameChunk ids)).toList,
      c.finishReason ≠ none) ↔
      ∃ choice, OpenAi.firstChoice v = some choice ∧ (choice.get "delta").isSome ∧
        (choice.getStr "finish_reason").isSome := by
  rw [← OpenAi.parseChunk_finish text (readUsage "prompt_tokens" "completion_tokens") v
    ids.modelId, parseOpenaiCompatChunk]
  cases OpenAi.parseChunk text (readUsage "prompt_tokens" "completion_tokens") v ids.modelId with
  | none => exact Iff.rfl
  | some c =>
    simp only [Option.map_some, Option.toList_some, List.mem_singleton, exists_eq_left,
      nameChunk_finishReason]

theorem Responses.onValue_finish (s : Responses.State) (v : Value) :
    (∃ c ∈ (onValue ids s v).2, c.finishReason ≠ none) ↔
      v.getStr "type" = some "response.completed" ∧ (v.get "response").isSome := by
  have hnil : (∃ c ∈ ([] : List CanonicalChunk), c.finishReason ≠ none) ↔ False :=
    iff_of_false (fun h => List.not_mem_nil h.choose_spec.1) not_false
  have htype : v.getStr "type" = some "response.completed" ↔
      (v.getStr "type").getD "" = "response.completed" := by
    cases v.getStr "type" with
    | none => exact iff_of_false nofun (by decide)
    | some event => exact Option.some_inj
  rw [onValue, htype]
  generalize (v.getStr "type").getD "" = event
  by_cases hdelta : event = "response.output_text.delta"
  · have hother : event ≠ "response.completed" := by
      rw [hdelta]
      decide
    rw [if_pos hdelta, eq_false hother, false_and]
    cases v.getStr "delta" with
    | none => exact hnil
    | some d =>
      simp only [List.mem_singleton, exists_eq_left, StreamId.textChunk, ne_eq, not_true_eq_false]
  · rw [if_neg hdelta]
    by_cases hcompleted : event = "response.completed"
    · rw [if_pos hcompleted, eq_true hcompleted, true_and]
      cases v.get "response" with
      | none => exact hnil.trans (iff_of_false not_false Bool.false_ne_true)
      | some resp =>
        apply iff_of_true _ rfl
        exact ⟨_, List.mem_cons_self, Option.some_ne_none _⟩
    · rw [if_neg hcompleted, eq_false hcompleted, false_and]
      exact hnil

theorem SseAdapter.onValue_finish (adapter : SseAdapter) (s : (adapter.machine text ids).State)
    (v : Value) :
    (∃ c ∈ ((adapter.machine text ids).onValue s v).2, c.finishReason ≠ none) ↔
      adapter.NamesFinish v := by
  cases adapter with
  | openai => exact OpenAi.parseChunk_finish text _ v ids.modelId
  | anthropic => exact Anthropic.onValue_finish ids s v
  | google => exact Google.onValue_finish ids s v
  | generic => exact Generic.onValue_finish text ids v
  | responses => exact Responses.onValue_finish ids s v

namespace StreamMachine

variable (m : StreamMachine)

/-- The values of the events that reach a machine. -/
def values (input : List (AppResult (List UInt8))) : List Value :=
  (drainEvents (received input).flatten).1.flatMap (m.eventValues text)

/-- What a stream puts out is for its values, and then for how it ends. -/
theorem stream_values (input : List (AppResult (List UInt8))) :
    m.stream text input = (emit m.onValue m.init (m.values text input)).2.map .ok ++
      (match failure input with
        | none => (m.finish (emit m.onValue m.init (m.values text input)).1).map .ok
        | some e => [.error e]) := by
  rw [stream, streamFrom_eq m text rfl, emit_onEvent, List.nil_append]
  rfl

/-- The items of a stream behind those for the first of its values. -/
def itemsAfter (input : List (AppResult (List UInt8))) (before : List Value) :
    List (AppResult CanonicalChunk) :=
  (m.stream text input).drop (emit m.onValue m.init before).2.length

/-- What a stream puts out behind some first values is for the others and for the end. -/
theorem itemsAfter_eq {input : List (AppResult (List UInt8))}
    (h : m.values text input = before ++ after) :
    ∃ s, m.itemsAfter text input before = (emit m.onValue s after).2.map .ok ++
      (match failure input with
        | none => (m.finish (emit m.onValue s after).1).map .ok
        | some e => [.error e]) := by
  refine ⟨(emit m.onValue m.init before).1, ?_⟩
  rw [itemsAfter, stream_values, h, emit_append, List.map_append, List.append_assoc]
  exact List.drop_left' (List.length_map _)

end StreamMachine

/-- A stream behind a value reports an error exactly if its input fails and no later value names a
finish reason, whatever the value itself says. -/
theorem SseAdapter.reported_iff (adapter : SseAdapter) {input : List (AppResult (List UInt8))}
    (h : (adapter.machine text ids).values text input = before ++ after) :
    Reported ((adapter.machine text ids).itemsAfter text input before) ↔
      (failure input).isSome ∧ ∀ v ∈ after, ¬ adapter.NamesFinish v := by
  obtain ⟨s, hitems⟩ := (adapter.machine text ids).itemsAfter_eq text h
  have hfinish := exists_mem_emit (adapter.onValue_finish text ids) s after
  rw [hitems]
  cases failure input with
  | none =>
    rw [← List.map_append]
    apply iff_of_false (not_reported_ok _)
    intro hfailed
    exact Bool.false_ne_true hfailed.1
  | some e =>
    rw [reported_error, hfinish, not_exists]
    simp only [Option.isSome_some, true_and, not_and]

/-- A frame by which the service says that it has failed. -/
def RawFrame.IsException (frame : RawFrame) : Prop :=
  (frame.event text).messageType = some "exception"

/-- Bytes that end inside of a frame. -/
def Kiro.EndsInside (bytes : List UInt8) : Prop :=
  ∃ (frames : List RawFrame) (frame : RawFrame) (front back : List UInt8),
    bytes = frames.flatMap RawFrame.encode ++ front ∧ front ++ back = frame.encode ∧
      front ≠ [] ∧ back ≠ []

/-- A part of a frame is no frame, and nothing the parser panics on. -/
theorem Kiro.cut_part {frame : RawFrame} {front back : List UInt8}
    (h : front ++ back = frame.encode) (hback : back ≠ []) : (cutter text).cut front = .more := by
  have hwhole := frame.cut_encode [] text
  rw [List.append_nil, ← h] at hwhole
  cases hcut : (cutter text).cut front with
  | more => rfl
  | refuse =>
    rw [(cutter text).refuse_append back hcut] at hwhole
    cases hwhole
  | frame e rest =>
    rw [(cutter text).frame_append back hcut] at hwhole
    injection hwhole with _ hrest
    exact absurd (List.append_eq_nil_iff.mp hrest).2 hback

namespace KiroAdapter

/-- The items of a stream behind those for the first of its frames. -/
def itemsAfter (polled : Polled) (frames : List RawFrame) : List (AppResult CanonicalChunk) :=
  polled.items.drop
    (emit (Kiro.onEvent ids) ("", none) (frames.map fun frame => frame.event text)).2.length

variable {text} {frames : List RawFrame} {rest : List UInt8} {input : List (AppResult (List UInt8))}
  (hbytes : (received input).flatten = frames.flatMap RawFrame.encode ++ rest)

include hbytes in
theorem pollFrom_reported :
    Reported (itemsAfter text ids (pollFrom text ids [] ("", none) input) frames) ↔
      (failure input).isSome ∧ ((Kiro.cutter text).drain rest).isSome := by
  have hread := Kiro.readEvents_rawFrames text frames hbytes
  cases hdrain : (Kiro.cutter text).drain rest with
  | none =>
    rw [hdrain] at hread
    obtain ⟨out, hout, -⟩ := pollFrom_panic text ids ("", none) hread
    apply iff_of_false _ fun h => Bool.false_ne_true h.2
    rw [itemsAfter, hout, ← List.map_drop]
    exact not_reported_ok _
  | some p =>
    obtain ⟨events, left⟩ := p
    rw [hdrain, Cutter.prepend_some] at hread
    have hpoll := pollFrom_eq text ids ("", none) hread
    rw [itemsAfter, hpoll, emit_append, List.map_append, List.append_assoc]
    dsimp only
    rw [List.drop_left' (List.length_map _)]
    have hfinish := Kiro.finishReason_emit ids
      (emit (Kiro.onEvent ids) ("", none) (frames.map fun frame => frame.event text)).1 events
    cases failure input with
    | none =>
      dsimp only
      rw [← List.map_singleton, ← List.map_append]
      apply iff_of_false (not_reported_ok _)
      intro hfailed
      exact Bool.false_ne_true hfailed.1
    | some e =>
      dsimp only
      rw [reported_error]
      apply iff_of_true _ ⟨rfl, rfl⟩
      intro hnames
      obtain ⟨c, hc, hname⟩ := hnames
      exact hname (hfinish c hc)

include hbytes in
theorem complete_error {adapter : KiroAdapter} {answer : HttpAnswer} (hsuccess : answer.isSuccess)
    (hbody : answer.body = input) (uuid : String) (req : CanonicalRequest) :
    (∃ e, adapter.complete text uuid req (.ok answer) = some (.error e)) ↔
      (failure input).isSome ∧ ((Kiro.cutter text).drain rest).isSome := by
  have hcollect := collectFrom_eq text [] ("", {}) input
  rw [Kiro.readEvents_rawFrames text frames hbytes] at hcollect
  rw [complete_of_success text hsuccess, hbody, hcollect]
  cases (Kiro.cutter text).drain rest with
  | none =>
    apply iff_of_false _ fun h => Bool.false_ne_true h.2
    intro h
    obtain ⟨e, he⟩ := h
    cases he
  | some p =>
    cases failure input with
    | none =>
      apply iff_of_false _ fun h => Bool.false_ne_true h.1
      intro h
      obtain ⟨e, he⟩ := h
      cases he
    | some e => exact iff_of_true ⟨e, rfl⟩ ⟨rfl, rfl⟩

end KiroAdapter

/-- Which errors inside of a stream are told to the caller: with a later failure of the input
itself every one is, as long as no value from the error on names a finish reason and the Kiro
parser does not panic. Without such a failure none is. -/
theorem inBandError_reported (text : Json.Text) :
    (∀ (adapter : SseAdapter) (ids : StreamId) (input : List (AppResult (List UInt8)))
        before v after,
      (adapter.machine text ids).values text input = before ++ v :: after → adapter.IsError v →
      (Reported ((adapter.machine text ids).itemsAfter text input before) ↔
        (failure input).isSome ∧ ∀ w ∈ v :: after, ¬ adapter.NamesFinish w)) ∧
    ∀ (adapter : KiroAdapter) (uuid : String) (req : CanonicalRequest) (answer : HttpAnswer),
      answer.isSuccess →
      (∀ frames (exception : RawFrame) rest,
        (received answer.body).flatten =
          frames.flatMap RawFrame.encode ++ (exception.encode ++ rest) →
        exception.IsException text →
        (∃ polled, adapter.stream text uuid req (.ok answer) = .ok polled ∧
          (Reported (KiroAdapter.itemsAfter text ⟨"kiro-" ++ uuid, req.selectedModel⟩ polled frames)
            ↔ (failure answer.body).isSome ∧ ∀ r, Kiro.Behind rest r → ¬ Kiro.Overlap r)) ∧
        ((∃ e, adapter.complete text uuid req (.ok answer) = some (.error e)) ↔
          (failure answer.body).isSome ∧ ∀ r, Kiro.Behind rest r → ¬ Kiro.Overlap r)) ∧
      (Kiro.EndsInside (received answer.body).flatten →
        ((∃ e, adapter.complete text uuid req (.ok answer) = some (.error e)) ↔
          (failure answer.body).isSome)) := by
  refine ⟨fun adapter ids input before v after h _ => adapter.reported_iff text ids h, ?_⟩
  intro adapter uuid req answer hsuccess
  constructor
  · intro frames exception rest hbytes _
    have hrest : ((Kiro.cutter text).drain (exception.encode ++ rest)).isSome ↔
        ∀ r, Kiro.Behind rest r → ¬ Kiro.Overlap r := by
      rw [(Kiro.cutter text).drain_frame (exception.cut_encode rest text), Cutter.isSome_prepend,
        Kiro.isSome_drain]
    rw [← hrest]
    refine ⟨⟨_, KiroAdapter.stream_of_success text hsuccess uuid req, ?_⟩, ?_⟩
    · exact KiroAdapter.pollFrom_reported _ hbytes
    · exact KiroAdapter.complete_error hbytes hsuccess rfl uuid req
  · intro hinside
    obtain ⟨frames, frame, front, back, hbytes, hframe, -, hback⟩ := hinside
    have hdrain := (Kiro.cutter text).drain_more (Kiro.cut_part text hframe hback)
    rw [KiroAdapter.complete_error hbytes hsuccess rfl uuid req, hdrain]
    exact and_iff_left rfl

namespace Anthropic

def errorSource : String := "\x7b\"type\":\"error\"\x7d"

def errorObject : Value := .object [("type", .string "error")]

/-- A library that knows the object of an error. -/
def errorText : Json.Text where
  print _ := errorSource
  parse s := if s = errorSource then some errorObject else none

def errorLine : String := "data: " ++ errorSource

def errorEvent : List UInt8 := Utf8.encode errorLine.toList ++ [newline, newline]

theorem values_errorEvent (ids : StreamId) {tail : List (AppResult (List UInt8))}
    (h : received tail = []) :
    (SseAdapter.anthropic.machine errorText ids).values errorText (.ok errorEvent :: tail) =
      [errorObject] := by
  have hdrain : StreamMachine.drainEvents errorEvent = ([Utf8.encode errorLine.toList], []) := by
    decide
  have hlines : Str.lines errorLine = [errorLine] := by decide
  have hdone : ¬ (true && decide (errorSource = "[DONE]")) = true := by decide
  have hvalue : (SseAdapter.anthropic.machine errorText ids).dataValue errorText errorLine =
      some errorObject := by
    have hparse : errorText.parse errorSource = some errorObject := by
      simp only [errorText, if_true]
    rw [StreamMachine.dataValue, errorLine, Str.stripPrefix_append]
    exact (if_neg hdone).trans hparse
  rw [StreamMachine.values, received, h, List.flatten_singleton, hdrain]
  dsimp only
  rw [List.flatMap_singleton, StreamMachine.eventValues, Utf8.lossyString_encode, hlines,
    List.filterMap_cons_some hvalue, List.filterMap_nil]

theorem isError_errorObject : SseAdapter.anthropic.IsError errorObject := rfl

end Anthropic

/-- An error event, and then the connection breaks. -/
theorem inBandError_reported_broken :
    Reported ((SseAdapter.anthropic.machine Anthropic.errorText ⟨"m", "a"⟩).itemsAfter
      Anthropic.errorText
      [.ok Anthropic.errorEvent, .error (.internal "http: connection closed")] []) := by
  have h := (inBandError_reported Anthropic.errorText).1 .anthropic ⟨"m", "a"⟩
    [.ok Anthropic.errorEvent, .error (.internal "http: connection closed")] []
    Anthropic.errorObject [] (Anthropic.values_errorEvent _ rfl) Anthropic.isError_errorObject
  apply h.mpr
  refine ⟨rfl, ?_⟩
  intro w hw hnames
  rw [List.mem_singleton.mp hw] at hnames
  exact absurd hnames.1 (by decide)

/-- An error event, and then the stream ends as any other. -/
theorem inBandError_unreported :
    ¬ ∀ (text : Json.Text) (adapter : SseAdapter) (ids : StreamId)
      (input : List (AppResult (List UInt8))) before v after,
      (adapter.machine text ids).values text input = before ++ v :: after → adapter.IsError v →
      Reported ((adapter.machine text ids).itemsAfter text input before) := by
  intro h
  have hreported := h Anthropic.errorText .anthropic ⟨"m", "a"⟩ [.ok Anthropic.errorEvent] []
    Anthropic.errorObject [] (Anthropic.values_errorEvent _ rfl) Anthropic.isError_errorObject
  rw [SseAdapter.reported_iff _ _ _ (Anthropic.values_errorEvent _ rfl)] at hreported
  exact Bool.false_ne_true hreported.1

end TokenDealer
