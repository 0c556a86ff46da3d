import Mathlib.Data.List.Basic
import TokenDealer.Completion
import TokenDealer.InBandErrors
import TokenDealer.Outbound
import TokenDealer.SseEvents

set_option autoImplicit true

namespace TokenDealer

open Json Incremental EventStream

/-- The finish reasons of some chunks, in order. -/
def reasons (chunks : List CanonicalChunk) : List String :=
  chunks.filterMap CanonicalChunk.finishReason

theorem reasons_append (cs ds : List CanonicalChunk) :
    reasons (cs ++ ds) = reasons cs ++ reasons ds := List.filterMap_append

/-- A chunk with text or a tool call in it. -/
def CanonicalChunk.IsContent (c : CanonicalChunk) : Prop :=
  (∃ t, c.delta.text = some t ∧ t ≠ "") ∨ c.delta.toolUse.isSome

/-- A text in the state that every step adds to. -/
theorem said_emit {step : σ → Value → σ × List CanonicalChunk} {f : σ → String}
    {g : Value → Option String}
    (h : ∀ s v, f (step s v).1 = f s ++ (g v).getD "") (s : σ) (vs : List Value) :
    f (emit step s vs).1 = f s ++ Str.concat (vs.filterMap g) := by
  induction vs generalizing s with
  | nil => exact String.append_empty.symm
  | cons v vs ih =>
    rw [emit, ih, h, List.filterMap_cons]
    cases g v with
    | none => rw [Option.getD_none, String.append_empty]
    | some t =>
      dsimp only
      rw [Str.concat_cons, Option.getD_some, String.append_assoc]

theorem concat_eq_empty {ts : List String} : Str.concat ts = "" ↔ ∀ t ∈ ts, t = "" := by
  induction ts with
  | nil => exact iff_of_true rfl (List.forall_mem_nil _)
  | cons t ts ih => rw [Str.concat_cons, String.append_eq_empty_iff, ih, List.forall_mem_cons]

theorem concat_filterMap_eq_empty {g : Value → Option String} {vs : List Value} :
    Str.concat (vs.filterMap g) = "" ↔ ∀ v ∈ vs, (g v).getD "" = "" := by
  rw [concat_eq_empty]
  constructor
  · intro h v hv
    cases hg : g v with
    | none => rfl
    | some t => exact h t (List.mem_filterMap.mpr ⟨v, hv, hg⟩)
  · intro h t ht
    obtain ⟨v, hv, hg⟩ := List.mem_filterMap.mp ht
    have hempty := h v hv
    rwa [hg] at hempty

/-- The chunks of a stream are those for its values and, if the input does not fail, for its end. -/
theorem StreamMachine.received_stream (m : StreamMachine) (text : Json.Text)
    (input : List (AppResult (List UInt8))) :
    received (m.stream text input) = (emit m.onValue m.init (m.values text input)).2 ++
      if (failure input).isSome then []
      else m.finish (emit m.onValue m.init (m.values text input)).1 := by
  rw [stream_values, received_append]
  cases failure input with
  | none =>
    dsimp only
    rw [received_ok]
    rfl
  | some e => rfl

namespace StreamId

variable (ids : StreamId)

/-- Text chunks have the reason that they are given. -/
theorem reasons_textChunks (ts : List String) (reason : Option String) :
    reasons (ts.map (ids.textChunk · reason)) =
      reason.toList.flatMap fun r => List.replicate ts.length r := by
  have htext : CanonicalChunk.finishReason ∘ (ids.textChunk · reason) = fun _ => reason := rfl
  rw [reasons, List.filterMap_map, htext]
  cases reason with
  | none => exact List.filterMap_eq_nil_iff.mpr fun t _ => rfl
  | some r =>
    rw [Option.toList_some, List.flatMap_singleton, ← List.map_const']
    exact congrFun List.filterMap_eq_map' ts

end StreamId

namespace Anthropic

variable (ids : StreamId)

/-- The text that an event adds to the answer. -/
def saidText (v : Value) : Option String :=
  if v.getStr "type" = some "content_block_delta" then deltaText v else none

/-- The reason that an event gives for the end of the answer. -/
def givenReason (v : Value) : Option String :=
  if v.getStr "type" = some "message_delta" then
    (v.get "delta").bind fun d => d.getStr "stop_reason"
  else none

/-- The usage of an event that tells of the end of the answer. -/
def endUsage (v : Value) : Option Usage :=
  if v.getStr "type" = some "message_delta" then
    (v.get "usage").map fun usage => { outputTokens := usage.getCount "output_tokens" }
  else none

/-- What is put out for an event: a chunk of its text, or one of its reason and its usage if it has
any. -/
theorem onValue_eq (s : String) (v : Value) :
    onValue ids s v =
      (s ++ (saidText v).getD "",
        (saidText v).toList.map (ids.textChunk · none) ++
          (endUsage v).toList.map fun usage => ids.endChunk (givenReason v) (some usage)) := by
  rw [onValue, saidText, givenReason, endUsage]
  cases v.getStr "type" with
  | none =>
    simp only [reduceCtorEq, if_false, Option.getD_none, String.append_empty]
    rfl
  | some event =>
    simp only [Option.some.injEq]
    by_cases hdelta : event = "content_block_delta"
    · have hother : ¬ event = "message_delta" := by
        rw [hdelta]
        decide
      rw [if_pos hdelta, if_pos hdelta, if_neg hother, if_neg hother]
      cases deltaText v with
      | none => exact congrArg (Prod.mk · []) (String.append_empty).symm
      | some t => rfl
    · rw [if_neg hdelta, if_neg hdelta, Option.getD_none, String.append_empty]
      by_cases hmessage : event = "message_delta"
      · rw [if_pos hmessage, if_pos hmessage, if_pos hmessage]
        cases v.get "usage" <;> rfl
      · rw [if_neg hmessage, if_neg hmessage, if_neg hmessage]
        rfl

/-- The reason of an event that is put out. -/
def sentReason (v : Value) : Option String :=
  if (endUsage v).isSome then givenReason v else none

theorem reasons_onValue (s : String) (v : Value) :
    reasons (onValue ids s v).2 = (sentReason v).toList := by
  rw [onValue_eq, reasons_append, ids.reasons_textChunks, sentReason]
  cases endUsage v with
  | none => rfl
  | some usage =>
    simp only [reasons, Option.toList_some, List.map_singleton, List.filterMap_cons,
      List.filterMap_nil, Option.isSome_some, if_true, StreamId.endChunk]
    cases givenReason v <;> rfl

theorem reasons_emit (s : String) (vs : List Value) :
    reasons (emit (onValue ids) s vs).2 = vs.filterMap sentReason := by
  rw [List.filterMap_eq_flatMap_toList]
  exact filterMap_emit (reasons_onValue ids) s vs

theorem state_emit (vs : List Value) :
    (emit (onValue ids) "" vs).1 = Str.concat (vs.filterMap saidText) := by
  have h := said_emit (f := id) (fun s v => congrArg Prod.fst (onValue_eq ids s v)) "" vs
  exact h.trans String.empty_append

def textSource : String :=
  "\x7b\"type\":\"content_block_delta\",\"delta\":\x7b\"type\":\"text_delta\"," ++
    "\"text\":\"hi\"\x7d\x7d"

def textEvent : Value :=
  .object
    [("type", .string "content_block_delta"),
      ("delta", .object [("type", .string "text_delta"), ("text", .string "hi")])]

def stopSource : String :=
  "\x7b\"type\":\"message_delta\",\"delta\":\x7b\"stop_reason\":\"end_turn\"\x7d,\"usage\":" ++
    "\x7b\"output_tokens\":2\x7d\x7d"

def stopEvent : Value :=
  .object
    [("type", .string "message_delta"), ("delta", .object [("stop_reason", .string "end_turn")]),
      ("usage", .object [("output_tokens", .ofU32 2)])]

/-- A library that knows an event with text and one that ends the answer. -/
def eventText : Json.Text :=
  .knowing (fun _ => "null") [(textSource, textEvent), (stopSource, stopEvent)]

theorem parse_textSource : eventText.parse textSource = some textEvent := by
  change Table.get textSource [(textSource, textEvent), (stopSource, stopEvent)] = some textEvent
  exact Table.get_cons_self _ _ _

theorem parse_stopSource : eventText.parse stopSource = some stopEvent := by
  change Table.get stopSource [(textSource, textEvent), (stopSource, stopEvent)] = some stopEvent
  rw [Table.get_cons_of_ne (by decide), Table.get_cons_self]

theorem unbroken_textSource : Unbroken textSource :=
  .append (.of_chars rfl (by decide) (by decide)) (.of_chars rfl (by decide) (by decide))

theorem unbroken_stopSource : Unbroken stopSource :=
  .append (.of_chars rfl (by decide) (by decide)) (.of_chars rfl (by decide) (by decide))

theorem unbroken_sources : ∀ p ∈ [textSource, stopSource], Unbroken p ∧ p ≠ "[DONE]" := by
  simp only [List.forall_mem_cons]
  exact ⟨⟨unbroken_textSource, by decide⟩, ⟨unbroken_stopSource, by decide⟩,
    List.forall_mem_nil _⟩

/-- The values of a stream of these events. -/
theorem values_eventText (ids : StreamId) {payloads : List String}
    (h : ∀ p ∈ payloads, p ∈ [textSource, stopSource]) :
    (SseAdapter.anthropic.machine eventText ids).values eventText [.ok (streamBytes payloads)] =
      payloads.filterMap eventText.parse :=
  StreamMachine.values_streamBytes _ _ (fun p hp => (unbroken_sources p (h p hp)).1)
    (fun p hp => (unbroken_sources p (h p hp)).2) (List.append_nil _)

end Anthropic

namespace Google

variable (ids : StreamId)

def givenReason (v : Value) : Option String :=
  ((firstCandidate v).bind fun cand => cand.getStr "finishReason").map finishReasonName

/-- The texts that an event adds to the answer. -/
def saidTexts (v : Value) : List String :=
  ((((firstCandidate v).bind fun cand => cand.get "content").bind fun c => c.get "parts").bind
    Value.asArray |>.getD []).filterMap partText

def givenUsage (v : Value) : Option Usage :=
  (v.get "usageMetadata").map (readUsage "promptTokenCount" "candidatesTokenCount")

/-- What is put out for an event: a chunk for each of its texts and, if it has a reason, another one
with the usage. The reason is on all of them. -/
theorem onValue_eq (s : Option Usage) (v : Value) :
    onValue ids s v =
      ((givenUsage v).or s,
        (saidTexts v).map (ids.textChunk · (givenReason v)) ++
          if (givenReason v).isSome then [ids.endChunk (givenReason v) ((givenUsage v).or s)]
          else []) := by
  have hcandidate : firstCandidate v = ((v.get "candidates").bind Value.asArray).bind List.head? :=
    rfl
  rw [onValue, saidTexts, givenReason, ← hcandidate]
  cases firstCandidate v with
  | none => rfl
  | some cand => rfl

/-- The reasons that are put out for an event: one for each of its texts, and one more. -/
def sentReasons (v : Value) : List String :=
  (givenReason v).toList.flatMap fun r => List.replicate ((saidTexts v).length + 1) r

theorem reasons_onValue (s : Option Usage) (v : Value) :
    reasons (onValue ids s v).2 = sentReasons v := by
  rw [onValue_eq, reasons_append, sentReasons, ids.reasons_textChunks]
  cases givenReason v with
  | none => rfl
  | some r =>
    simp only [Option.toList_some, List.flatMap_singleton, Option.isSome_some, if_true]
    exact List.replicate_succ'.symm

theorem reasons_emit (s : Option Usage) (vs : List Value) :
    reasons (emit (onValue ids) s vs).2 = vs.flatMap sentReasons :=
  filterMap_emit (reasons_onValue ids) s vs

theorem isSome_state_emit (s : Option Usage) (vs : List Value) :
    (emit (onValue ids) s vs).1.isSome ↔
      s.isSome ∨ ∃ v ∈ vs, (v.get "usageMetadata").isSome := by
  induction vs generalizing s with
  | nil => simp only [emit, List.not_mem_nil, false_and, exists_false, or_false]
  | cons v vs ih =>
    rw [emit]
    dsimp only
    rw [ih, onValue_eq, List.exists_mem_cons_iff, ← or_assoc]
    apply or_congr_left
    rw [givenUsage]
    cases v.get "usageMetadata" with
    | none => simp
    | some u => simp

end Google

namespace Responses

variable (ids : StreamId)

def saidText (v : Value) : Option String :=
  if v.getStr "type" = some "response.output_text.delta" then v.getStr "delta" else none

/-- The response of an event that says that it is completed. -/
def completed (v : Value) : Option Value :=
  if v.getStr "type" = some "response.completed" then v.get "response" else none

def givenUsage (v : Value) : Option Usage :=
  ((completed v).bind fun resp => resp.get "usage").map (readUsage "input_tokens" "output_tokens")

theorem onValue_eq (s : State) (v : Value) :
    onValue ids s v =
      ({ acc := s.acc ++ (saidText v).getD "", lastUsage := (givenUsage v).or s.lastUsage },
        (saidText v).toList.map (ids.textChunk · none) ++
          (completed v).toList.map fun _ =>
            ids.endChunk (some "stop") ((givenUsage v).or s.lastUsage)) := by
  rw [onValue, givenUsage, saidText, completed]
  cases htype : v.getStr "type" with
  | none =>
    simp only [reduceCtorEq, if_false, Option.getD_none, String.append_empty]
    rfl
  | some event =>
    simp only [Option.some.injEq, Option.getD_some]
    by_cases hdelta : event = "response.output_text.delta"
    · have hother : ¬ event = "response.completed" := by
        rw [hdelta]
        decide
      simp only [if_pos hdelta, if_neg hother]
      cases v.getStr "delta" with
      | none => simp
      | some t => rfl
    · simp only [if_neg hdelta]
      by_cases hcompleted : event = "response.completed"
      · simp only [if_pos hcompleted]
        cases v.get "response" with
        | none => simp
        | some resp => simp
      · simp only [if_neg hcompleted]
        simp

theorem reasons_onValue (s : State) (v : Value) :
    reasons (onValue ids s v).2 = (completed v).toList.map fun _ => "stop" := by
  rw [onValue_eq, reasons_append, ids.reasons_textChunks]
  cases completed v <;> rfl

theorem reasons_emit (s : State) (vs : List Value) :
    reasons (emit (onValue ids) s vs).2 = (vs.filterMap completed).map fun _ => "stop" := by
  rw [List.filterMap_eq_flatMap_toList, List.map_flatMap]
  exact filterMap_emit (reasons_onValue ids) s vs

theorem acc_emit (vs : List Value) :
    (emit (onValue ids) {} vs).1.acc = Str.concat (vs.filterMap saidText) := by
  have h := said_emit (f := State.acc)
    (fun s v => congrArg (fun p => p.1.acc) (onValue_eq ids s v)) {} vs
  exact h.trans String.empty_append

theorem lastUsage_emit (s : State) (vs : List Value) :
    (emit (onValue ids) s vs).1.lastUsage = none ↔
      s.lastUsage = none ∧ ∀ v ∈ vs, givenUsage v = none := by
  induction vs generalizing s with
  | nil => exact (and_iff_left (List.forall_mem_nil _)).symm
  | cons v vs ih =>
    rw [emit, ih, onValue_eq, List.forall_mem_cons, Option.or_eq_none_iff, and_assoc]
    exact and_left_comm

end Responses

end TokenDealer
