import Mathlib.Data.List.ReduceOption
import TokenDealer.AnthropicStream
import TokenDealer.StreamedUsage
import TokenDealer.TerminalChunk

set_option autoImplicit true

namespace TokenDealer

open Json Incremental

/-- What makes an answer end. -/
inductive Cause where
  | naturalEnd
  | tokenLimit
  | toolUse
  | safety
  deriving DecidableEq, Repr

namespace Cause

/-- The finish reason of an OpenAI server. -/
def finishReason : Cause → String
  | naturalEnd => "stop"
  | tokenLimit => "length"
  | toolUse => "tool_calls"
  | safety => "content_filter"

theorem finishReason_eq_stop {c : Cause} : c.finishReason = "stop" ↔ c = naturalEnd := by
  cases c <;> decide

end Cause

/-- The finish reasons that the clients of OpenAI know. -/
def openAiReasons : List String :=
  ["stop", "length", "tool_calls", "content_filter", "function_call"]

theorem Cause.mem_openAiReasons (c : Cause) : c.finishReason ∈ openAiReasons := by
  cases c <;> decide

/-- The finish reasons that are sent to a client, as they stand in what it gets. -/
def sentReasons (outs : List Value) : List Value :=
  outs.filterMap fun out =>
    (OpenAi.firstChoice out).bind fun choice => choice.get "finish_reason"

/-- Finish reasons under the names of OpenAI, for an answer that ends for a cause, if any is
known. -/
structure Normalised (ends : Cause → Prop) (sent : List Value) : Prop where
  known : ∀ v ∈ sent, v = .null ∨ ∃ r ∈ openAiReasons, v = .string r
  cause : ∀ c, ends c →
    .string c.finishReason ∈ sent ∧ ∀ v ∈ sent, v = .null ∨ v = .string c.finishReason

/-- The cause that all the reasons given for the end of an answer have. -/
def EndsFor (causes : List (Option Cause)) (c : Cause) : Prop :=
  causes ≠ [] ∧ ∀ o ∈ causes, o = some c

namespace EndsFor

variable {given : List α} {f : α → Option Cause}

theorem of_mem (h : EndsFor (given.map f) c) (ha : a ∈ given) : f a = some c :=
  h.2 _ (List.mem_map_of_mem ha)

theorem exists_mem (h : EndsFor (given.map f) c) : ∃ a ∈ given, f a = some c := by
  obtain ⟨a, ha⟩ := List.exists_mem_of_ne_nil _ (List.map_eq_nil_iff.not.mp h.1)
  exact ⟨a, ha, h.of_mem ha⟩

end EndsFor

theorem endsFor_toList {o : Option α} {f : α → Option Cause} :
    EndsFor (o.toList.map f) c ↔ ∃ a ∈ o, f a = some c := by
  cases o <;> simp [EndsFor]

section Sent

theorem sentReasons_response (text : Json.Text) (created : Int64) (r : CanonicalResponse) :
    sentReasons [Outbound.responseToOpenai text created r] =
      [.ofOption .string r.finishReason] := rfl

theorem sentReasons_chunks (text : Json.Text) (clock : Nat → Int64)
    (chunks : List CanonicalChunk) :
    sentReasons (Outbound.chunksToOpenai text clock chunks) =
      (chunks.map CanonicalChunk.finishReason).map (.ofOption .string) := by
  rw [sentReasons, List.filterMap_eq_flatMap_toList, List.map_map, List.map_eq_flatMap]
  apply Outbound.flatMap_chunksToOpenai text
  intro created chunk v h
  cases h
  rfl

theorem string_mem_sent {os : List (Option String)} :
    .string r ∈ os.map (Value.ofOption .string) ↔ r ∈ os.reduceOption := by
  rw [List.reduceOption_mem_iff, List.mem_map]
  constructor
  · intro h
    obtain ⟨o, ho, hr⟩ := h
    cases o with
    | none => cases hr
    | some r' =>
      cases hr
      exact ho
  · exact fun h => ⟨some r, h, rfl⟩

theorem forall_mem_sent {p : String → Prop} {os : List (Option String)} :
    (∀ v ∈ os.map (Value.ofOption .string), v = .null ∨ ∃ r, p r ∧ v = .string r) ↔
      ∀ r ∈ os.reduceOption, p r := by
  constructor
  · intro h r hr
    obtain hnull | ⟨r', hp, hr'⟩ := h _ (string_mem_sent.mpr hr)
    · cases hnull
    · cases hr'
      exact hp
  · intro h v hv
    obtain ⟨o, ho, rfl⟩ := List.mem_map.mp hv
    cases o with
    | none => exact .inl rfl
    | some r => exact .inr ⟨r, h r (List.reduceOption_mem_iff.mpr ho), rfl⟩

/-- The same of the reasons that are there. -/
structure Named (ends : Cause → Prop) (rs : List String) : Prop where
  known : ∀ r ∈ rs, r ∈ openAiReasons
  cause : ∀ c, ends c → rs ≠ [] ∧ ∀ r ∈ rs, r = c.finishReason

theorem normalised_iff (ends : Cause → Prop) (os : List (Option String)) :
    Normalised ends (os.map (.ofOption .string)) ↔ Named ends os.reduceOption := by
  have hcause : ∀ c : Cause,
      (.string c.finishReason ∈ os.map (Value.ofOption .string) ∧
        ∀ v ∈ os.map (Value.ofOption .string), v = .null ∨ v = .string c.finishReason) ↔
      os.reduceOption ≠ [] ∧ ∀ r ∈ os.reduceOption, r = c.finishReason := by
    intro c
    have hall : (∀ v ∈ os.map (Value.ofOption .string), v = .null ∨ v = .string c.finishReason) ↔
        ∀ r ∈ os.reduceOption, r = c.finishReason := by
      rw [← forall_mem_sent]
      simp only [exists_eq_left]
    rw [string_mem_sent, hall]
    apply and_congr_left
    intro hsame
    constructor
    · exact List.ne_nil_of_mem
    · intro hne
      obtain ⟨r, hr⟩ := List.exists_mem_of_ne_nil _ hne
      exact hsame r hr ▸ hr
  constructor
  · exact fun h => ⟨forall_mem_sent.mp h.known, fun c hc => (hcause c).mp (h.cause c hc)⟩
  · exact fun h => ⟨forall_mem_sent.mpr h.known, fun c hc => (hcause c).mpr (h.cause c hc)⟩

theorem normalised_response (text : Json.Text) (created : Int64) (ends : Cause → Prop)
    (r : CanonicalResponse) :
    Normalised ends (sentReasons [Outbound.responseToOpenai text created r]) ↔
      Named ends r.finishReason.toList := by
  rw [sentReasons_response, ← List.map_singleton, normalised_iff, List.reduceOption_singleton]

/-- The reasons of a stream as its client gets them. -/
theorem normalised_chunks (text : Json.Text) (clock : Nat → Int64) (ends : Cause → Prop)
    (chunks : List CanonicalChunk) :
    Normalised ends (sentReasons (Outbound.chunksToOpenai text clock chunks)) ↔
      Named ends (reasons chunks) := by
  rw [sentReasons_chunks, normalised_iff, List.reduceOption, List.filterMap_map]
  exact Iff.rfl

/-- Where every reason is the natural end, no other cause has its name. -/
theorem named_stop {ends : Cause → Prop} {rs : List String} (hstop : ∀ r ∈ rs, r = "stop")
    (hne : ends .naturalEnd → rs ≠ []) :
    Named ends rs ↔ ∀ c, ends c → c = .naturalEnd := by
  constructor
  · intro h c hc
    obtain ⟨r, hr⟩ := List.exists_mem_of_ne_nil _ (h.cause c hc).1
    exact Cause.finishReason_eq_stop.mp (((h.cause c hc).2 r hr).symm.trans (hstop r hr))
  · intro h
    constructor
    · intro r hr
      rw [hstop r hr]
      exact Cause.naturalEnd.mem_openAiReasons
    · intro c hc
      have hnatural := h c hc
      subst hnatural
      exact ⟨hne hc, hstop⟩

end Sent

namespace OpenAi

def causes : List (String × Cause) :=
  [("stop", .naturalEnd), ("length", .tokenLimit), ("tool_calls", .toolUse),
    ("content_filter", .safety)]

def cause (r : String) : Option Cause := Table.get r causes

/-- The reason that an answer or an event gives for its end. -/
def givenReason (v : Value) : Option String :=
  (firstChoice v).bind fun choice => choice.getStr "finish_reason"

theorem finishReason_of_cause (h : cause r = some c) : r = c.finishReason := by
  have hall : ∀ e ∈ causes, e.1 = e.2.finishReason := by decide
  exact hall _ (Table.mem_of_get h)

/-- Reasons that are passed on have their names already. -/
theorem named_iff {given sent : List String} (hsent : ∀ r ∈ sent, r ∈ given) :
    Named (EndsFor (given.map cause)) sent ↔
      (∀ r ∈ sent, r ∈ openAiReasons) ∧ ∀ c, EndsFor (given.map cause) c → sent ≠ [] := by
  constructor
  · exact fun h => ⟨h.known, fun c hc => (h.cause c hc).1⟩
  · intro h
    refine ⟨h.1, fun c hc => ⟨h.2 c hc, ?_⟩⟩
    intro r hr
    exact finishReason_of_cause (hc.of_mem (hsent r hr))

/-- The reason of an event that is put out: an event without a delta is passed over. -/
def sentReason (v : Value) : Option String :=
  (firstChoice v).bind fun choice =>
    (choice.get "delta").bind fun _ => choice.getStr "finish_reason"

theorem givenReason_of_sent (h : sentReason v = some r) : givenReason v = some r := by
  obtain ⟨choice, hchoice, h⟩ := Option.bind_eq_some_iff.mp h
  obtain ⟨_, -, hr⟩ := Option.bind_eq_some_iff.mp h
  exact Option.bind_eq_some_iff.mpr ⟨choice, hchoice, hr⟩

/-- Events whose reasons get their names: OpenAI's clients know those that are put out, and where a
cause is given one of them is. -/
def StreamNamed (vs : List Value) : Prop :=
  (∀ r ∈ vs.filterMap sentReason, r ∈ openAiReasons) ∧
    ∀ c, EndsFor ((vs.filterMap givenReason).map cause) c → vs.filterMap sentReason ≠ []

theorem finishReason_parseChunk (text : Json.Text) (readUsage : Value → Usage) (v : Value)
    (modelId : String) :
    (parseChunk text readUsage v modelId).bind CanonicalChunk.finishReason = sentReason v := by
  rw [parseChunk, sentReason]
  cases firstChoice v with
  | none => rfl
  | some choice =>
    simp only [Option.bind_eq_bind, Option.bind_some]
    cases choice.get "delta" <;> rfl

end OpenAi

theorem CompatLoop.finishReason_chunk (text : Json.Text) (ids : StreamId) (loop : CompatLoop)
    (v : Value) :
    (loop.chunk text ids v).bind CanonicalChunk.finishReason = OpenAi.sentReason v := by
  have hmap := loop.map_chunk text ids (f := CanonicalChunk.finishReason) (fun _ _ => rfl) v
  have hbind : ∀ o : Option CanonicalChunk, o.bind CanonicalChunk.finishReason =
      (o.map CanonicalChunk.finishReason).join := by
    intro o
    cases o <;> rfl
  rw [hbind, hmap, ← hbind]
  exact OpenAi.finishReason_parseChunk text loop.readUsage v ids.modelId

namespace Anthropic

def causes : List (String × Cause) :=
  [("end_turn", .naturalEnd), ("stop_sequence", .naturalEnd), ("max_tokens", .tokenLimit),
    ("tool_use", .toolUse), ("refusal", .safety)]

def cause (r : String) : Option Cause := Table.get r causes

theorem not_mem_of_cause (h : cause r = some c) : r ∉ openAiReasons := by
  have hall : ∀ e ∈ causes, e.1 ∉ openAiReasons := by decide
  exact hall _ (Table.mem_of_get h)

/-- Reasons that are passed on have their names only where they give no cause. -/
theorem named_iff {given sent : List String} (hsent : ∀ r ∈ sent, r ∈ given) :
    Named (EndsFor (given.map cause)) sent ↔
      (∀ r ∈ sent, r ∈ openAiReasons) ∧ ¬ ∃ c, EndsFor (given.map cause) c := by
  constructor
  · intro h
    refine ⟨h.known, ?_⟩
    intro hends
    obtain ⟨c, hc⟩ := hends
    obtain ⟨r, hr⟩ := List.exists_mem_of_ne_nil _ (h.cause c hc).1
    exact not_mem_of_cause (hc.of_mem (hsent r hr)) (h.known r hr)
  · exact fun h => ⟨h.1, fun c hc => absurd ⟨c, hc⟩ h.2⟩

end Anthropic

namespace Google

def causes : List (String × Cause) :=
  [("STOP", .naturalEnd), ("MAX_TOKENS", .tokenLimit), ("SAFETY", .safety),
    ("RECITATION", .safety), ("BLOCKLIST", .safety), ("PROHIBITED_CONTENT", .safety),
    ("SPII", .safety)]

/-- The cause that a reason has. With a tool called, the natural end is for its use. -/
def cause (calls : Bool) (r : String) : Option Cause :=
  if calls ∧ r = "STOP" then some .toolUse else Table.get r causes

theorem name_of_cause (h : cause calls r = some c) (hknown : finishReasonName r ∈ openAiReasons)
    (htool : c ≠ .toolUse) : finishReasonName r = c.finishReason := by
  have hall : ∀ e ∈ causes, finishReasonName e.1 ∈ openAiReasons →
      finishReasonName e.1 = e.2.finishReason := by decide
  rw [cause] at h
  split at h
  · exact absurd (Option.some.inj h).symm htool
  · exact hall _ (Table.mem_of_get h) hknown

theorem name_of_toolUse (h : cause calls r = some .toolUse) : finishReasonName r = "stop" := by
  have hall : ∀ e ∈ causes, e.2 ≠ .toolUse := by decide
  rw [cause] at h
  split at h
  · next hstop =>
    rw [hstop.2]
    rfl
  · exact absurd rfl (hall _ (Table.mem_of_get h))

/-- Reasons that are renamed, with a closing one if there is any. -/
theorem named_iff (calls : Bool) {given sent : List String} {closing : Prop}
    (hsent : ∀ r, r ∈ sent ↔ r ∈ given.map finishReasonName ∨ closing ∧ r = "stop") :
    Named (EndsFor (given.map (cause calls))) sent ↔
      (∀ r ∈ given, finishReasonName r ∈ openAiReasons) ∧
        ∀ c, EndsFor (given.map (cause calls)) c →
          c = .naturalEnd ∨ c ≠ .toolUse ∧ ¬ closing := by
  have hgiven : ∀ r ∈ given, finishReasonName r ∈ sent :=
    fun r hr => (hsent _).mpr (.inl (List.mem_map_of_mem hr))
  constructor
  · intro h
    refine ⟨fun r hr => h.known _ (hgiven r hr), ?_⟩
    intro c hc
    apply or_iff_not_imp_left.mpr
    intro hnatural
    have hstop : "stop" ∉ sent := by
      intro hmem
      exact hnatural (Cause.finishReason_eq_stop.mp ((h.cause c hc).2 _ hmem).symm)
    constructor
    · rintro rfl
      obtain ⟨r, hr, hcause⟩ := hc.exists_mem
      exact hstop (name_of_toolUse hcause ▸ hgiven r hr)
    · exact fun hclosing => hstop ((hsent _).mpr (.inr ⟨hclosing, rfl⟩))
  · intro h
    constructor
    · intro r hr
      obtain hr | ⟨-, rfl⟩ := (hsent r).mp hr
      · obtain ⟨r', hr', rfl⟩ := List.mem_map.mp hr
        exact h.1 r' hr'
      · exact Cause.naturalEnd.mem_openAiReasons
    · intro c hc
      obtain ⟨r, hr, -⟩ := hc.exists_mem
      refine ⟨List.ne_nil_of_mem (hgiven r hr), ?_⟩
      have htool : c ≠ .toolUse := by
        obtain rfl | h := h.2 c hc
        · decide
        · exact h.1
      intro r hr
      obtain hr | ⟨hclosing, rfl⟩ := (hsent r).mp hr
      · obtain ⟨r', hr', rfl⟩ := List.mem_map.mp hr
        exact name_of_cause (hc.of_mem hr') (h.1 r' hr') htool
      · obtain rfl | h := h.2 c hc
        · rfl
        · exact absurd hclosing h.2

/-- The reason that an answer or an event gives for its end. -/
def upstreamReason (v : Value) : Option String :=
  (firstCandidate v).bind fun cand => cand.getStr "finishReason"

def callsTool (v : Value) : Bool :=
  ((((firstCandidate v).bind fun cand => cand.get "content").bind fun c => c.get "parts").bind
    Value.asArray |>.getD []).any fun part => (part.get "functionCall").isSome

theorem mem_sentReasons {vs : List Value} :
    r ∈ vs.flatMap sentReasons ↔ r ∈ (vs.filterMap upstreamReason).map finishReasonName := by
  have hsent : ∀ v, r ∈ sentReasons v ↔ (upstreamReason v).map finishReasonName = some r := by
    intro v
    have hgiven : (upstreamReason v).map finishReasonName = givenReason v := rfl
    rw [hgiven, sentReasons]
    cases givenReason v with
    | none => simp
    | some r' => simp [eq_comm]
  simp only [List.mem_flatMap, hsent, List.map_filterMap, List.mem_filterMap]

/-- The reasons of a stream are those that are given, and that of the closing chunk. -/
theorem mem_reasons (ids : StreamId) (failed : Bool) (vs : List Value) (r : String) :
    r ∈ reasons ((emit (onValue ids) none vs).2 ++
        if failed then [] else (machine ids).finish (emit (onValue ids) none vs).1) ↔
      r ∈ (vs.filterMap upstreamReason).map finishReasonName ∨
        ¬ (failed ∨ ∀ v ∈ vs, v.get "usageMetadata" = none) ∧ r = "stop" := by
  rw [reasons_append, reasons_emit, List.mem_append, mem_sentReasons]
  apply or_congr_right
  by_cases hfailed : failed
  · rw [if_pos hfailed]
    exact iff_of_false List.not_mem_nil fun h => h.1 (.inl hfailed)
  · rw [if_neg hfailed, or_iff_right hfailed]
    obtain ⟨hfinish, hnone⟩ | ⟨usage, hfinish, v, hv, hsome⟩ := finish_emit ids vs
    · rw [hfinish]
      exact iff_of_false List.not_mem_nil fun h => h.1 hnone
    · have husage : ¬ ∀ v ∈ vs, v.get "usageMetadata" = none := by
        intro hnone
        rw [hnone v hv] at hsome
        cases hsome
      rw [hfinish, and_iff_right husage]
      exact List.mem_singleton

end Google

namespace Responses

/-- The cause of an answer that is whole. -/
def wholeCause (resp : Value) : Cause :=
  if (((resp.get "output").bind Value.asArray).getD []).any fun item =>
    item.getStr "type" = some "function_call" then .toolUse else .naturalEnd

/-- The cause of an answer that is cut short. -/
def cutCause (resp : Value) : Option Cause :=
  ((resp.get "incomplete_details").bind fun details => details.getStr "reason").bind fun r =>
    Table.get r [("max_output_tokens", .tokenLimit), ("content_filter", .safety)]

def answerCause (resp : Value) : Option Cause :=
  if resp.getStr "status" = some "completed" then some (wholeCause resp)
  else if resp.getStr "status" = some "incomplete" then cutCause resp
  else none

def eventCause (v : Value) : Option Cause :=
  if v.getStr "type" = some "response.completed" then (v.get "response").map wholeCause
  else if v.getStr "type" = some "response.incomplete" then (v.get "response").bind cutCause
  else none

theorem completed_of_naturalEnd (h : eventCause v = some .naturalEnd) : (completed v).isSome := by
  rw [eventCause] at h
  rw [completed]
  split at h
  · next htype =>
    obtain ⟨resp, hresp, -⟩ := Option.map_eq_some_iff.mp h
    rw [if_pos htype, hresp]
    rfl
  · split at h
    · obtain ⟨resp, -, hcut⟩ := Option.bind_eq_some_iff.mp h
      obtain ⟨r, -, hr⟩ := Option.bind_eq_some_iff.mp hcut
      have hall : ∀ e ∈ [("max_output_tokens", Cause.tokenLimit), ("content_filter", .safety)],
          e.2 ≠ .naturalEnd := by decide
      exact absurd rfl (hall _ (Table.mem_of_get hr))
    · cases h

end Responses

namespace SseAdapter

/-- The response that is read from the JSON of an answer. -/
def response (text : Json.Text) (uuid providerId selectedModel : String) (v : Value) :
    SseAdapter → AppResult CanonicalResponse
  | openai => OpenAi.parseOpenaiResponse text v providerId
  | anthropic => Anthropic.parseAnthropicResponse v providerId
  | google => Google.parseGoogleResponse uuid v providerId selectedModel
  | generic => Generic.parseResponse v providerId selectedModel
  | responses => Responses.parseResponsesResponse v providerId selectedModel

/-- The causes of the reasons that an answer gives for its end. -/
def answerCauses (v : Value) : SseAdapter → List (Option Cause)
  | openai | generic => (OpenAi.givenReason v).toList.map OpenAi.cause
  | anthropic => (v.getStr "stop_reason").toList.map Anthropic.cause
  | google => (Google.upstreamReason v).toList.map (Google.cause (Google.callsTool v))
  | responses => (Responses.answerCause v).toList.map some

/-- Answers whose reason gets its name: they give none that OpenAI's clients do not know, and do
not end for a cause that the adapter does not see. -/
def AnswerNamed (v : Value) : SseAdapter → Prop
  | openai | generic => ∀ r ∈ OpenAi.givenReason v, r ∈ openAiReasons
  | anthropic => ∀ r ∈ v.getStr "stop_reason", r ∈ openAiReasons
  | google => ∀ r ∈ Google.upstreamReason v,
      Google.finishReasonName r ∈ openAiReasons ∧
        Google.cause (Google.callsTool v) r ≠ some .toolUse
  | responses => ∀ c ∈ Responses.answerCause v, c = .naturalEnd

theorem openai_answer (v : Value) :
    Named (EndsFor (openai.answerCauses v)) (OpenAi.givenReason v).toList ↔
      openai.AnswerNamed v := by
  rw [answerCauses, OpenAi.named_iff fun r hr => hr, AnswerNamed]
  simp only [Option.mem_toList]
  apply and_iff_left
  intro c hc hnil
  rw [hnil] at hc
  exact hc.1 rfl

theorem anthropic_answer (v : Value) :
    Named (EndsFor (anthropic.answerCauses v)) (v.getStr "stop_reason").toList ↔
      anthropic.AnswerNamed v := by
  rw [answerCauses, Anthropic.named_iff fun r hr => hr, AnswerNamed]
  simp only [Option.mem_toList]
  apply and_iff_left_of_imp
  intro hknown hends
  obtain ⟨c, hc⟩ := hends
  obtain ⟨r, hr, hcause⟩ := endsFor_toList.mp hc
  exact Anthropic.not_mem_of_cause hcause (hknown r hr)

theorem google_answer (v : Value) :
    Named (EndsFor (google.answerCauses v))
        ((Google.upstreamReason v).map Google.finishReasonName).toList ↔
      google.AnswerNamed v := by
  have hsent : ∀ r, r ∈ ((Google.upstreamReason v).map Google.finishReasonName).toList ↔
      r ∈ (Google.upstreamReason v).toList.map Google.finishReasonName ∨ False ∧ r = "stop" := by
    intro r
    rw [Option.toList_map, false_and, or_false]
  rw [answerCauses, Google.named_iff _ hsent, AnswerNamed]
  simp only [Option.mem_toList, not_false_eq_true, and_true, endsFor_toList]
  cases Google.upstreamReason v with
  | none => simp
  | some r =>
    simp only [Option.mem_some_iff, Option.some.injEq, forall_eq', exists_eq_left']
    apply and_congr_right
    intro _
    constructor
    · intro h htool
      exact (h _ htool).elim (fun hnatural => by cases hnatural) fun hne => hne rfl
    · exact fun h c hc => .inr fun he => h (he ▸ hc)

theorem answer_normalised (text : Json.Text) (created : Int64)
    (uuid providerId selectedModel : String) (adapter : SseAdapter) (v : Value) :
    ∃ r, adapter.response text uuid providerId selectedModel v = .ok r ∧
      (Normalised (EndsFor (adapter.answerCauses v))
          (sentReasons [Outbound.responseToOpenai text created r]) ↔
        adapter.AnswerNamed v) := by
  have hsent := normalised_response text created
  cases adapter with
  | openai => exact ⟨_, rfl, (hsent _ _).trans (openai_answer v)⟩
  | anthropic => exact ⟨_, rfl, (hsent _ _).trans (anthropic_answer v)⟩
  | google => exact ⟨_, rfl, (hsent _ _).trans (google_answer v)⟩
  | generic => exact ⟨_, rfl, (hsent _ _).trans (openai_answer v)⟩
  | responses =>
    refine ⟨_, rfl, (hsent _ _).trans ?_⟩
    rw [named_stop, answerCauses, AnswerNamed]
    · simp only [endsFor_toList, Option.some.injEq, exists_eq_right]
    · exact fun r hr => List.mem_singleton.mp hr
    · exact fun _ => List.cons_ne_nil _ _

/-- The causes of the reasons that the events of a stream give for its end. -/
def streamCauses (vs : List Value) : SseAdapter → List (Option Cause)
  | openai | generic => (vs.filterMap OpenAi.givenReason).map OpenAi.cause
  | anthropic => (vs.filterMap Anthropic.givenReason).map Anthropic.cause
  | google => (vs.filterMap Google.upstreamReason).map (Google.cause (vs.any Google.callsTool))
  | responses => (vs.filterMap Responses.eventCause).map some

/-- Streams whose reasons get their names: as with an answer, and the closing chunk, which a stream
that fails does not have, has the right name or is not there. -/
def StreamNamed (failed : Prop) (vs : List Value) : SseAdapter → Prop
  | openai => OpenAi.StreamNamed vs
  | generic => OpenAi.StreamNamed vs
  | anthropic =>
    (failed ∨ ∀ v ∈ vs, (Anthropic.saidText v).getD "" = "") ∧
      (∀ r ∈ vs.filterMap Anthropic.sentReason, r ∈ openAiReasons) ∧
        ¬ ∃ c, EndsFor (anthropic.streamCauses vs) c
  | google =>
    (∀ r ∈ vs.filterMap Google.upstreamReason, Google.finishReasonName r ∈ openAiReasons) ∧
      ∀ c, EndsFor (google.streamCauses vs) c → c = .naturalEnd ∨
        c ≠ .toolUse ∧ (failed ∨ ∀ v ∈ vs, v.get "usageMetadata" = none)
  | responses => ∀ c, EndsFor (responses.streamCauses vs) c → c = .naturalEnd

section Streams

variable (text : Json.Text) (ids : StreamId) (input : List (AppResult (List UInt8)))

theorem compat_stream (loop : CompatLoop) :
    Named (EndsFor (loop.adapter.streamCauses ((loop.machine text ids).values text input)))
        (reasons (received ((loop.machine text ids).stream text input))) ↔
      OpenAi.StreamNamed ((loop.machine text ids).values text input) := by
  have hreasons : ∀ vs : List Value, reasons (vs.filterMap (loop.chunk text ids)) =
      vs.filterMap OpenAi.sentReason := by
    intro vs
    rw [reasons, List.filterMap_filterMap]
    exact congrArg (List.filterMap · vs) (funext (loop.finishReason_chunk text ids))
  have hgiven : ∀ vs : List Value, ∀ r ∈ vs.filterMap OpenAi.sentReason,
      r ∈ vs.filterMap OpenAi.givenReason := by
    intro vs r hr
    obtain ⟨v, hv, hsent⟩ := List.mem_filterMap.mp hr
    exact List.mem_filterMap.mpr ⟨v, hv, OpenAi.givenReason_of_sent hsent⟩
  rw [CompatLoop.received_stream, hreasons]
  cases loop with
  | openai => exact OpenAi.named_iff (hgiven _)
  | generic => exact OpenAi.named_iff (hgiven _)

theorem anthropic_stream :
    Named (EndsFor (anthropic.streamCauses ((anthropic.machine text ids).values text input)))
        (reasons (received ((anthropic.machine text ids).stream text input))) ↔
      anthropic.StreamNamed (failure input).isSome
        ((anthropic.machine text ids).values text input) := by
  rw [StreamMachine.received_stream, StreamNamed]
  generalize (anthropic.machine text ids).values text input = vs
  have hemit : reasons (emit (anthropic.machine text ids).onValue
      (anthropic.machine text ids).init vs).2 = vs.filterMap Anthropic.sentReason :=
    Anthropic.reasons_emit ids "" vs
  have hfinish : (anthropic.machine text ids).finish (emit (anthropic.machine text ids).onValue
      (anthropic.machine text ids).init vs).1 = _ := Anthropic.finish_emit ids vs
  rw [reasons_append, hemit, hfinish]
  have hgiven : ∀ r ∈ vs.filterMap Anthropic.sentReason, r ∈ vs.filterMap Anthropic.givenReason :=
    fun r => Anthropic.mem_givenReason vs
  have hnamed := Anthropic.named_iff hgiven
  by_cases hfailed : (failure input).isSome
  · rw [if_pos hfailed]
    exact (iff_of_eq (congrArg (Named _) (List.append_nil _))).trans
      (hnamed.trans (and_iff_right (.inl hfailed)).symm)
  · rw [if_neg hfailed, or_iff_right hfailed]
    by_cases hsilent : ∀ v ∈ vs, (Anthropic.saidText v).getD "" = ""
    · rw [if_pos hsilent, and_iff_right hsilent]
      exact (iff_of_eq (congrArg (Named _) (List.append_nil _))).trans hnamed
    · rw [if_neg hsilent]
      apply iff_of_false _ fun h => hsilent h.1
      intro h
      have hend := h.known "end_turn" (List.mem_append_right _ List.mem_cons_self)
      exact absurd hend (by decide)

theorem google_stream :
    Named (EndsFor (google.streamCauses ((google.machine text ids).values text input)))
        (reasons (received ((google.machine text ids).stream text input))) ↔
      google.StreamNamed (failure input).isSome ((google.machine text ids).values text input) := by
  rw [StreamMachine.received_stream, StreamNamed, streamCauses,
    ← not_not (a := (failure input).isSome ∨ _)]
  apply Google.named_iff
  exact Google.mem_reasons ids (failure input).isSome _

theorem responses_stream :
    Named (EndsFor (responses.streamCauses ((responses.machine text ids).values text input)))
        (reasons (received ((responses.machine text ids).stream text input))) ↔
      responses.StreamNamed (failure input).isSome
        ((responses.machine text ids).values text input) := by
  rw [StreamMachine.received_stream, StreamNamed]
  generalize (responses.machine text ids).values text input = vs
  have hemit : reasons (emit (responses.machine text ids).onValue
      (responses.machine text ids).init vs).2 = (vs.filterMap Responses.completed).map _ :=
    Responses.reasons_emit ids {} vs
  have hfinish : (responses.machine text ids).finish (emit (responses.machine text ids).onValue
      (responses.machine text ids).init vs).1 = _ := Responses.finish_emit ids vs
  rw [reasons_append, hemit, hfinish]
  apply named_stop
  · intro r hr
    obtain hr | hr := List.mem_append.mp hr
    · obtain ⟨resp, -, rfl⟩ := List.mem_map.mp hr
      rfl
    · obtain ⟨c, hc, hreason⟩ := List.mem_filterMap.mp hr
      split at hc
      · cases hc
      · split at hc
        · cases hc
        · rw [List.mem_singleton.mp hc] at hreason
          exact (Option.some.inj hreason).symm
  · intro hends
    obtain ⟨c, hc, hnatural⟩ := hends.exists_mem
    cases hnatural
    obtain ⟨v, hv, hcause⟩ := List.mem_filterMap.mp hc
    obtain ⟨resp, hresp⟩ := Option.isSome_iff_exists.mp (Responses.completed_of_naturalEnd hcause)
    exact List.append_ne_nil_of_left_ne_nil
      (List.ne_nil_of_mem (List.mem_map_of_mem (List.mem_filterMap.mpr ⟨v, hv, hresp⟩))) _

end Streams

theorem stream_normalised (text : Json.Text) (clock : Nat → Int64) (ids : StreamId)
    (input : List (AppResult (List UInt8))) (adapter : SseAdapter) :
    Normalised (EndsFor (adapter.streamCauses ((adapter.machine text ids).values text input)))
        (sentReasons (Outbound.chunksToOpenai text clock
          (received ((adapter.machine text ids).stream text input)))) ↔
      adapter.StreamNamed (failure input).isSome
        ((adapter.machine text ids).values text input) := by
  rw [normalised_chunks]
  cases adapter with
  | openai => exact compat_stream text ids input .openai
  | anthropic => exact anthropic_stream text ids input
  | google => exact google_stream text ids input
  | generic => exact compat_stream text ids input .generic
  | responses => exact responses_stream text ids input

end SseAdapter

namespace KiroAdapter

variable (text : Json.Text)

theorem finishReason_complete {adapter : KiroAdapter} {sent : AppResult HttpAnswer}
    (h : adapter.complete text uuid req sent = some (.ok r)) : r.finishReason = some "stop" := by
  cases sent with
  | error e => cases h
  | ok answer =>
    rw [complete] at h
    split at h
    · cases h
    · split at h
      · cases h
      · cases h
      · cases h
        rfl

/-- A stream has the natural end for its only reason, once it is read to the end. -/
theorem reasons_pollFrom (ids : StreamId) (input : List (AppResult (List UInt8))) :
    reasons (received (pollFrom text ids [] ("", none) input).items) =
      if (Kiro.readEvents text [] (received input)).isSome ∧ failure input = none then ["stop"]
      else [] := by
  cases hread : Kiro.readEvents text [] (received input) with
  | none =>
    obtain ⟨out, hout, hnone⟩ := pollFrom_panic text ids ("", none) hread
    rw [hout, received_ok]
    exact reasons_eq_nil.mpr hnone
  | some p =>
    obtain ⟨events, left⟩ := p
    rw [pollFrom_eq text ids ("", none) hread]
    dsimp only
    rw [received_append, reasons_append,
      reasons_eq_nil.mpr (Kiro.finishReason_emit ids ("", none) events)]
    cases failure input <;> rfl

theorem named_singleton (ends : Cause → Prop) :
    Named ends ["stop"] ↔ ∀ c, ends c → c = .naturalEnd :=
  named_stop (fun _ hr => List.mem_singleton.mp hr) fun _ => List.cons_ne_nil _ _

theorem complete_normalised {adapter : KiroAdapter} {sent : AppResult HttpAnswer}
    (h : adapter.complete text uuid req sent = some (.ok r)) (created : Int64)
    (ends : Cause → Prop) :
    Normalised ends (sentReasons [Outbound.responseToOpenai text created r]) ↔
      ∀ c, ends c → c = .naturalEnd := by
  rw [normalised_response, finishReason_complete text h]
  exact named_singleton ends

theorem stream_normalised (clock : Nat → Int64) (ids : StreamId)
    (input : List (AppResult (List UInt8))) (ends : Cause → Prop) :
    Normalised ends (sentReasons (Outbound.chunksToOpenai text clock
        (received (pollFrom text ids [] ("", none) input).items))) ↔
      ∀ c, ends c → c = .naturalEnd ∧
        (Kiro.readEvents text [] (received input)).isSome ∧ failure input = none := by
  rw [normalised_chunks, reasons_pollFrom]
  split
  · next hread =>
    rw [named_singleton]
    simp only [hread, and_self, and_true]
  · next hread =>
    constructor
    · exact fun h c hc => absurd rfl (h.cause c hc).1
    · exact fun h => ⟨List.forall_mem_nil _, fun c hc => absurd (h c hc).2 hread⟩

end KiroAdapter

/-- Which finish reasons a client gets under the names of OpenAI, and under that of the cause that
the answer ended for: those of the answers and streams that are named, and those of Kiro where the
cause, whatever it is, is the natural end. -/
theorem reasons_normalised_iff (text : Json.Text) (created : Int64) (clock : Nat → Int64)
    (uuid providerId selectedModel : String) (ids : StreamId)
    (input : List (AppResult (List UInt8))) :
    (∀ (adapter : SseAdapter) v,
      ∃ r, adapter.response text uuid providerId selectedModel v = .ok r ∧
        (Normalised (EndsFor (adapter.answerCauses v))
            (sentReasons [Outbound.responseToOpenai text created r]) ↔
          adapter.AnswerNamed v)) ∧
    (∀ adapter : SseAdapter,
      Normalised
          (EndsFor (adapter.streamCauses ((adapter.machine text ids).values text input)))
          (sentReasons (Outbound.chunksToOpenai text clock
            (received ((adapter.machine text ids).stream text input)))) ↔
        adapter.StreamNamed (failure input).isSome
          ((adapter.machine text ids).values text input)) ∧
    (∀ (adapter : KiroAdapter) req sent r (ends : Cause → Prop),
      adapter.complete text uuid req sent = some (.ok r) →
        (Normalised ends (sentReasons [Outbound.responseToOpenai text created r]) ↔
          ∀ c, ends c → c = .naturalEnd)) ∧
    (∀ ends : Cause → Prop,
      Normalised ends (sentReasons (Outbound.chunksToOpenai text clock
          (received (KiroAdapter.pollFrom text ids [] ("", none) input).items))) ↔
        ∀ c, ends c → c = .naturalEnd ∧
          (Kiro.readEvents text [] (received input)).isSome ∧ failure input = none) := by
  refine ⟨?_, ?_, ?_, ?_⟩
  · exact fun adapter v =>
      adapter.answer_normalised text created uuid providerId selectedModel v
  · exact SseAdapter.stream_normalised text clock ids input
  · exact fun adapter req sent r ends h =>
      KiroAdapter.complete_normalised text h created ends
  · exact KiroAdapter.stream_normalised text clock ids input

def Google.stopAnswer : Value :=
  .object
    [("candidates", .array
      [.object
        [("content", .object [("parts", .array [.object [("text", .string "hi")]])]),
          ("finishReason", .string "STOP")]])]

theorem reasons_normalised_iff_sample :
    ∃ r, SseAdapter.google.response sampleText "1" "google" "gemini" Google.stopAnswer = .ok r ∧
      Normalised (EndsFor (SseAdapter.google.answerCauses Google.stopAnswer))
        (sentReasons [Outbound.responseToOpenai sampleText 0 r]) := by
  obtain ⟨r, hr, hiff⟩ := (reasons_normalised_iff sampleText 0 (fun _ => 0) "1" "google" "gemini"
    ⟨"m", "gemini"⟩ []).1 .google Google.stopAnswer
  refine ⟨r, hr, hiff.mpr ?_⟩
  intro reason hreason
  cases hreason
  decide

/-- Two answers with a natural end. The client of one is told so under a name that it does not
know, and not under the name that the other has. -/
theorem natural_ends_differ :
    SseAdapter.anthropic.answerCauses Anthropic.greetingDocument = [some .naturalEnd] ∧
    SseAdapter.google.answerCauses Google.stopAnswer = [some .naturalEnd] ∧
    (∃ r, SseAdapter.anthropic.response sampleText "1" "anthropic" "claude"
        Anthropic.greetingDocument = .ok r ∧
      sentReasons [Outbound.responseToOpenai sampleText 0 r] = [.string "end_turn"]) ∧
    (∃ r, SseAdapter.google.response sampleText "1" "google" "gemini" Google.stopAnswer = .ok r ∧
      sentReasons [Outbound.responseToOpenai sampleText 0 r] = [.string "stop"]) ∧
    ¬ Normalised (EndsFor (SseAdapter.anthropic.answerCauses Anthropic.greetingDocument))
      [.string "end_turn"] := by
  refine ⟨by decide, by decide, ⟨_, rfl, rfl⟩, ⟨_, rfl, rfl⟩, ?_⟩
  intro h
  obtain hnull | ⟨r, hr, heq⟩ := h.known _ List.mem_cons_self
  · cases hnull
  · cases heq
    exact absurd hr (by decide)

end TokenDealer
