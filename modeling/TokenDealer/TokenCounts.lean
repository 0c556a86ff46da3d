import TokenDealer.Completion
import TokenDealer.Outbound
import TokenDealer.StreamReasons
import TokenDealer.StreamedUsage

set_option autoImplicit true

namespace TokenDealer

open Json Incremental

/-- A usage object with two counts of 64 bits, under the names a service gives them. -/
structure HasCounts (u : Value) (input output : String) (prompt completion : UInt64) : Prop where
  input : (u.get input).bind Value.asU64 = some prompt
  output : (u.get output).bind Value.asU64 = some completion

/-- An answer to the client whose usage has these counts and their sum. -/
def ReportsExactly (sent : Value) (prompt completion : UInt64) : Prop :=
  ∃ u, sent.get "usage" = some u ∧
    ((u.get "prompt_tokens").bind Value.asU64).map UInt64.toNat = some prompt.toNat ∧
    ((u.get "completion_tokens").bind Value.asU64).map UInt64.toNat = some completion.toNat ∧
    ((u.get "total_tokens").bind Value.asU64).map UInt64.toNat =
      some (prompt.toNat + completion.toNat)

/-- The counts have a sum of 32 bits. -/
def CountsFit (prompt completion : UInt64) : Prop := prompt.toNat + completion.toNat < 2 ^ 32

/-- The usage of an answer within the gateway has these counts, and their sum does not wrap. -/
def Usage.IsExact (usage : Usage) (prompt completion : UInt64) : Prop :=
  usage.inputTokens.toNat = prompt.toNat ∧ usage.outputTokens.toNat = completion.toNat ∧
    (usage.inputTokens + usage.outputTokens).toNat = prompt.toNat + completion.toNat

/-- The chunk tells the client these counts. -/
def SendsExactly (text : Json.Text) (created : Int64) (chunk : CanonicalChunk)
    (prompt completion : UInt64) : Prop :=
  ∃ sent, Outbound.chunkToOpenai text created chunk = some sent ∧
    ReportsExactly sent prompt completion

section Figures

variable {prompt completion : UInt64}

theorem Usage.IsExact.fits {usage : Usage} (h : usage.IsExact prompt completion) :
    CountsFit prompt completion := by
  rw [CountsFit, ← h.2.2]
  exact UInt32.toNat_lt _

/-- Counts that were cut to 32 bits are exact when they fit together. -/
theorem Usage.isExact_iff {usage : Usage} (hinput : usage.inputTokens = prompt.toUInt32)
    (houtput : usage.outputTokens = completion.toUInt32) :
    usage.IsExact prompt completion ↔ CountsFit prompt completion := by
  constructor
  · exact IsExact.fits
  · intro h
    unfold CountsFit at h
    have hprompt : usage.inputTokens.toNat = prompt.toNat := by
      rw [hinput, UInt64.toNat_toUInt32]
      exact Nat.mod_eq_of_lt (by omega)
    have hcompletion : usage.outputTokens.toNat = completion.toNat := by
      rw [houtput, UInt64.toNat_toUInt32]
      exact Nat.mod_eq_of_lt (by omega)
    refine ⟨hprompt, hcompletion, ?_⟩
    rw [UInt32.toNat_add, hprompt, hcompletion]
    exact Nat.mod_eq_of_lt h

theorem toNat_ofU32 (n : UInt32) : ((Value.ofU32 n).asU64).map UInt64.toNat = some n.toNat := by
  rw [Value.asU64_ofU32, Option.map_some, UInt32.toNat_toUInt64]

theorem reportsExactly_response (text : Json.Text) (created : Int64) (resp : CanonicalResponse) :
    ReportsExactly (Outbound.responseToOpenai text created resp) prompt completion ↔
      resp.usage.IsExact prompt completion := by
  have husage : (Outbound.responseToOpenai text created resp).get "usage" =
      some (Outbound.usageToOpenai resp.usage) := rfl
  have hprompt : ((Outbound.usageToOpenai resp.usage).get "prompt_tokens") =
      some (.ofU32 resp.usage.inputTokens) := rfl
  have hcompletion : ((Outbound.usageToOpenai resp.usage).get "completion_tokens") =
      some (.ofU32 resp.usage.outputTokens) := rfl
  have htotal : ((Outbound.usageToOpenai resp.usage).get "total_tokens") =
      some (.ofU32 (resp.usage.inputTokens + resp.usage.outputTokens)) := rfl
  simp only [ReportsExactly, husage, Option.some.injEq, exists_eq_left', hprompt, hcompletion,
    htotal, Option.bind_some, toNat_ofU32, Usage.IsExact]

theorem sendsExactly_iff (text : Json.Text) (created : Int64) (chunk : CanonicalChunk) :
    SendsExactly text created chunk prompt completion ↔
      ∃ usage, chunk.usage = some usage ∧ usage.IsExact prompt completion := by
  have hsent : ∀ sent, Outbound.chunkToOpenai text created chunk = some sent →
      sent.get "usage" = some (.ofOption Outbound.chunkUsage chunk.usage) := by
    rintro _ ⟨⟩
    rfl
  have hchunk : (Outbound.chunkToOpenai text created chunk).isSome := rfl
  obtain ⟨sent, heq⟩ := Option.isSome_iff_exists.mp hchunk
  have husage := hsent sent heq
  simp only [SendsExactly, heq, Option.some.injEq, exists_eq_left', ReportsExactly, husage]
  cases chunk.usage with
  | none =>
    constructor
    · rintro ⟨hprompt, -⟩
      cases hprompt
    · rintro ⟨usage, husage, -⟩
      cases husage
  | some usage =>
    have hprompt : ((Outbound.chunkUsage usage).get "prompt_tokens") =
        some (.ofU32 usage.inputTokens) := rfl
    have hcompletion : ((Outbound.chunkUsage usage).get "completion_tokens") =
        some (.ofU32 usage.outputTokens) := rfl
    have htotal : ((Outbound.chunkUsage usage).get "total_tokens") =
        some (.ofU32 (usage.inputTokens + usage.outputTokens)) := rfl
    simp only [Value.ofOption, hprompt, hcompletion, htotal, Option.bind_some, toNat_ofU32,
      Option.some.injEq, exists_eq_left', Usage.IsExact]

theorem HasCounts.getCount_input {input output : String}
    (h : HasCounts u input output prompt completion) : u.getCount input = prompt.toUInt32 := by
  rw [Value.getCount, h.input, Option.getD_some]

theorem HasCounts.getCount_output {input output : String}
    (h : HasCounts u input output prompt completion) : u.getCount output = completion.toUInt32 := by
  rw [Value.getCount, h.output, Option.getD_some]

end Figures

section Exactness

variable (text : Json.Text) (created : Int64) {u v : Value} {prompt completion : UInt64}

/-- A response whose counts were read from a usage object. -/
theorem response_exact_iff {input output : String}
    (hcounts : HasCounts u input output prompt completion) {resp : CanonicalResponse}
    (hinput : resp.usage.inputTokens = u.getCount input)
    (houtput : resp.usage.outputTokens = u.getCount output) :
    ReportsExactly (Outbound.responseToOpenai text created resp) prompt completion ↔
      CountsFit prompt completion := by
  rw [reportsExactly_response]
  apply Usage.isExact_iff
  · rw [hinput, hcounts.getCount_input]
  · rw [houtput, hcounts.getCount_output]

/-- Whatever a chunk says exactly fits. -/
theorem SendsExactly.fits {chunk : CanonicalChunk}
    (h : SendsExactly text created chunk prompt completion) : CountsFit prompt completion := by
  obtain ⟨usage, -, hexact⟩ := (sendsExactly_iff text created chunk).mp h
  exact hexact.fits

theorem sendsExactly_of_fits {input output : String}
    (hcounts : HasCounts u input output prompt completion) (hfits : CountsFit prompt completion)
    {chunk : CanonicalChunk} {usage : Usage} (husage : chunk.usage = some usage)
    (hinput : usage.inputTokens = u.getCount input)
    (houtput : usage.outputTokens = u.getCount output) :
    SendsExactly text created chunk prompt completion := by
  refine (sendsExactly_iff text created chunk).mpr ⟨usage, husage, ?_⟩
  apply (Usage.isExact_iff _ _).mpr hfits
  · rw [hinput, hcounts.getCount_input]
  · rw [houtput, hcounts.getCount_output]

theorem OpenAi.chunk_exact_iff (husage : v.get "usage" = some u)
    (hcounts : HasCounts u "prompt_tokens" "completion_tokens" prompt completion)
    (modelId : String) :
    (∃ chunk, parseOpenaiChunk text v modelId = some chunk ∧
      SendsExactly text created chunk prompt completion) ↔
      HasDelta v ∧ CountsFit prompt completion := by
  constructor
  · rintro ⟨chunk, hchunk, hexact⟩
    obtain ⟨choice, hchoice, hchunk⟩ := Option.bind_eq_some_iff.mp hchunk
    obtain ⟨delta, hdelta, -⟩ := Option.bind_eq_some_iff.mp hchunk
    exact ⟨⟨choice, hchoice, Option.isSome_of_eq_some hdelta⟩, hexact.fits⟩
  · rintro ⟨⟨choice, hchoice, hdelta⟩, hfits⟩
    obtain ⟨delta, hdelta⟩ := Option.isSome_iff_exists.mp hdelta
    refine ⟨_, Option.bind_eq_some_iff.mpr ⟨choice, hchoice,
      Option.bind_eq_some_iff.mpr ⟨delta, hdelta, rfl⟩⟩, ?_⟩
    exact sendsExactly_of_fits text created hcounts hfits
      (congrArg (Option.map parseOpenaiUsage) husage) rfl rfl

/-- The last usage of a stream of Anthropic's is sent without the tokens of the prompt. -/
theorem Anthropic.chunk_exact_iff (htype : v.getStr "type" = some "message_delta")
    (husage : v.get "usage" = some u)
    (hcounts : HasCounts u "input_tokens" "output_tokens" prompt completion) (ids : StreamId)
    (s : String) :
    (∃ chunk ∈ (onValue ids s v).2, SendsExactly text created chunk prompt completion) ↔
      prompt = 0 ∧ CountsFit prompt completion := by
  have hchunks : (onValue ids s v).2 =
      [ids.endChunk ((v.get "delta").bind fun d => d.getStr "stop_reason")
        (some { outputTokens := u.getCount "output_tokens" })] := by
    rw [onValue, htype]
    simp only [if_neg (show ¬ "message_delta" = "content_block_delta" by decide), if_true, husage]
  rw [hchunks]
  simp only [List.mem_singleton, exists_eq_left, sendsExactly_iff, StreamId.endChunk,
    Option.some.injEq, exists_eq_left']
  constructor
  · intro hexact
    have hprompt : (0 : UInt32).toNat = prompt.toNat := hexact.1
    exact ⟨UInt64.toNat_inj.mp hprompt.symm, hexact.fits⟩
  · rintro ⟨rfl, hfits⟩
    exact (Usage.isExact_iff rfl hcounts.getCount_output).mpr hfits

/-- The usage that was given last is the one a stream of Google's has at its end. -/
theorem Google.emit_givenUsage (ids : StreamId) (s : Option Usage) (before after : List Value)
    (hgiven : givenUsage v = some usage) (hafter : ∀ w ∈ after, givenUsage w = none) :
    (emit (onValue ids) s (before ++ v :: after)).1 = some usage := by
  have hkept : ∀ vs : List Value, (∀ w ∈ vs, givenUsage w = none) →
      (emit (onValue ids) (some usage) vs).1 = some usage := by
    intro vs
    induction vs with
    | nil => exact fun _ => rfl
    | cons w vs ih =>
      intro h
      obtain ⟨hw, hrest⟩ := List.forall_mem_cons.mp h
      have hstate : (onValue ids (some usage) w).1 = some usage := by rw [onValue_eq, hw]; rfl
      simp only [emit]
      rw [hstate]
      exact ih hrest
  have hstep : ∀ s, (onValue ids s v).1 = some usage := by
    intro s
    rw [onValue_eq, hgiven]
    rfl
  rw [emit_append]
  simp only [emit]
  rw [hstep]
  exact hkept after hafter

/-- The last usage of a stream of Google's is sent when the stream ends. -/
theorem Google.stream_exact_iff (ids : StreamId) {input : List (AppResult (List UInt8))}
    (hvalues : (machine ids).values text input = before ++ v :: after)
    (hend : failure input = none) (husage : v.get "usageMetadata" = some u)
    (hafter : ∀ w ∈ after, w.get "usageMetadata" = none)
    (hcounts : HasCounts u "promptTokenCount" "candidatesTokenCount" prompt completion) :
    (∃ chunk, .ok chunk ∈ (machine ids).stream text input ∧
      SendsExactly text created chunk prompt completion) ↔ CountsFit prompt completion := by
  constructor
  · rintro ⟨chunk, -, hexact⟩
    exact hexact.fits
  · intro hfits
    have hgiven : givenUsage v =
        some (readUsage "promptTokenCount" "candidatesTokenCount" u) :=
      congrArg (Option.map _) husage
    have hlater : ∀ w ∈ after, givenUsage w = none := fun w hw =>
      congrArg (Option.map _) (hafter w hw)
    have hstate := Google.emit_givenUsage ids none before after hgiven hlater
    have hfinish : (machine ids).finish
        (emit (machine ids).onValue (machine ids).init ((machine ids).values text input)).1 =
        [ids.endChunk (some "stop")
          (some (readUsage "promptTokenCount" "candidatesTokenCount" u))] := by
      rw [hvalues]
      exact congrArg (machine ids).finish hstate
    refine ⟨ids.endChunk (some "stop")
      (some (readUsage "promptTokenCount" "candidatesTokenCount" u)), ?_, ?_⟩
    · rw [StreamMachine.stream_values, hend]
      apply List.mem_append_right
      simp only
      rw [hfinish]
      exact List.mem_singleton_self _
    · exact sendsExactly_of_fits text created hcounts hfits rfl rfl rfl

/-- The counts of an answer are exact exactly when their sum has 32 bits: beyond that they are cut
off or their sum wraps. A chunk without a delta is not sent at all, and the end of a stream of
Anthropic's has no tokens for the prompt. -/
theorem counts_exact_iff (text : Json.Text) (created : Int64) (prompt completion : UInt64)
    (u : Value) :
    (HasCounts u "prompt_tokens" "completion_tokens" prompt completion →
      ∀ v, v.get "usage" = some u →
        (∀ providerId, ∃ resp, OpenAi.parseOpenaiResponse text v providerId = .ok resp ∧
          (ReportsExactly (Outbound.responseToOpenai text created resp) prompt completion ↔
            CountsFit prompt completion)) ∧
        ∀ modelId, (∃ chunk, OpenAi.parseOpenaiChunk text v modelId = some chunk ∧
          SendsExactly text created chunk prompt completion) ↔
            HasDelta v ∧ CountsFit prompt completion) ∧
    (HasCounts u "input_tokens" "output_tokens" prompt completion →
      ∀ v, v.get "usage" = some u →
        (∀ providerId, ∃ resp, Anthropic.parseAnthropicResponse v providerId = .ok resp ∧
          (ReportsExactly (Outbound.responseToOpenai text created resp) prompt completion ↔
            CountsFit prompt completion)) ∧
        (v.getStr "type" = some "message_delta" → ∀ ids s,
          (∃ chunk ∈ (Anthropic.onValue ids s v).2,
            SendsExactly text created chunk prompt completion) ↔
              prompt = 0 ∧ CountsFit prompt completion)) ∧
    (HasCounts u "promptTokenCount" "candidatesTokenCount" prompt completion →
      ∀ v, v.get "usageMetadata" = some u →
        (∀ uuid providerId fallbackModel,
          ∃ resp, Google.parseGoogleResponse uuid v providerId fallbackModel = .ok resp ∧
            (ReportsExactly (Outbound.responseToOpenai text created resp) prompt completion ↔
              CountsFit prompt completion)) ∧
        ∀ (ids : StreamId) input before after,
          (Google.machine ids).values text input = before ++ v :: after → failure input = none →
          (∀ w ∈ after, w.get "usageMetadata" = none) →
            ((∃ chunk, .ok chunk ∈ (Google.machine ids).stream text input ∧
              SendsExactly text created chunk prompt completion) ↔
                CountsFit prompt completion)) := by
  refine ⟨?_, ?_, ?_⟩
  · intro hcounts v husage
    constructor
    · intro providerId
      refine ⟨_, rfl, response_exact_iff text created hcounts ?_ ?_⟩
      · rw [husage]
        rfl
      · rw [husage]
        rfl
    · exact OpenAi.chunk_exact_iff text created husage hcounts
  · intro hcounts v husage
    constructor
    · intro providerId
      refine ⟨_, rfl, response_exact_iff text created hcounts ?_ ?_⟩
      · rw [husage]
        rfl
      · rw [husage]
        rfl
    · exact fun htype ids s =>
        Anthropic.chunk_exact_iff text created htype husage hcounts ids s
  · intro hcounts v husage
    constructor
    · intro uuid providerId fallbackModel
      refine ⟨_, rfl, response_exact_iff text created hcounts ?_ ?_⟩
      · rw [husage]
        rfl
      · rw [husage]
        rfl
    · exact fun ids input before after hvalues hend hafter =>
        Google.stream_exact_iff text created ids hvalues hend husage hafter hcounts

/-- Two counts of 32 bits whose sum has 33. -/
def longUsage : Value :=
  .object [("prompt_tokens", .ofU32 3000000000), ("completion_tokens", .ofU32 2000000000)]

theorem total_wraps :
    ¬ ∀ (text : Json.Text) (created : Int64) (v u : Value) (providerId : String)
      (prompt completion : UInt64), v.get "usage" = some u →
      HasCounts u "prompt_tokens" "completion_tokens" prompt completion →
      ∃ resp, OpenAi.parseOpenaiResponse text v providerId = .ok resp ∧
        ReportsExactly (Outbound.responseToOpenai text created resp) prompt completion := by
  intro h
  obtain ⟨resp, hresp, u, husage, -, -, htotal⟩ := h sampleText 0
    (.object [("usage", longUsage)]) longUsage "openai" 3000000000 2000000000 rfl ⟨rfl, rfl⟩
  cases hresp
  cases husage
  have hwrapped : some 705032704 = some 5000000000 := htotal
  exact absurd hwrapped (by decide)

end Exactness

end TokenDealer
