import TokenDealer.CompatAgreement
import TokenDealer.SseEvents

set_option autoImplicit true

namespace TokenDealer

open Json

/-- An event that carries a usage object with these counts of tokens. -/
def CarriesUsage (v : Value) (prompt completion : UInt64) : Prop :=
  ∃ u, v.get "usage" = some u ∧ (u.get "prompt_tokens").bind Value.asU64 = some prompt ∧
    (u.get "completion_tokens").bind Value.asU64 = some completion

/-- A chunk that reports these counts of tokens. -/
def CanonicalChunk.Reports (c : CanonicalChunk) (prompt completion : UInt64) : Prop :=
  ∃ u, c.usage = some u ∧ u.inputTokens.toNat = prompt.toNat ∧
    u.outputTokens.toNat = completion.toNat

/-- An event whose first choice has a delta. -/
def HasDelta (v : Value) : Prop :=
  ∃ choice, OpenAi.firstChoice v = some choice ∧ (choice.get "delta").isSome

/-- A usage whose counts are read as these, in 32 bits. -/
def ReadsAs (v : Value) (prompt completion : UInt64) : Prop :=
  ∃ u, v.get "usage" = some u ∧ (u.getCount "prompt_tokens").toNat = prompt.toNat ∧
    (u.getCount "completion_tokens").toNat = completion.toNat

namespace CompatLoop

variable (text : Json.Text) (ids : StreamId)

theorem parseChunk_reports (readUsage : Value → Usage)
    (hinput : ∀ u, (readUsage u).inputTokens = u.getCount "prompt_tokens")
    (houtput : ∀ u, (readUsage u).outputTokens = u.getCount "completion_tokens") (v : Value)
    (modelId : String) (prompt completion : UInt64) :
    (∃ c, OpenAi.parseChunk text readUsage v modelId = some c ∧ c.Reports prompt completion) ↔
      HasDelta v ∧ ReadsAs v prompt completion := by
  constructor
  · intro h
    obtain ⟨c, hc, u, husage, hprompt, hcompletion⟩ := h
    obtain ⟨choice, hchoice, hc⟩ := Option.bind_eq_some_iff.mp hc
    obtain ⟨delta, hdelta, hc⟩ := Option.bind_eq_some_iff.mp hc
    cases hc
    obtain ⟨v', hv', rfl⟩ := Option.map_eq_some_iff.mp husage
    rw [hinput] at hprompt
    rw [houtput] at hcompletion
    exact ⟨⟨choice, hchoice, Option.isSome_of_eq_some hdelta⟩, v', hv', hprompt, hcompletion⟩
  · intro h
    obtain ⟨⟨choice, hchoice, hdelta⟩, v', hv', hprompt, hcompletion⟩ := h
    obtain ⟨delta, hdelta⟩ := Option.isSome_iff_exists.mp hdelta
    refine ⟨_, Option.bind_eq_some_iff.mpr ⟨choice, hchoice,
      Option.bind_eq_some_iff.mpr ⟨delta, hdelta, rfl⟩⟩, readUsage v', ?_, ?_, ?_⟩
    · exact congrArg (Option.map readUsage) hv'
    · rw [hinput, hprompt]
    · rw [houtput, hcompletion]

theorem chunk_reports (loop : CompatLoop) (v : Value) (prompt completion : UInt64) :
    (∃ c, loop.chunk text ids v = some c ∧ c.Reports prompt completion) ↔
      HasDelta v ∧ ReadsAs v prompt completion := by
  have hmap := loop.map_chunk text ids (f := CanonicalChunk.usage) (fun _ _ => rfl) v
  have hinput : ∀ u, (loop.readUsage u).inputTokens = u.getCount "prompt_tokens" := by
    intro u
    cases loop <;> rfl
  have houtput : ∀ u, (loop.readUsage u).outputTokens = u.getCount "completion_tokens" := by
    intro u
    cases loop <;> rfl
  have hreports : ∀ o : Option CanonicalChunk,
      (∃ c, o = some c ∧ c.Reports prompt completion) ↔
        ∃ u, (o.map CanonicalChunk.usage).join = some u ∧ u.inputTokens.toNat = prompt.toNat ∧
          u.outputTokens.toNat = completion.toNat := by
    intro o
    cases o with
    | none => simp
    | some c =>
      simp only [Option.some.injEq, exists_eq_left']
      exact Iff.rfl
  rw [hreports, hmap, ← hreports]
  exact parseChunk_reports text loop.readUsage hinput houtput v ids.modelId prompt completion

/-- The usage of a stream gets through exactly if its counts are read, in 32 bits, from some event
whose first choice has a delta. An event without a choice loses its usage. -/
theorem usage_kept_iff (loop : CompatLoop) (input : List (AppResult (List UInt8))) :
    (∀ v ∈ (loop.machine text ids).values text input, ∀ prompt completion,
      CarriesUsage v prompt completion →
        ∃ c, .ok c ∈ (loop.machine text ids).stream text input ∧
          c.Reports prompt completion) ↔
    ∀ v ∈ (loop.machine text ids).values text input, ∀ prompt completion,
      CarriesUsage v prompt completion →
        ∃ w ∈ (loop.machine text ids).values text input,
          HasDelta w ∧ ReadsAs w prompt completion := by
  apply forall₂_congr
  intro v _
  apply forall₃_congr
  intro prompt completion _
  simp only [mem_stream, ← chunk_reports text ids loop]
  constructor
  · intro h
    obtain ⟨c, ⟨w, hw, hc⟩, hreports⟩ := h
    exact ⟨w, hw, c, hc, hreports⟩
  · intro h
    obtain ⟨w, hw, c, hc, hreports⟩ := h
    exact ⟨c, ⟨w, hw, hc⟩, hreports⟩

def usageSource : String :=
  "\x7b\"choices\":[],\"usage\":\x7b\"prompt_tokens\":7,\"completion_tokens\":2\x7d\x7d"

/-- The last event of a stream, which has usage but no choice. -/
def usageEvent : Value :=
  .object
    [("choices", .array []),
      ("usage", .object [("prompt_tokens", .ofU32 7), ("completion_tokens", .ofU32 2)])]

def usageText : Json.Text := .knowing (fun _ => usageSource) [(usageSource, usageEvent)]

theorem usage_lost :
    ∃ v ∈ (openai.machine usageText sampleIds).values usageText [.ok (streamBytes [usageSource])],
      CarriesUsage v 7 2 ∧
      ¬ ∃ c, .ok c ∈ (openai.machine usageText sampleIds).stream usageText
          [.ok (streamBytes [usageSource])] ∧ c.Reports 7 2 := by
  have hvalues : (openai.machine usageText sampleIds).values usageText
      [.ok (streamBytes [usageSource])] = [usageEvent] := by
    apply (openai.machine usageText sampleIds).values_known
    · decide
    · exact List.forall_mem_singleton.mpr (.of_chars rfl (by decide) (by decide))
    · exact List.forall_mem_singleton.mpr (by decide)
  rw [hvalues]
  refine ⟨usageEvent, List.mem_singleton_self _, ⟨_, rfl, rfl, rfl⟩, ?_⟩
  intro h
  obtain ⟨c, hc, -⟩ := h
  obtain ⟨v, hv, hchunk⟩ := (mem_stream usageText sampleIds openai _ c).mp hc
  rw [hvalues] at hv
  rw [List.mem_singleton.mp hv] at hchunk
  cases hchunk

end CompatLoop

end TokenDealer
