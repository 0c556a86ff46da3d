import TokenDealer.Outbound

set_option autoImplicit true

namespace TokenDealer

open Json

/-- The prompt and the completion tokens of a usage, its cache left out. -/
def Usage.counts (u : Usage) : UInt32 × UInt32 := (u.inputTokens, u.outputTokens)

/-- A chunk says what another one says, up to its model and the tokens of a cache. -/
structure CanonicalChunk.Same (c d : CanonicalChunk) : Prop where
  id : d.id = c.id
  text : d.delta.text = c.delta.text
  toolUse : d.delta.toolUse = c.delta.toolUse
  finishReason : d.finishReason = c.finishReason
  usage : d.usage.map Usage.counts = c.usage.map Usage.counts

namespace Outbound

variable (text : Json.Text)

theorem chunkToolCall_congr (h : Value.Agrees v w) :
    OpenAi.chunkToolCall text v = OpenAi.chunkToolCall text w := by
  have hfunction : ∀ key, ((v.get "function").bind fun f => f.getStr key) =
      (w.get "function").bind fun f => f.getStr key :=
    fun key => Value.Agrees.bind_eq (h.get "function") fun hf => hf.getStr key
  rw [OpenAi.chunkToolCall, OpenAi.chunkToolCall, h.getStr, hfunction, hfunction]

/-- A chunk is read by lookups alone. -/
theorem parseChunk_congr {readUsage : Value → Usage}
    (husage : ∀ {v w}, Value.Agrees v w → readUsage v = readUsage w) (h : Value.Agrees v w)
    (modelId : String) :
    OpenAi.parseChunk text readUsage v modelId = OpenAi.parseChunk text readUsage w modelId := by
  have hchoice : Option.Rel Value.Agrees (OpenAi.firstChoice v) (OpenAi.firstChoice w) :=
    Value.Agrees.head? (h.get "choices")
  apply Value.Agrees.bind_eq hchoice
  intro choice choice' hchoice
  apply Value.Agrees.bind_eq (hchoice.get "delta")
  intro delta delta' hdelta
  have hcalls := Value.Agrees.map_eq (Value.Agrees.head? (hdelta.get "tool_calls"))
    (chunkToolCall_congr text)
  rw [h.getStr, hdelta.getStr, hcalls, hchoice.getStr, Value.Agrees.map_eq (h.get "usage") husage]

theorem parseOpenaiUsage_congr (h : Value.Agrees v w) :
    OpenAi.parseOpenaiUsage v = OpenAi.parseOpenaiUsage w := by
  have hcached : ((v.get "prompt_tokens_details").bind fun d => d.get "cached_tokens").bind
        Value.asU64 =
      ((w.get "prompt_tokens_details").bind fun d => d.get "cached_tokens").bind Value.asU64 := by
    rw [Option.bind_assoc, Option.bind_assoc]
    apply Value.Agrees.bind_eq (h.get "prompt_tokens_details")
    intro d e hdetails
    exact Value.Agrees.bind_eq (hdetails.get "cached_tokens") Value.Agrees.asU64
  rw [OpenAi.parseOpenaiUsage, OpenAi.parseOpenaiUsage, h.getCount, h.getCount, hcached]

/-- Arguments that are written into a chunk and read from it. -/
def readBack (arguments : Value) : Value := (text.parse (text.print arguments)).getD .null

/-- A chunk as the adapter of a proxy in front reads it. -/
def relayed (modelId : String) (c : CanonicalChunk) : CanonicalChunk where
  id := c.id
  model := modelId
  delta :=
    { text := c.delta.text
      toolUse := c.delta.toolUse.map fun call =>
        { call with arguments := readBack text call.arguments } }
  finishReason := c.finishReason
  usage := some
    { inputTokens := (c.usage.map Usage.inputTokens).getD 0
      outputTokens := (c.usage.map Usage.outputTokens).getD 0 }

theorem parseOpenaiUsage_chunkUsage (usage : Option Usage) :
    OpenAi.parseOpenaiUsage (.ofOption chunkUsage usage) =
      { inputTokens := (usage.map Usage.inputTokens).getD 0
        outputTokens := (usage.map Usage.outputTokens).getD 0 } := by
  cases usage with
  | none => rfl
  | some u =>
    have hinput : (chunkUsage u).getCount "prompt_tokens" = u.inputTokens := getCount_ofU32 rfl
    have houtput : (chunkUsage u).getCount "completion_tokens" = u.outputTokens :=
      getCount_ofU32 rfl
    simp only [Value.ofOption, OpenAi.parseOpenaiUsage, hinput, houtput]
    rfl

theorem chunkToolCall_relayed (call : CanonicalToolCall) :
    OpenAi.chunkToolCall text (chunkToolCall text call) =
      { call with arguments := readBack text call.arguments } := rfl

/-- What is read from a chunk that was written: its usage is there in any case. -/
theorem parseOpenaiChunk_chunkToOpenai (created : Int64) (c : CanonicalChunk)
    (modelId : String) :
    (chunkToOpenai text created c).bind (OpenAi.parseOpenaiChunk text · modelId) =
      some (relayed text modelId c) := by
  have hcalls : (((Value.ofOption (fun call => .array [chunkToolCall text call])
      c.delta.toolUse).asArray).bind List.head?).map (OpenAi.chunkToolCall text) =
      c.delta.toolUse.map fun call =>
        { call with arguments := readBack text call.arguments } := by
    cases c.delta.toolUse with
    | none => rfl
    | some call => exact congrArg some (chunkToolCall_relayed text call)
  have hread : (chunkToOpenai text created c).bind (OpenAi.parseOpenaiChunk text · modelId) =
      some
        { id := c.id
          model := modelId
          delta :=
            { text := (Value.ofOption .string c.delta.text).asStr
              toolUse := (((Value.ofOption (fun call => .array [chunkToolCall text call])
                c.delta.toolUse).asArray).bind List.head?).map (OpenAi.chunkToolCall text) }
          finishReason := (Value.ofOption .string c.finishReason).asStr
          usage := some (OpenAi.parseOpenaiUsage (.ofOption chunkUsage c.usage)) } := rfl
  rw [hread, asStr_ofOption, asStr_ofOption, hcalls, parseOpenaiUsage_chunkUsage, relayed]

/-- A chunk survives being written and read exactly if it has usage, and its tool call has arguments
that are read as they were printed. Whether it has usage is lost in any case. -/
theorem chunk_round_trip_iff (created : Int64) (c : CanonicalChunk) (modelId : String) :
    (∃ v d, chunkToOpenai text created c = some v ∧
      OpenAi.parseOpenaiChunk text v modelId = some d ∧ c.Same d) ↔
    c.usage.isSome ∧
      ∀ call, c.delta.toolUse = some call → readBack text call.arguments = call.arguments := by
  have hread := parseOpenaiChunk_chunkToOpenai text created c modelId
  constructor
  · intro h
    obtain ⟨v, d, hv, hd, hsame⟩ := h
    rw [hv, Option.bind_some, hd] at hread
    cases hread
    constructor
    · have hcounts := hsame.usage
      cases husage : c.usage with
      | none =>
        rw [husage] at hcounts
        cases hcounts
      | some u => rfl
    · intro call hcall
      have hcalls := hsame.toolUse
      rw [relayed, hcall, Option.map_some] at hcalls
      exact congrArg CanonicalToolCall.arguments (Option.some.inj hcalls)
  · intro h
    obtain ⟨husage, hcalls⟩ := h
    refine ⟨_, relayed text modelId c, rfl, hread, rfl, rfl, ?_, rfl, ?_⟩
    · cases hcall : c.delta.toolUse with
      | none => rw [relayed, hcall, Option.map_none]
      | some call => rw [relayed, hcall, Option.map_some, hcalls call hcall]
    · obtain ⟨u, hu⟩ := Option.isSome_iff_exists.mp husage
      rw [relayed, hu]
      rfl

def textChunk : CanonicalChunk where
  id := "m"
  model := "gpt-4o"
  delta := { text := some "hi" }
  finishReason := none
  usage := none

/-- A chunk of text comes back with a usage of no tokens. -/
theorem text_chunk_gains_usage :
    ∃ v d, chunkToOpenai sampleText 0 textChunk = some v ∧
      OpenAi.parseOpenaiChunk sampleText v "gpt-4o" = some d ∧
      d.usage = some { inputTokens := 0, outputTokens := 0 } ∧ ¬ textChunk.Same d := by
  refine ⟨_, relayed sampleText "gpt-4o" textChunk, rfl,
    parseOpenaiChunk_chunkToOpenai sampleText 0 textChunk "gpt-4o", rfl, ?_⟩
  intro h
  cases h.usage

end Outbound

end TokenDealer
