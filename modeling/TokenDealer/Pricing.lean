import TokenDealer.Double
import TokenDealer.Manifest
import TokenDealer.UserTables

set_option autoImplicit true

namespace TokenDealer

/-- A column that may not be null holds a number. -/
structure PriceRow where
  modelId : String
  inputPer1k : Double
  outputPer1k : Double
  contextWindow : UInt32
  modality : UInt32
  input_ne_nan : inputPer1k ≠ .nan
  output_ne_nan : outputPer1k ≠ .nan
  deriving DecidableEq, Repr

structure ModelPrice where
  modelId : String
  inputPer1m : Double
  outputPer1m : Double
  contextWindow : UInt32
  modality : UInt32
  deriving DecidableEq, Repr

structure PricingStore where
  prices : Sql.KeyTable PriceRow.modelId

/-- What tokens cost at prices for a million of them. -/
def usageCost (inputTokens outputTokens : UInt32) (inputPer1m outputPer1m : Double) : Double :=
  Double.ofNat inputTokens.toNat / 1000000 * inputPer1m +
    Double.ofNat outputTokens.toNat / 1000000 * outputPer1m

namespace PricingStore

def empty : PricingStore := ⟨.empty⟩

/-- Prices come for a million tokens and are kept for a thousand. -/
def upsert (pricing : PricingStore) (modelId : String) (inputPer1m outputPer1m : Double)
    (contextWindow modality : UInt32) : Except StoreError PricingStore :=
  let inputPer1k := inputPer1m / 1000
  let outputPer1k := outputPer1m / 1000
  if hinput : inputPer1k = .nan then
    .error (.message "NOT NULL constraint failed: model_prices.input_per_1k")
  else if houtput : outputPer1k = .nan then
    .error (.message "NOT NULL constraint failed: model_prices.output_per_1k")
  else
    .ok ⟨pricing.prices.upsert
      ⟨modelId, inputPer1k, outputPer1k, contextWindow, modality, hinput, houtput⟩⟩

def get (pricing : PricingStore) (modelId : String) : Option ModelPrice :=
  (pricing.prices.find modelId).map fun row =>
    { modelId := row.modelId
      inputPer1m := row.inputPer1k * 1000
      outputPer1m := row.outputPer1k * 1000
      contextWindow := row.contextWindow
      modality := row.modality }

/-- A model with its prices and what it can be given. -/
abbrev PriceSeed := String × (Double × Double) × UInt32

def defaultPriceSeeds : List PriceSeed := [
  ("anthropic/claude-sonnet-4-5", (3, 15), 1),
  ("anthropic/claude-opus-4-5", (15, 75), 1),
  ("anthropic/claude-haiku-4-5", (1, 5), 1),
  ("openai/gpt-4o", (2.5, 10), 3),
  ("openai/gpt-4o-mini", (0.15, 0.6), 3),
  ("openai/o3", (10, 40), 1),
  ("openai/o3-mini", (1.1, 4.4), 1),
  ("openai/o1", (15, 60), 1),
  ("openai/o1-mini", (3, 12), 1),
  ("openai/gpt-4.1", (2, 8), 1),
  ("openai/gpt-4.1-mini", (0.4, 1.6), 1),
  ("openai/gpt-4.1-nano", (0.1, 0.4), 1),
  ("google/gemini-2.0-flash", (0.10, 0.40), 3),
  ("google/gemini-2.5-pro", (1.25, 10), 3),
  ("google/gemini-2.5-flash", (0.075, 0.30), 3),
  ("google/gemini-1.5-pro", (1.25, 5), 3),
  ("google/gemini-1.5-flash", (0.075, 0.30), 3),
  ("deepseek/deepseek-chat", (0.27, 1.10), 1),
  ("deepseek/deepseek-coder", (0.27, 1.10), 1),
  ("groq/llama-3.3-70b-versatile", (0.59, 0.79), 1),
  ("groq/llama-3.1-8b-instant", (0.05, 0.08), 1),
  ("xai/grok-2", (2, 10), 1),
  ("xai/grok-2-mini", (0.20, 1), 1),
  ("mistral/mistral-large-latest", (2, 6), 1),
  ("mistral/mistral-small-latest", (0.20, 0.60), 1),
  ("openrouter/anthropic/claude-sonnet-4-5", (3, 15), 1),
  ("fireworks/accounts/fireworks/models/llama-v3p3-70b-instruct", (0.90, 0.90), 1),
  ("qwen/qwen-plus", (0.40, 1.20), 1),
  ("qwen/qwen-max", (2.40, 9.60), 1),
  ("moonshot/kimi-k2-0711-preview", (1, 3), 1),
  ("zai/glm-4.5", (0.50, 1.50), 1),
  ("zai/glm-4.5-air", (0.20, 0.60), 1),
  ("github-copilot/gpt-4o", (0, 0), 1),
  ("kiro/kiro/claude-sonnet-4-5", (0, 0), 1),
  ("ollama/llama3.1", (0, 0), 1),
  ("ollama-cloud/llama3.1", (0, 0), 1),
  ("llamacpp/default", (0, 0), 1),
  ("lmstudio/default", (0, 0), 1)]

/-- Insert what is not there yet, up to the first failure, and count. -/
def seed (pricing : PricingStore) (n : Nat) :
    List PriceSeed → Except StoreError Nat × PricingStore
  | [] => (.ok n, pricing)
  | (modelId, (input, output), modality) :: seeds =>
    match pricing.get modelId with
    | some _ => pricing.seed n seeds
    | none =>
      match pricing.upsert modelId input output 128000 modality with
      | .error e => (.error e, pricing)
      | .ok pricing => pricing.seed (n + 1) seeds

def seedDefaults (pricing : PricingStore) : Except StoreError Nat × PricingStore :=
  pricing.seed 0 defaultPriceSeeds

end PricingStore

def defaultPriceIn : String → Double
  | "anthropic" => 3
  | "openai" => 2.5
  | "google" | "gemini" => 0.10
  | "deepseek" => 0.27
  | "groq" => 0.59
  | "xai" | "grok" => 2
  | "mistral" => 2
  | "openrouter" => 3
  | "tokenrouter" => 2
  | "fireworks" => 0.90
  | "qwen" | "alibaba" | "dashscope" => 0.40
  | "moonshot" | "kimi" => 1
  | "zai" | "z.ai" => 0.50
  | "ollama" | "ollama-cloud" | "llamacpp" | "lmstudio" => 0
  | _ => 2

def defaultPriceOut : String → Double
  | "anthropic" => 15
  | "openai" => 10
  | "google" | "gemini" => 0.40
  | "deepseek" => 1.10
  | "groq" => 0.79
  | "xai" | "grok" => 10
  | "mistral" => 6
  | "openrouter" => 15
  | "tokenrouter" => 10
  | "fireworks" => 0.90
  | "qwen" | "alibaba" | "dashscope" => 1.20
  | "moonshot" | "kimi" => 3
  | "zai" | "z.ai" => 1.50
  | "ollama" | "ollama-cloud" | "llamacpp" | "lmstudio" => 0
  | _ => 10

def manifestLookupById (providerId : String) : Option ManifestProvider :=
  (Manifest.resolveAlias providerId).bind Manifest.lookup

/-- What a completion costs: by the row of its model, or by the default prices of its provider,
raised by half for a model that is not the provider's default. -/
def calculateWithDb (providerId modelId : String) (inputTokens outputTokens : UInt32)
    (pricing : Option PricingStore) : Option Double :=
  match pricing.bind fun store => store.get modelId with
  | some p => some (usageCost inputTokens outputTokens p.inputPer1m p.outputPer1m)
  | none =>
    match manifestLookupById providerId with
    | none => none
    | some provider =>
      let (inPrice, outPrice) :=
        if provider.defaultModel = modelId then
          (defaultPriceIn providerId, defaultPriceOut providerId)
        else (defaultPriceIn providerId * 1.5, defaultPriceOut providerId * 1.5)
      some (usageCost inputTokens outputTokens inPrice outPrice)

section Cost

variable {x y : Double}

/-- A price as it is read again, which is kept for a thousand tokens. -/
def storedPrice (x : Double) : Double := x / 1000 * 1000

theorem tokens_isAmount (n : UInt32) : (Double.ofNat n.toNat / 1000000).IsAmount := by
  have hn := n.toNat_lt
  exact Double.IsAmount.ofNat_div (by omega) (by decide) (by decide)

theorem million_tokens : Double.ofNat (1000000 : UInt32).toNat / 1000000 = 1 := by
  decide +kernel

theorem no_tokens : Double.ofNat (0 : UInt32).toNat / 1000000 = 0 := by
  decide +kernel

/-- A million tokens of a kind cost their price. -/
theorem usageCost_million_input (hx : x.isFinite = true) (hy : y.isFinite = true) :
    usageCost 1000000 0 x y = x := by
  rw [usageCost, million_tokens, no_tokens, Double.one_mul hx, Double.zero_mul hy, Double.add_zero]

theorem usageCost_million_output (hx : x.isFinite = true) (hy : y.isFinite = true) :
    usageCost 0 1000000 x y = y := by
  rw [usageCost, million_tokens, no_tokens, Double.one_mul hy, Double.zero_mul hx, Double.zero_add]

theorem usageCost_nonneg (hx : x.IsAmount) (hy : y.IsAmount) (n k : UInt32) :
    Double.le 0 (usageCost n k x y) = true :=
  Double.add_nonneg ((tokens_isAmount n).mul_nonneg hx) ((tokens_isAmount k).mul_nonneg hy)

/-- No tokens cost nothing, or no number at all. -/
theorem usageCost_no_tokens_cases (x y : Double) :
    (x.isFinite = true ∧ y.isFinite = true) ∧ usageCost 0 0 x y = 0 ∨
      usageCost 0 0 x y = .nan := by
  rw [usageCost, no_tokens]
  rcases Double.zero_mul_cases x with ⟨hx, hzero⟩ | hnan
  · rcases Double.zero_mul_cases y with ⟨hy, hzero'⟩ | hnan'
    · left
      rw [hzero, hzero', Double.add_zero]
      exact ⟨⟨hx, hy⟩, rfl⟩
    · right
      rw [hnan', Double.add_nan]
  · right
    rw [hnan, Double.nan_add]

theorem usageCost_no_tokens (hx : x.isFinite = true) (hy : y.isFinite = true) :
    usageCost 0 0 x y = 0 := by
  rw [usageCost, no_tokens, Double.zero_mul hx, Double.zero_mul hy, Double.add_zero]

/-- Without tokens a price that is not finite leaves no number. -/
theorem finite_of_usageCost (h : usageCost 0 0 x y ≠ .nan) :
    x.isFinite = true ∧ y.isFinite = true :=
  ((usageCost_no_tokens_cases x y).resolve_right h).1

end Cost

/-- The prices a completion is charged at. -/
def priceFor (pricing : PricingStore) (providerId modelId : String) : Option (Double × Double) :=
  match pricing.get modelId with
  | some p => some (p.inputPer1m, p.outputPer1m)
  | none =>
    (manifestLookupById providerId).map fun provider =>
      if provider.defaultModel = modelId then
        (defaultPriceIn providerId, defaultPriceOut providerId)
      else (defaultPriceIn providerId * 1.5, defaultPriceOut providerId * 1.5)

theorem calculateWithDb_eq (pricing : PricingStore) (providerId modelId : String)
    (n k : UInt32) :
    calculateWithDb providerId modelId n k (some pricing) =
      (priceFor pricing providerId modelId).map fun price => usageCost n k price.1 price.2 := by
  rw [calculateWithDb, priceFor, Option.bind_some]
  cases pricing.get modelId with
  | some p => rfl
  | none =>
    cases manifestLookupById providerId with
    | none => rfl
    | some provider => rfl

theorem defaultPriceIn_isAmount (providerId : String) :
    (defaultPriceIn providerId).IsAmount ∧ (defaultPriceIn providerId * 1.5).IsAmount := by
  unfold defaultPriceIn
  split <;> decide +kernel

theorem defaultPriceOut_isAmount (providerId : String) :
    (defaultPriceOut providerId).IsAmount ∧ (defaultPriceOut providerId * 1.5).IsAmount := by
  unfold defaultPriceOut
  split <;> decide +kernel

/-- Prices are amounts where the ones that are stored are: the default prices always are. -/
theorem priceFor_isAmount {pricing : PricingStore}
    (hrow : ∀ p, pricing.get modelId = some p → p.inputPer1m.IsAmount ∧ p.outputPer1m.IsAmount)
    (h : priceFor pricing providerId modelId = some price) :
    price.1.IsAmount ∧ price.2.IsAmount := by
  rw [priceFor] at h
  cases hget : pricing.get modelId with
  | some p =>
    rw [hget] at h
    cases h
    exact hrow p hget
  | none =>
    rw [hget] at h
    obtain ⟨provider, -, rfl⟩ := Option.map_eq_some_iff.mp h
    obtain ⟨hin, hin'⟩ := defaultPriceIn_isAmount providerId
    obtain ⟨hout, hout'⟩ := defaultPriceOut_isAmount providerId
    split
    · exact ⟨hin, hout⟩
    · exact ⟨hin', hout'⟩

namespace PricingStore

variable {pricing pricing' : PricingStore} {x y : Double}

/-- A price is read as it was written, but for the rounding on the way to thousands and back. -/
theorem get_upsert (h : pricing.upsert modelId x y context modality = .ok pricing') (k : String) :
    pricing'.get k =
      if modelId = k then some ⟨modelId, storedPrice x, storedPrice y, context, modality⟩
      else pricing.get k := by
  simp only [upsert] at h
  split at h
  · cases h
  · split at h
    · cases h
    · cases h
      rw [get, get, Sql.KeyTable.find_upsert]
      by_cases hk : modelId = k
      · rw [if_pos hk, if_pos hk, Option.map_some]
        rfl
      · rw [if_neg hk, if_neg hk]

theorem upsert_finite (pricing : PricingStore) (hx : x.isFinite = true) (hy : y.isFinite = true)
    (modelId : String) (context modality : UInt32) :
    ∃ pricing', pricing.upsert modelId x y context modality = .ok pricing' := by
  have hinput : x / 1000 ≠ .nan := Double.div_ofNat_ne_nan hx (by decide) (by decide)
  have houtput : y / 1000 ≠ .nan := Double.div_ofNat_ne_nan hy (by decide) (by decide)
  simp only [upsert]
  rw [dif_neg hinput, dif_neg houtput]
  exact ⟨_, rfl⟩

end PricingStore

end TokenDealer
