import TokenDealer.Pricing

set_option autoImplicit true

namespace TokenDealer

/-- Dollars for a token, as texts. -/
structure OpenRouterPricing where
  prompt : Option String := none
  completion : Option String := none
  deriving DecidableEq, Repr

structure OpenRouterArchitecture where
  modality : Option String := none
  deriving DecidableEq, Repr

structure OpenRouterModel where
  id : String
  pricing : Option OpenRouterPricing := none
  contextLength : Option UInt32 := none
  architecture : Option OpenRouterArchitecture := none
  deriving DecidableEq, Repr

namespace OpenRouterModel

/-- The two prices of a million tokens. An entry without both of them is passed over. -/
def prices (m : OpenRouterModel) : Option (Double × Double) := do
  let p ← m.pricing
  let promptPerToken ← p.prompt.bind Double.parse
  let completionPerToken ← p.completion.bind Double.parse
  return (promptPerToken * 1000000, completionPerToken * 1000000)

def modality (m : OpenRouterModel) : UInt32 :=
  match m.architecture.bind OpenRouterArchitecture.modality with
  | none => 1
  | some text =>
    1 ||| (if Str.contains text "image" then 0b10 else 0) |||
      (if Str.contains text "audio" then 0b11000 else 0)

end OpenRouterModel

namespace PricingStore

/-- Entry by entry, up to the first one that cannot be stored. -/
def syncModels (pricing : PricingStore) (upserted : Nat) :
    List OpenRouterModel → Except StoreError Nat × PricingStore
  | [] => (.ok upserted, pricing)
  | m :: rest =>
    match m.prices with
    | none => pricing.syncModels upserted rest
    | some (inputPer1m, outputPer1m) =>
      match pricing.upsert m.id inputPer1m outputPer1m (m.contextLength.getD 8192) m.modality with
      | .error e => (.error e, pricing)
      | .ok pricing => pricing.syncModels (upserted + 1) rest

/-- What the catalogue that was fetched makes of the prices. -/
def syncOnce (pricing : PricingStore) (catalogue : List OpenRouterModel) :
    Except StoreError Nat × PricingStore :=
  pricing.syncModels 0 catalogue

/-- Every price is of a kind, as it is read. -/
def All (P : Double → Prop) (pricing : PricingStore) : Prop :=
  ∀ modelId p, pricing.get modelId = some p → P p.inputPer1m ∧ P p.outputPer1m

section All

variable {P : Double → Prop} {pricing pricing' : PricingStore}

theorem all_empty : All P empty := by
  intro modelId p h
  cases h

theorem All.upsert (hall : All P pricing) (hx : P (storedPrice x)) (hy : P (storedPrice y))
    (h : pricing.upsert modelId x y context modality = .ok pricing') : All P pricing' := by
  intro k p hget
  rw [get_upsert h] at hget
  split at hget
  · cases hget
    exact ⟨hx, hy⟩
  · exact hall k p hget

theorem All.seed (hall : All P pricing) (n : Nat) {seeds : List PriceSeed}
    (hseeds : ∀ s ∈ seeds, P (storedPrice s.2.1.1) ∧ P (storedPrice s.2.1.2)) :
    All P (pricing.seed n seeds).2 := by
  induction seeds generalizing pricing n with
  | nil => exact hall
  | cons s seeds ih =>
    obtain ⟨modelId, ⟨input, output⟩, modality⟩ := s
    obtain ⟨hfirst, hrest⟩ := List.forall_mem_cons.mp hseeds
    rw [PricingStore.seed]
    cases pricing.get modelId with
    | some p => exact ih hall n hrest
    | none =>
      cases hupsert : pricing.upsert modelId input output 128000 modality with
      | error e => exact hall
      | ok pricing' => exact ih (hall.upsert hfirst.1 hfirst.2 hupsert) (n + 1) hrest

/-- Only prices of the catalogue are stored. -/
theorem All.syncOnce (hall : All P pricing) {catalogue : List OpenRouterModel}
    (hcatalogue : ∀ m ∈ catalogue, ∀ price, m.prices = some price →
      P (storedPrice price.1) ∧ P (storedPrice price.2)) :
    All P (pricing.syncOnce catalogue).2 := by
  rw [PricingStore.syncOnce]
  generalize 0 = n
  induction catalogue generalizing pricing n with
  | nil => exact hall
  | cons m rest ih =>
    obtain ⟨hfirst, hrest⟩ := List.forall_mem_cons.mp hcatalogue
    rw [syncModels]
    cases hprices : m.prices with
    | none => exact ih hall hrest n
    | some price =>
      obtain ⟨hx, hy⟩ := hfirst price hprices
      obtain ⟨x, y⟩ := price
      dsimp only
      cases hupsert : pricing.upsert m.id x y (m.contextLength.getD 8192) m.modality with
      | error e => exact hall
      | ok pricing' => exact ih (hall.upsert hx hy hupsert) hrest (n + 1)

end All

/-- The defaults are finite and not below zero. -/
theorem defaultPriceSeeds_isAmount : ∀ s ∈ defaultPriceSeeds,
    (storedPrice s.2.1.1).IsAmount ∧ (storedPrice s.2.1.2).IsAmount := by
  decide +kernel

theorem All.seedDefaults {pricing : PricingStore} (hall : All Double.IsAmount pricing) :
    All Double.IsAmount pricing.seedDefaults.2 :=
  hall.seed 0 defaultPriceSeeds_isAmount

end PricingStore

/-- No cost is below zero where the prices are amounts. -/
theorem calculateWithDb_nonneg {pricing : PricingStore} (hall : pricing.All Double.IsAmount)
    (h : calculateWithDb providerId modelId n k (some pricing) = some cost) :
    Double.le 0 cost = true := by
  rw [calculateWithDb_eq] at h
  obtain ⟨price, hprice, rfl⟩ := Option.map_eq_some_iff.mp h
  obtain ⟨hx, hy⟩ := priceFor_isAmount (hall modelId) hprice
  exact usageCost_nonneg hx hy n k

end TokenDealer
