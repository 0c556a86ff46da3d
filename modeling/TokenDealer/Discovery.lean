import TokenDealer.PriceSync

set_option autoImplicit true

namespace TokenDealer

structure ProviderModelRow where
  providerId : String
  modelId : String
  deriving DecidableEq, Repr

namespace Discovery

/-- The tiers with what a million input tokens may cost in them. -/
def tierLimits : List (Tier × Double) := [
  (.simple, 2),
  (.standard, 6),
  (.complex, 15),
  (.reasoning, 15),
  (.highContext, 6),
  (.multimodal, 4)]

/-- The input price of a discovered model. -/
def modelPrice (pricing : PricingStore) (model : ProviderModelRow) : Option Double :=
  (pricing.get model.modelId).map ModelPrice.inputPer1m

/-- A model takes the place of the best one so far when its price is positive, within the limit and
lower. -/
def considerModel (pricing : PricingStore) (maxInput : Double) (best : Option (Double × String))
    (model : ProviderModelRow) : Option (Double × String) :=
  match modelPrice pricing model with
  | none => best
  | some candidate =>
    if Double.lt maxInput candidate || Double.le candidate 0 then best
    else
      let chosen := (candidate, model.providerId ++ "/" ++ model.modelId)
      match best with
      | some (price, _) => if Double.le price candidate then best else some chosen
      | none => some chosen

/-- The models of a tier come in the order in which the map of the providers is walked. -/
def cheapestModel (pricing : PricingStore) (maxInput : Double) (walk : List ProviderModelRow) :
    Option (Double × String) :=
  walk.foldl (considerModel pricing maxInput) none

/-- Primaries for the tiers that have none. -/
def autoAssignTiers (pricing : PricingStore) (config : RouterConfig)
    (walk : List ProviderModelRow) : List (String × String) :=
  tierLimits.filterMap fun (tier, maxInput) =>
    match config.primaryForTier tier with
    | some _ => none
    | none => (cheapestModel pricing maxInput walk).map fun best => (tier.asStr, best.2)

variable {pricing pricing' : PricingStore}

/-- Only the prices of the models are looked at. -/
theorem autoAssignTiers_congr {walk : List ProviderModelRow}
    (h : ∀ model ∈ walk, modelPrice pricing model = modelPrice pricing' model)
    (config : RouterConfig) :
    autoAssignTiers pricing config walk = autoAssignTiers pricing' config walk := by
  have hcheapest : ∀ maxInput,
      cheapestModel pricing maxInput walk = cheapestModel pricing' maxInput walk := by
    intro maxInput
    rw [cheapestModel, cheapestModel]
    generalize none = best
    induction walk generalizing best with
    | nil => rfl
    | cons model walk ih =>
      obtain ⟨hmodel, hwalk⟩ := List.forall_mem_cons.mp h
      have hstep : considerModel pricing maxInput best model =
          considerModel pricing' maxInput best model := by
        rw [considerModel, considerModel, hmodel]
      rw [List.foldl_cons, List.foldl_cons, hstep]
      exact ih hwalk _
  rw [autoAssignTiers, autoAssignTiers]
  apply List.filterMap_congr
  rintro ⟨tier, maxInput⟩ -
  dsimp only
  rw [hcheapest]

end Discovery

/-- The key that prices of a provider's model are stored under. -/
def priceKey (providerId modelId : String) : String := providerId ++ "/" ++ modelId

theorem priceKey_ne (providerId modelId : String) : priceKey providerId modelId ≠ modelId := by
  intro h
  have hlength : (priceKey providerId modelId).length = modelId.length := by rw [h]
  rw [priceKey, String.length_append, String.length_append] at hlength
  have hslash : "/".length = 1 := rfl
  omega

/-- Whatever prices the row of a provider's model is given, a completion by that model costs what
they say. -/
def CostFollowsRow (pricing : PricingStore) (providerId modelId : String) : Prop :=
  ∀ inputPer1m outputPer1m context modality after,
    pricing.upsert (priceKey providerId modelId) inputPer1m outputPer1m context modality =
      .ok after →
    ∀ n k, calculateWithDb providerId modelId n k (some after) =
      some (usageCost n k (storedPrice inputPer1m) (storedPrice outputPer1m))

/-- Whatever price the row of a provider's model is given, the assignment of tiers sees it for the
model when it is discovered. -/
def AssignmentFollowsRow (pricing : PricingStore) (providerId modelId : String) : Prop :=
  ∀ inputPer1m outputPer1m context modality after,
    pricing.upsert (priceKey providerId modelId) inputPer1m outputPer1m context modality =
      .ok after →
    Discovery.modelPrice after ⟨providerId, modelId⟩ = some (storedPrice inputPer1m)

section

variable {pricing after : PricingStore} {providerId modelId : String} {x y : Double}
  (h : pricing.upsert (priceKey providerId modelId) x y context modality = .ok after)

include h

theorem get_of_priceKey : after.get modelId = pricing.get modelId := by
  rw [PricingStore.get_upsert h, if_neg (priceKey_ne providerId modelId)]

/-- The row decides nothing about a completion of its model. -/
theorem calculateWithDb_of_priceKey (n k : UInt32) :
    calculateWithDb providerId modelId n k (some after) =
      calculateWithDb providerId modelId n k (some pricing) := by
  rw [calculateWithDb, calculateWithDb, Option.bind_some, Option.bind_some, get_of_priceKey h]

theorem modelPrice_of_priceKey :
    Discovery.modelPrice after ⟨providerId, modelId⟩ =
      Discovery.modelPrice pricing ⟨providerId, modelId⟩ :=
  congrArg (Option.map ModelPrice.inputPer1m) (get_of_priceKey h)

end

/-- No row stored under provider and model is read for that model, neither for a cost nor by the
assignment of tiers. -/
theorem row_never_followed (pricing : PricingStore) (providerId modelId : String) :
    ¬ CostFollowsRow pricing providerId modelId ∧
      ¬ AssignmentFollowsRow pricing providerId modelId := by
  have hzero : (0 : Double).isFinite = true := by decide +kernel
  have hone : (1 : Double).isFinite = true := by decide +kernel
  obtain ⟨free, hfree⟩ := pricing.upsert_finite hzero hzero (priceKey providerId modelId) 0 1
  obtain ⟨priced, hpriced⟩ := pricing.upsert_finite hone hzero (priceKey providerId modelId) 0 1
  constructor
  · intro hcost
    have h₁ := hcost _ _ _ _ _ hfree 1000000 0
    have h₂ := hcost _ _ _ _ _ hpriced 1000000 0
    rw [calculateWithDb_of_priceKey hfree] at h₁
    rw [calculateWithDb_of_priceKey hpriced, h₁] at h₂
    exact absurd h₂ (by decide +kernel)
  · intro hassigned
    have h₁ := hassigned _ _ _ _ _ hfree
    have h₂ := hassigned _ _ _ _ _ hpriced
    rw [modelPrice_of_priceKey hfree] at h₁
    rw [modelPrice_of_priceKey hpriced, h₁] at h₂
    exact absurd h₂ (by decide +kernel)

/-- The seeds have a row for gpt-4o-mini of OpenAI, at 0.15 and 0.60 dollars. A million input tokens
of it are charged at one and a half times the default price of OpenAI. -/
theorem seeded_row_not_read :
    (PricingStore.empty.seedDefaults.2.get (priceKey "openai" "gpt-4o-mini")).map
        (fun p => (p.inputPer1m, p.outputPer1m)) = some (0.15, 0.6) ∧
      usageCost 1000000 0 0.15 0.6 = 0.15 ∧
      calculateWithDb "openai" "gpt-4o-mini" 1000000 0
        (some PricingStore.empty.seedDefaults.2) = some 3.75 ∧
      Discovery.modelPrice PricingStore.empty.seedDefaults.2 ⟨"openai", "gpt-4o-mini"⟩ = none := by
  decide +kernel

end TokenDealer
