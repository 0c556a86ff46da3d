import TokenDealer.ChatDispatch

set_option autoImplicit true

namespace TokenDealer

/-- What tokens cost at finite prices, without rounding. -/
def exactCost (inputTokens outputTokens : UInt32) (price : Double × Double) : ℚ :=
  inputTokens.toNat / 1000000 * price.1.toRat + outputTokens.toNat / 1000000 * price.2.toRat

section

variable (a : ChatArrival) (accounts : Accounts) (pricing : PricingStore)

def ChatArrival.projectedCost : Double := TokenDealer.projectedCost pricing a.choice.modelOverride

/-- The projection without rounding. -/
def ChatArrival.exactProjection : ℚ :=
  ((priceFor pricing "any" (a.choice.modelOverride.getD "")).map (exactCost 0 0)).getD 0

/-- An answer that is charged more than the cap on a request is one that was denied. -/
def DeniedWhenOver (exceeds : Bool) : Prop :=
  Double.lt 0 a.pipe.config.budgets.perRequestCap = true → exceeds = true →
    ∃ body, a.admission accounts pricing = .budgetExceeded body

/-- What an answer is charged is no more than was projected. -/
def ProjectionBounds (response : CanonicalResponse) : Prop :=
  ∀ cost, completionCost pricing response = some cost →
    Double.le cost (a.projectedCost pricing) = true ∧
      DeniedWhenOver a accounts pricing (Double.lt a.pipe.config.budgets.perRequestCap cost)

/-- The same of the costs without rounding, which are rational numbers. -/
def ExactlyBounds (response : CanonicalResponse) : Prop :=
  ∀ price, priceFor pricing response.provider response.model = some price →
    (price.1.isFinite = true ∧ price.2.isFinite = true) ∧
      FinitelyPriced pricing a.choice.modelOverride ∧
      exactCost response.usage.inputTokens response.usage.outputTokens price ≤
        a.exactProjection pricing ∧
      DeniedWhenOver a accounts pricing (Double.ltRat a.pipe.config.budgets.perRequestCap
        (exactCost response.usage.inputTokens response.usage.outputTokens price))

/-- A model that costs nothing, if not less. -/
def FreeOfCharge (price : Double × Double) : Prop :=
  (price.1.isFinite = true ∧ price.2.isFinite = true) ∧
    Double.le price.1 0 = true ∧ Double.le price.2 0 = true

end

/-- Free of charge is a model that no number of tokens makes cost anything. -/
theorem freeOfCharge_iff (price : Double × Double) :
    FreeOfCharge price ↔ ∀ n k, Double.le (usageCost n k price.1 price.2) 0 = true := by
  constructor
  · rintro ⟨⟨hinput, houtput⟩, hx, hy⟩ n k
    exact Double.add_nonpos ((tokens_isAmount n).mul_nonpos hinput hx)
      ((tokens_isAmount k).mul_nonpos houtput hy)
  · intro hle
    have hnumber : usageCost 0 0 price.1 price.2 ≠ .nan := by
      intro hnan
      have h := hle 0 0
      rw [hnan] at h
      cases h
    obtain ⟨hinput, houtput⟩ := finite_of_usageCost hnumber
    have hx := hle 1000000 0
    have hy := hle 0 1000000
    rw [usageCost_million_input hinput houtput] at hx
    rw [usageCost_million_output hinput houtput] at hy
    exact ⟨⟨hinput, houtput⟩, hx, hy⟩

/-- It makes no difference whether the costs are rounded. -/
theorem freeOfCharge_iff_exact (price : Double × Double) :
    FreeOfCharge price ↔ (price.1.isFinite = true ∧ price.2.isFinite = true) ∧
      ∀ n k, exactCost n k price ≤ 0 := by
  apply and_congr_right
  rintro ⟨hinput, houtput⟩
  obtain ⟨hfits, hx⟩ := Double.eq_finite hinput
  obtain ⟨hfits', hy⟩ := Double.eq_finite houtput
  rw [hx, hy, Double.finite_le_zero, Double.finite_le_zero]
  constructor
  · rintro ⟨hx, hy⟩ n k
    have htokens : ∀ tokens : Nat, (0 : ℚ) ≤ tokens / 1000000 :=
      fun tokens => div_nonneg (Nat.cast_nonneg tokens) (by norm_num)
    exact add_nonpos (mul_nonpos_of_nonneg_of_nonpos (htokens _) hx)
      (mul_nonpos_of_nonneg_of_nonpos (htokens _) hy)
  · intro hle
    have hmillion : ((1000000 : UInt32).toNat : ℚ) / 1000000 = 1 := by
      have hcast : ((1000000 : UInt32).toNat : ℚ) = 1000000 := rfl
      rw [hcast]
      norm_num
    have hnone : ((0 : UInt32).toNat : ℚ) / 1000000 = 0 := zero_div _
    have hinput := hle 1000000 0
    have houtput := hle 0 1000000
    rw [exactCost, hmillion, hnone, one_mul, zero_mul, add_zero] at hinput
    rw [exactCost, hmillion, hnone, one_mul, zero_mul, zero_add] at houtput
    exact ⟨hinput, houtput⟩

theorem exactCost_no_tokens (price : Double × Double) : exactCost 0 0 price = 0 := by
  have hnone : ((0 : UInt32).toNat : ℚ) / 1000000 = 0 := zero_div _
  rw [exactCost, hnone, zero_mul, zero_mul, add_zero]

theorem ChatArrival.exactProjection_eq_zero (a : ChatArrival) (pricing : PricingStore) :
    a.exactProjection pricing = 0 := by
  rw [exactProjection]
  cases priceFor pricing "any" (a.choice.modelOverride.getD "") with
  | none => rfl
  | some price => exact exactCost_no_tokens price

/-- The projection bounds what an answer is charged, however many tokens it reports, exactly when
the price found for it is none or nothing. -/
theorem rounded_bounds_iff (a : ChatArrival) (accounts : Accounts) (pricing : PricingStore)
    (response : CanonicalResponse) :
    (∀ usage, ProjectionBounds a accounts pricing { response with usage := usage }) ↔
      ∀ price, priceFor pricing response.provider response.model = some price →
        FreeOfCharge price ∧ FinitelyPriced pricing a.choice.modelOverride := by
  constructor
  · intro hbounds price hprice
    have hle : ∀ n k,
        Double.le (usageCost n k price.1 price.2) (a.projectedCost pricing) = true := by
      intro n k
      have hcost : completionCost pricing { response with usage := ⟨n, k, none, none⟩ } =
          some (usageCost n k price.1 price.2) := by
        rw [completionCost, calculateWithDb_eq, hprice, Option.map_some]
      exact (hbounds ⟨n, k, none, none⟩ _ hcost).1
    rcases projectedCost_cases pricing a.choice.modelOverride with ⟨hfinite, hzero⟩ | hnan
    · refine ⟨(freeOfCharge_iff price).mpr ?_, hfinite⟩
      intro n k
      have h := hle n k
      rwa [ChatArrival.projectedCost, hzero] at h
    · have h := hle 0 0
      rw [ChatArrival.projectedCost, hnan] at h
      cases hcost : usageCost 0 0 price.1 price.2 <;> rw [hcost] at h <;> cases h
  · intro hfree usage cost hcost
    rw [completionCost, calculateWithDb_eq] at hcost
    obtain ⟨price, hprice, rfl⟩ := Option.map_eq_some_iff.mp hcost
    obtain ⟨hprice, hfinite⟩ := hfree price hprice
    have hle := (freeOfCharge_iff price).mp hprice usage.inputTokens usage.outputTokens
    constructor
    · rw [ChatArrival.projectedCost, projectedCost_eq_zero.mpr hfinite]
      exact hle
    · intro hcap hover
      have hbelow := Double.le_trans hle (Double.le_of_lt hcap)
      rw [Double.not_lt_of_le hbelow] at hover
      cases hover

/-- The same without rounding. -/
theorem exact_bounds_iff (a : ChatArrival) (accounts : Accounts) (pricing : PricingStore)
    (response : CanonicalResponse) :
    (∀ usage, ExactlyBounds a accounts pricing { response with usage := usage }) ↔
      ∀ price, priceFor pricing response.provider response.model = some price →
        FreeOfCharge price ∧ FinitelyPriced pricing a.choice.modelOverride := by
  constructor
  · intro hbounds price hprice
    obtain ⟨hfinite, hpriced, -⟩ := hbounds ⟨0, 0, none, none⟩ price hprice
    refine ⟨(freeOfCharge_iff_exact price).mpr ⟨hfinite, ?_⟩, hpriced⟩
    intro n k
    obtain ⟨-, -, hle, -⟩ := hbounds ⟨n, k, none, none⟩ price hprice
    rwa [a.exactProjection_eq_zero] at hle
  · intro hfree usage price hprice
    obtain ⟨hfreePrice, hpriced⟩ := hfree price hprice
    obtain ⟨hfinite, hnothing⟩ := (freeOfCharge_iff_exact price).mp hfreePrice
    have hle := hnothing usage.inputTokens usage.outputTokens
    refine ⟨hfinite, hpriced, ?_, ?_⟩
    · rw [a.exactProjection_eq_zero]
      exact hle
    · intro hcap hover
      rw [Double.not_ltRat_of_nonpos hcap hle] at hover
      cases hover

/-- The projection bounds what an answer is charged, however many tokens it reports, exactly when
the price found for it is none or nothing, with the costs rounded as they are and without. -/
theorem projection_bounds_iff (a : ChatArrival) (accounts : Accounts) (pricing : PricingStore)
    (response : CanonicalResponse) :
    ((∀ usage, ProjectionBounds a accounts pricing { response with usage := usage }) ↔
      ∀ price, priceFor pricing response.provider response.model = some price →
        FreeOfCharge price ∧ FinitelyPriced pricing a.choice.modelOverride) ∧
    ((∀ usage, ExactlyBounds a accounts pricing { response with usage := usage }) ↔
      ∀ price, priceFor pricing response.provider response.model = some price →
        FreeOfCharge price ∧ FinitelyPriced pricing a.choice.modelOverride) :=
  ⟨rounded_bounds_iff a accounts pricing response, exact_bounds_iff a accounts pricing response⟩

/-- The cap on a request denies nothing: only the daily cap ever does. -/
theorem denied_by_daily_cap (a : ChatArrival) (accounts : Accounts) (pricing : PricingStore)
    (h : (a.decision accounts pricing).denied = true) :
    Double.lt 0 a.pipe.config.budgets.dailyCap = true ∧
      Double.lt a.pipe.config.budgets.dailyCap
        (accounts.dailySpend a.now (budgetUser a.user) + a.projectedCost pricing) = true := by
  rcases budgetDecision_denied.mp h with ⟨hcap, hover⟩ | hdaily
  · rw [not_over_perRequestCap hcap] at hover
    cases hover
  · exact hdaily

/-- A cap of one dollar on a request, and an answer for which OpenAI is paid ten. -/
theorem projection_missed :
    (¬ ∀ a accounts pricing response, ProjectionBounds a accounts pricing response) ∧
      ((sampleArrival { perRequestCostUsd := F64.one } (sampleUser "ann" "api_key") "1").admission
        (.ofTables .empty) .empty).isDispatched = true := by
  refine ⟨?_, by decide +kernel⟩
  intro h
  have hbounds := h
    (sampleArrival { perRequestCostUsd := F64.one } (sampleUser "ann" "api_key") "1")
    (.ofTables .empty) .empty ⟨"r", "gpt-4o", "openai", [], some "stop", ⟨0, 1000000, none, none⟩⟩
    10 (by decide +kernel)
  exact absurd hbounds.1 (by decide +kernel)

end TokenDealer
