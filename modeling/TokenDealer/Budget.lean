import TokenDealer.Accounts
import TokenDealer.AuthMiddleware
import TokenDealer.Pricing

set_option autoImplicit true

namespace TokenDealer

inductive BudgetDecision where
  | allow
  | softWarning (fraction : Double) (kind : String)
  | deny (reason : String)
  deriving DecidableEq, Repr

namespace BudgetDecision

def denied : BudgetDecision → Bool
  | deny _ => true
  | allow | softWarning .. => false

end BudgetDecision

namespace BudgetConfig

def dailyCap (cfg : BudgetConfig) : Double := Double.ofBits cfg.dailyCostUsd

def perRequestCap (cfg : BudgetConfig) : Double := Double.ofBits cfg.perRequestCostUsd

/-- Is a cap set? -/
def active (cfg : BudgetConfig) : Bool := Double.lt 0 cfg.dailyCap || Double.lt 0 cfg.perRequestCap

end BudgetConfig

namespace Budget

section

variable (accounts : Accounts) (now : Utc) (cfg : BudgetConfig) (userId : Option String)
  (requestCostUsd : Double)

def overRequestCap : BudgetDecision :=
  let cost := Double.fixed4 requestCostUsd
  let cap := Double.fixed4 cfg.perRequestCap
  .deny s!"request cost ${cost} exceeds per-request cap ${cap}"

def overDailyCap : BudgetDecision :=
  let today := Double.fixed4 (accounts.dailySpend now userId)
  let cost := Double.fixed4 requestCostUsd
  let cap := Double.fixed4 cfg.dailyCap
  .deny s!"daily spend ${today} + request ${cost} exceeds cap ${cap}"

/-- The cap on a request comes first, then the cap on the day of the caller. -/
def check : BudgetDecision :=
  if Double.lt 0 cfg.perRequestCap && Double.lt cfg.perRequestCap requestCostUsd then
    overRequestCap cfg requestCostUsd
  else if Double.lt 0 cfg.dailyCap then
    let projected := accounts.dailySpend now userId + requestCostUsd
    if Double.lt cfg.dailyCap projected then overDailyCap accounts now cfg userId requestCostUsd
    else
      let fraction := projected / cfg.dailyCap
      if Double.le (Double.ofBits cfg.warnFraction) fraction then
        .softWarning fraction "daily_cost"
      else .allow
  else .allow

end

section

variable {accounts : Accounts} {now : Utc} {cfg : BudgetConfig} {userId : Option String}
  {requestCostUsd : Double}

theorem check_denied : (check accounts now cfg userId requestCostUsd).denied = true ↔
    (Double.lt 0 cfg.perRequestCap = true ∧ Double.lt cfg.perRequestCap requestCostUsd = true) ∨
      Double.lt 0 cfg.dailyCap = true ∧
        Double.lt cfg.dailyCap (accounts.dailySpend now userId + requestCostUsd) = true := by
  rw [check]
  by_cases hrequest :
      (Double.lt 0 cfg.perRequestCap && Double.lt cfg.perRequestCap requestCostUsd) = true
  · rw [if_pos hrequest]
    exact iff_of_true rfl (.inl ((Bool.and_eq_true _ _).mp hrequest))
  · rw [if_neg hrequest]
    rw [Bool.and_eq_true] at hrequest
    rw [or_iff_right hrequest]
    by_cases hdaily : Double.lt 0 cfg.dailyCap = true
    · rw [if_pos hdaily, and_iff_right hdaily]
      dsimp only
      by_cases hover :
          Double.lt cfg.dailyCap (accounts.dailySpend now userId + requestCostUsd) = true
      · rw [if_pos hover]
        exact iff_of_true rfl hover
      · rw [if_neg hover]
        apply iff_of_false _ hover
        split <;> exact Bool.false_ne_true
    · rw [if_neg hdaily]
      exact iff_of_false Bool.false_ne_true fun h => hdaily h.1

end

end Budget

/-- Callers without a user of their own have no row of their own either. -/
def budgetUser (user : UserContext) : Option String :=
  if user.via = "legacy_key" ∨ user.via = "env_password" then none else some user.userId

/-- What the request is taken to cost before any token of it is counted. -/
def projectedCost (pricing : PricingStore) (modelOverride : Option String) : Double :=
  (calculateWithDb "any" (modelOverride.getD "") 0 0 (some pricing)).getD 0

/-- Nothing is checked unless a cap is set. -/
def budgetDecision (accounts : Accounts) (pricing : PricingStore) (now : Utc) (cfg : BudgetConfig)
    (user : UserContext) (modelOverride : Option String) : BudgetDecision :=
  if cfg.active then
    Budget.check accounts now cfg (budgetUser user) (projectedCost pricing modelOverride)
  else .allow

section

variable {accounts : Accounts} {pricing : PricingStore} {now : Utc} {cfg : BudgetConfig}
  {user : UserContext} {modelOverride : Option String}

theorem budgetDecision_denied :
    (budgetDecision accounts pricing now cfg user modelOverride).denied = true ↔
      (Double.lt 0 cfg.perRequestCap = true ∧
        Double.lt cfg.perRequestCap (projectedCost pricing modelOverride) = true) ∨
      Double.lt 0 cfg.dailyCap = true ∧
        Double.lt cfg.dailyCap (accounts.dailySpend now (budgetUser user) +
          projectedCost pricing modelOverride) = true := by
  rw [budgetDecision]
  by_cases hactive : cfg.active = true
  · rw [if_pos hactive]
    exact Budget.check_denied
  · rw [if_neg hactive]
    rw [BudgetConfig.active, Bool.or_eq_true] at hactive
    apply iff_of_false Bool.false_ne_true
    rintro (⟨hcap, -⟩ | ⟨hcap, -⟩)
    · exact hactive (.inr hcap)
    · exact hactive (.inl hcap)

/-- No provider has the id that the projection asks for. -/
theorem manifestLookupById_any : manifestLookupById "any" = none := by
  decide

/-- The prices stored for the model a request asks for are finite. -/
def FinitelyPriced (pricing : PricingStore) (modelOverride : Option String) : Prop :=
  ∀ p, pricing.get (modelOverride.getD "") = some p →
    p.inputPer1m.isFinite = true ∧ p.outputPer1m.isFinite = true

/-- Without tokens the projection is nothing, or no number at all. -/
theorem projectedCost_cases (pricing : PricingStore) (modelOverride : Option String) :
    FinitelyPriced pricing modelOverride ∧ projectedCost pricing modelOverride = 0 ∨
      projectedCost pricing modelOverride = .nan := by
  rw [FinitelyPriced, projectedCost, calculateWithDb_eq, priceFor]
  cases pricing.get (modelOverride.getD "") with
  | none =>
    rw [manifestLookupById_any]
    exact .inl ⟨fun p h => absurd h (Option.some_ne_none p).symm, rfl⟩
  | some p =>
    rcases usageCost_no_tokens_cases p.inputPer1m p.outputPer1m with ⟨hfinite, hzero⟩ | hnan
    · refine .inl ⟨?_, hzero⟩
      intro q hq
      cases hq
      exact hfinite
    · exact .inr hnan

theorem projectedCost_eq_zero :
    projectedCost pricing modelOverride = 0 ↔ FinitelyPriced pricing modelOverride := by
  constructor
  · intro hzero
    rcases projectedCost_cases pricing modelOverride with ⟨hfinite, -⟩ | hnan
    · exact hfinite
    · rw [hzero] at hnan
      exact absurd hnan (Double.ofRat_ne_nan _)
  · intro hfinite
    rw [projectedCost, calculateWithDb_eq, priceFor]
    cases hget : pricing.get (modelOverride.getD "") with
    | none =>
      rw [manifestLookupById_any]
      rfl
    | some p =>
      obtain ⟨hinput, houtput⟩ := hfinite p hget
      rw [Option.map_some, Option.getD_some]
      exact usageCost_no_tokens hinput houtput

/-- A cap on requests refuses none. -/
theorem not_over_perRequestCap (hcap : Double.lt 0 cfg.perRequestCap = true) :
    Double.lt cfg.perRequestCap (projectedCost pricing modelOverride) = false := by
  rcases projectedCost_cases pricing modelOverride with ⟨-, hzero⟩ | hnan
  · rw [hzero]
    exact Double.not_lt_of_le (Double.le_of_lt hcap)
  · rw [hnan]
    exact Double.lt_nan cfg.perRequestCap

end

end TokenDealer
