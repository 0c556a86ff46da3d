import TokenDealer.SpendAccounting

set_option autoImplicit true

namespace TokenDealer

/-- Whether costs are below zero is a matter of the two prices alone. -/
theorem amounts_iff (x y : Double) :
    x.IsAmount ∧ y.IsAmount ↔ ∀ n k, Double.le 0 (usageCost n k x y) = true := by
  constructor
  · intro h n k
    exact usageCost_nonneg h.1 h.2 n k
  · intro hle
    have hnumber : usageCost 0 0 x y ≠ .nan := by
      intro hnan
      have h := hle 0 0
      rw [hnan, Double.zero_def] at h
      cases h
    obtain ⟨hx, hy⟩ := finite_of_usageCost hnumber
    have hinput := hle 1000000 0
    have houtput := hle 0 1000000
    rw [usageCost_million_input hx hy] at hinput
    rw [usageCost_million_output hx hy] at houtput
    exact ⟨⟨hx, hinput⟩, hy, houtput⟩

/-- No completion of a model costs less than nothing exactly when its prices are amounts. -/
theorem cost_nonneg_iff (pricing : PricingStore) (providerId modelId : String) :
    (∀ n k cost, calculateWithDb providerId modelId n k (some pricing) = some cost →
      Double.le 0 cost = true) ↔
    ∀ price, priceFor pricing providerId modelId = some price →
      price.1.IsAmount ∧ price.2.IsAmount := by
  constructor
  · intro hcost price hprice
    rw [amounts_iff]
    intro n k
    apply hcost n k
    rw [calculateWithDb_eq, hprice, Option.map_some]
  · intro hprices n k cost hcost
    rw [calculateWithDb_eq] at hcost
    obtain ⟨price, hprice, rfl⟩ := Option.map_eq_some_iff.mp hcost
    exact (amounts_iff price.1 price.2).mp (hprices price hprice) n k

namespace ChatService

/-- The catalogues that are fetched have prices that, as they are read again, are finite and not
below zero. -/
def FetchesAmounts (_ : ChatService) (e : ChatEvent) : Prop :=
  ∀ catalogue, e = .syncPrices catalogue → ∀ m ∈ catalogue, ∀ price, m.prices = some price →
    (storedPrice price.1).IsAmount ∧ (storedPrice price.2).IsAmount

section

variable {s : ChatService} {e : ChatEvent}

theorem pricing_step (hall : s.pricing.All Double.IsAmount) (h : FetchesAmounts s e) :
    (s.step e).pricing.All Double.IsAmount := by
  cases e with
  | seedPrices => exact hall.seedDefaults
  | syncPrices catalogue => exact hall.syncOnce (h catalogue rfl)
  | addUser row => exact hall
  | arrive a =>
    rw [step]
    rcases arrive_cases s a with h | ⟨routed, -, h⟩
    · rwa [h]
    · rwa [h]
  | answer e =>
    rw [step]
    rcases answer_cases s e with h | ⟨r, after, answer, -, -, -, ⟨error, -, h⟩ | ⟨result, -, h⟩⟩
    · rwa [h]
    · rwa [h]
    · rwa [h]
  | endStream e =>
    rw [step]
    rcases endStream_cases s e with h | ⟨r, outcome, -, -, h, -⟩
    · rwa [h]
    · rwa [h]
  | runTask index =>
    rw [step]
    rcases runTask_cases s index with h | ⟨task, -, h⟩
    · rwa [h]
    · rwa [h]

theorem cost_of_ends (hall : s.pricing.All Double.IsAmount) (hends : s.Ends e f)
    (hcost : f.cost = some cost) : Double.le 0 cost = true := by
  cases hends with
  | failed | broken => cases hcost
  | completed =>
    dsimp only [Finished.cost, completionCost] at hcost
    exact calculateWithDb_nonneg hall hcost
  | streamed =>
    dsimp only [Finished.cost, streamCost] at hcost
    exact calculateWithDb_nonneg hall hcost

theorem finished_run (s : ChatService) (events : List ChatEvent) :
    ∃ more, (s.run events).finished = s.finished ++ more := by
  induction events generalizing s with
  | nil => exact ⟨[], (List.append_nil _).symm⟩
  | cons e events ih =>
    obtain ⟨more, hmore⟩ := ih (s.step e)
    rcases finished_step s e with h | ⟨f, -, h⟩
    · exact ⟨more, hmore.trans (by rw [h])⟩
    · refine ⟨f :: more, hmore.trans ?_⟩
      rw [h, List.append_assoc, List.singleton_append]

end

theorem credited_nonneg {f : Finished}
    (hcost : ∀ cost, f.cost = some cost → Double.le 0 cost = true) (r : UsageRow) :
    Double.le 0 (f.credited r).costUsd = true := by
  have hzero : Double.le 0 0 = true := Double.le_refl (Double.ofRat_ne_nan _)
  have hfigures : Double.le 0 f.figures.costUsd = true := by
    rw [f.figures_costUsd]
    cases h : f.cost with
    | none => exact hzero
    | some cost => exact hcost cost h
  rw [Finished.credited, Finished.due]
  split
  · split
    · exact hfigures
    · exact hzero
  · exact hzero

/-- While the catalogues have no price below zero, no request costs less than nothing and no row
ever goes down. -/
theorem spend_never_decreases {accounts : Accounts} {logs : LogTables} {events : List ChatEvent}
    (hrun : (start .empty accounts logs).Throughout FetchesAmounts events) :
    (∀ f ∈ ((start .empty accounts logs).run events).finished, ∀ cost, f.cost = some cost →
      Double.le 0 cost = true) ∧
    ∀ front back, events = front ++ back → ∀ r,
      Double.le (((start .empty accounts logs).run front).accounts.spent r).costUsd
        (((start .empty accounts logs).run events).accounts.spent r).costUsd = true := by
  have hcosts : ((start .empty accounts logs).run events).pricing.All Double.IsAmount ∧
      ∀ f ∈ ((start .empty accounts logs).run events).finished, ∀ cost, f.cost = some cost →
        Double.le 0 cost = true := by
    apply Machine.run_invariant (I := fun s => s.pricing.All Double.IsAmount ∧
      ∀ f ∈ s.finished, ∀ cost, f.cost = some cost → Double.le 0 cost = true) _ _ hrun
    · rintro s e ⟨hall, hfinished⟩ h
      exact ⟨pricing_step hall h, forall_finished_step hfinished
        fun f hf cost hcost => cost_of_ends hall hf hcost⟩
    · exact ⟨PricingStore.all_empty, fun f hf => absurd hf List.not_mem_nil⟩
  refine ⟨hcosts.2, ?_⟩
  rintro front back rfl r
  have hbefore := balanced_run .empty accounts logs front r
  have hafter := balanced_run .empty accounts logs (front ++ back) r
  have hnumber :=
    Accounts.spent_ne_nan ((start .empty accounts logs).run (front ++ back)).accounts r
  obtain ⟨more, hmore⟩ := finished_run ((start .empty accounts logs).run front) back
  have hsplit : ((start .empty accounts logs).run (front ++ back)).finished =
      ((start .empty accounts logs).run front).finished ++ more := by
    rw [run, Machine.run_append]
    exact hmore
  -- what the later requests add to the row is added to what it has at the end of the front
  have hadded : (((start .empty accounts logs).run (front ++ back)).accounts.spent r).costUsd =
      (more.map fun f => (f.credited r).costUsd).foldl (· + ·)
        (((start .empty accounts logs).run front).accounts.spent r).costUsd := by
    rw [hafter, hsplit, List.map_append, List.foldl_append, ← hbefore, UsageFigures.foldl_costUsd,
      List.map_map]
    rfl
  rw [hadded] at hnumber ⊢
  apply Double.le_foldl_add _ hnumber
  intro c hc
  obtain ⟨f, hf, rfl⟩ := List.mem_map.mp hc
  apply credited_nonneg
  exact hcosts.2 f (hsplit ▸ List.mem_append_right _ hf)

/-- A catalogue with one model. -/
def sampleCatalogue (id prompt completion : String) : List OpenRouterModel :=
  [{ id := id, pricing := some { prompt := some prompt, completion := some completion } }]

theorem fetchesAmounts_sample : sampleStart.Throughout FetchesAmounts
    (.syncPrices (sampleCatalogue "gpt-4o" "0.0000025" "0.00001") :: sampleDay "api_key") := by
  refine ⟨?_, ?_, ?_, trivial⟩
  · rintro catalogue ⟨⟩ m hm price hprice
    cases List.mem_singleton.mp hm
    have hparsed : (sampleCatalogue "gpt-4o" "0.0000025" "0.00001").map OpenRouterModel.prices =
        [some (2.5, 10)] := by
      decide +kernel
    cases (List.cons.inj hparsed).1.symm.trans hprice
    exact ⟨by decide +kernel, by decide +kernel⟩
  · rintro catalogue ⟨⟩
  · rintro catalogue ⟨⟩

/-- Ann's row does not go down when her request is answered. -/
theorem spend_never_decreases_sample :
    Double.le (sampleAccounts.spent ⟨"ann", Accounts.dayText 0⟩).costUsd ((sampleStart.run
      (.syncPrices (sampleCatalogue "gpt-4o" "0.0000025" "0.00001") ::
        sampleDay "api_key")).accounts.spent ⟨"ann", Accounts.dayText 0⟩).costUsd = true :=
  (spend_never_decreases fetchesAmounts_sample).2 [] _ rfl _

/-- An entry may have the price -1. An answer by its model costs a million dollars less than
nothing, and so much is taken from what Ann has spent. -/
theorem spend_decreases :
    let events : List ChatEvent :=
      [.syncPrices (sampleCatalogue "openrouter/auto" "-1" "-1"),
        .arrive (sampleArrival sampleBudgets (sampleUser "ann" "api_key") "1"),
        .answer (sampleAnswering
          (.ok { sampleResponse with model := "openrouter/auto", provider := "openrouter" }))]
    (sampleStart.run events).finished.map Finished.cost = [some (.ofRat (-1000000))] ∧
      ¬ Double.le (sampleAccounts.spent ⟨"ann", Accounts.dayText 0⟩).costUsd
        ((sampleStart.run events).accounts.spent ⟨"ann", Accounts.dayText 0⟩).costUsd = true := by
  decide +kernel

end ChatService

end TokenDealer
