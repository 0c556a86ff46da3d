import TokenDealer.SpendAccounting

set_option autoImplicit true

namespace TokenDealer

namespace ChatEvent

/-- When the handler or the accounts read the clock. -/
def time : ChatEvent → Option Utc
  | arrive a => some a.now
  | answer e => some e.now
  | endStream e => some e.now
  | seedPrices | syncPrices _ | addUser _ | runTask _ => none

end ChatEvent

namespace ChatService

/-- What the requests that are over have cost, whoever sent them, in the order in which they
ended. -/
def costs (s : ChatService) : List Double := s.finished.map fun f => f.cost.getD 0

/-- The costs together, without rounding. -/
def totalCost (s : ChatService) : ℚ := (s.costs.map Double.toRat).sum

/-- Costs of more than the cap are more than it as well when they are added one after the other,
which rounds their sum. -/
def Noticed (cap : Double) (s : ChatService) : Prop :=
  Double.ltRat cap s.totalCost = true → Double.lt cap (s.costs.foldl (· + ·) 0) = true

example : Double.ltRat 1 (10 * Double.toRat 0.1) = true ∧
    Double.lt 1 ((List.replicate 10 0.1).foldl (· + ·) 0) = false := by
  decide +kernel

/-- Where nothing is rounded nothing goes unnoticed. -/
theorem noticed_of_sumsExactly {s : ChatService}
    (h : Double.SumsExactly 0 s.costs) : Noticed cap s := by
  intro hover
  have hsum : (s.costs.foldl (· + ·) 0).toRat = s.totalCost := by
    rw [h.toRat_foldl, totalCost, Double.zero_def]
    exact zero_add _
  exact Double.lt_of_ltRat h.isFinite_foldl (hsum ▸ hover)

/-- Everything happens on one day, under one cap for the day. -/
def OneDay (cap : Double) (day : String) (_ : ChatService) (e : ChatEvent) : Prop :=
  (∀ t, e.time = some t → Accounts.dayText t = day) ∧
    ∀ a, e = .arrive a → a.pipe.config.budgets.dailyCap = cap

/-- What costs anything can be accounted for, and a caller who comes has paid for all that has cost
anything so far, with no cost beyond the cap lost in rounding, and asks for a model whose prices are
finite. -/
def PaidByCaller (s : ChatService) (e : ChatEvent) : Prop :=
  (∀ f, s.Ends e f → f.cost.getD 0 = 0 ∨ s.Accountable f) ∧
    ∀ a, e = .arrive a → FinitelyPriced s.pricing a.choice.modelOverride ∧
      Noticed a.pipe.config.budgets.dailyCap s ∧
      ∀ f ∈ s.finished, f.cost.getD 0 ≠ 0 → budgetUser f.toInFlight.user = budgetUser a.user

section

variable {s : ChatService} {e : ChatEvent}

theorem Ends.time (h : s.Ends e f) : e.time = some f.time := by
  cases h <;> rfl

/-- On the day, with every cost recorded. -/
def Recorded (day : String) (f : Finished) : Prop :=
  Accounts.dayText f.time = day ∧ (f.cost.getD 0 = 0 ∨ f.recorded = true)

theorem recorded_of_ends (hstamped : Stamped s) (hday : OneDay cap day s e)
    (hpaid : PaidByCaller s e) (hends : s.Ends e f) : Recorded day f := by
  refine ⟨hday.1 _ hends.time, ?_⟩
  rcases hpaid.1 f hends with hfree | haccountable
  · exact .inl hfree
  · rcases recorded_of_accountable hstamped hends haccountable with hnothing | hrecorded
    · left
      rw [← f.figures_costUsd, hnothing]
      rfl
    · exact .inr hrecorded

/-- In the row of the one who has paid, a request has its cost. -/
theorem credited_costUsd (hrecorded : Recorded day f) (hday : Accounts.dayText now = day)
    (hpayer : f.cost.getD 0 ≠ 0 → budgetUser f.toInFlight.user = userId) :
    (f.credited (Accounts.budgetRow now userId)).costUsd = f.cost.getD 0 := by
  by_cases hfree : f.cost.getD 0 = 0
  · have hfigures := f.figures_costUsd
    rw [hfree] at hfigures
    rw [hfree, Finished.credited, Finished.due]
    split
    · split
      · exact hfigures
      · rfl
    · rfl
  · have hrow : f.row = Accounts.budgetRow now userId := by
      rw [Finished.row, Accounts.budgetRow, Accounts.budgetRow, hpayer hfree, hrecorded.1, hday]
    rw [Finished.credited, if_pos (hrecorded.2.resolve_left hfree), Finished.due, if_pos hrow]
    exact f.figures_costUsd

end

/-- A caller who has paid for everything is denied when it has cost more than the cap. -/
theorem denied_over_cap {s : ChatService} {a : ChatArrival} {accounts : Accounts}
    (hnew : ∀ r, r.day = day → accounts.spent r = 0) (hcap : Double.lt 0 cap = true)
    (hbalanced : Balanced accounts s) (hrecorded : ∀ f ∈ s.finished, Recorded day f)
    (hday : OneDay cap day s (.arrive a)) (hpaid : PaidByCaller s (.arrive a))
    (hover : Double.ltRat cap s.totalCost = true) :
    (a.decision s.accounts s.pricing).denied = true := by
  obtain ⟨hfinite, hnoticed, hpayer⟩ := hpaid.2 a rfl
  have hnow : Accounts.dayText a.now = day := hday.1 a.now rfl
  have hcosts : (s.finished.map (Finished.credited (Accounts.budgetRow a.now (budgetUser a.user)))
      ).map UsageFigures.costUsd = s.costs := by
    rw [List.map_map]
    apply List.map_congr_left
    intro f hf
    exact credited_costUsd (hrecorded f hf) hnow (hpayer f hf)
  have hspent :
      s.accounts.dailySpend a.now (budgetUser a.user) = s.costs.foldl (· + ·) 0 := by
    rw [Accounts.dailySpend, hbalanced, hnew _ hnow, UsageFigures.foldl_costUsd, hcosts]
    rfl
  apply budgetDecision_denied.mpr
  right
  rw [hday.2 a rfl] at hnoticed ⊢
  rw [hspent, projectedCost_eq_zero.mpr hfinite, Double.add_zero]
  exact ⟨hcap, hnoticed hover⟩

section Runs

variable {pricing : PricingStore} {accounts : Accounts} {logs : LogTables}
  {events : List ChatEvent} {cap : Double} {day : String}

theorem recorded_run (hday : (start pricing accounts logs).Throughout (OneDay cap day) events)
    (hpaid : (start pricing accounts logs).Throughout PaidByCaller events) :
    ∀ f ∈ ((start pricing accounts logs).run events).finished, Recorded day f := by
  apply Machine.run_invariant (I := fun s => ∀ f ∈ s.finished, Recorded day f) _ _
    (stamped_throughout (hday.and hpaid))
  · intro s e hfinished h
    obtain ⟨hstamped, hday, hpaid⟩ := h
    exact forall_finished_step hfinished fun f hf => recorded_of_ends hstamped hday hpaid hf
  · exact fun f hf => absurd hf List.not_mem_nil

/-- On a day on which each caller has paid for everything so far, no request goes out once the
requests have cost more than the cap. -/
theorem daily_cap_holds {a : ChatArrival} (hnew : ∀ r, r.day = day → accounts.spent r = 0)
    (hcap : Double.lt 0 cap = true)
    (hday : (start pricing accounts logs).Throughout (OneDay cap day) (events ++ [.arrive a]))
    (hpaid : (start pricing accounts logs).Throughout PaidByCaller (events ++ [.arrive a]))
    (hover : Double.ltRat cap ((start pricing accounts logs).run events).totalCost = true) :
    (a.admission ((start pricing accounts logs).run events).accounts
      ((start pricing accounts logs).run events).pricing).isDispatched = false := by
  obtain ⟨hdays, hlastDay, -⟩ := Machine.throughout_append.mp hday
  obtain ⟨hpaids, hlastPaid, -⟩ := Machine.throughout_append.mp hpaid
  have hdenied := denied_over_cap hnew hcap (balanced_run pricing accounts logs events)
    (recorded_run hdays hpaids) hlastDay hlastPaid hover
  obtain ⟨body, hbody⟩ := ChatArrival.admission_budgetExceeded.mpr hdenied
  rw [hbody]
  rfl

end Runs

theorem finitelyPriced_empty (modelOverride : Option String) :
    FinitelyPriced .empty modelOverride := by
  intro p hp
  cases hp

/-- Another request of a day. -/
def sampleNext (userId via : String) : ChatArrival :=
  sampleArrival sampleBudgets (sampleUser userId via) "2"

theorem sampleDay_oneDay (userId via : String) :
    sampleStart.Throughout (OneDay 1 (Accounts.dayText 0))
      (sampleDay via ++ [.arrive (sampleNext userId via)]) := by
  have hcap : sampleBudgets.dailyCap = 1 := by decide +kernel
  refine ⟨⟨?_, ?_⟩, ⟨?_, ?_⟩, ⟨?_, ?_⟩, trivial⟩
  · rintro t ⟨⟩
    rfl
  · rintro a ⟨⟩
    exact hcap
  · rintro t ⟨⟩
    rfl
  · rintro a ⟨⟩
  · rintro t ⟨⟩
    rfl
  · rintro a ⟨⟩
    exact hcap

theorem sampleDay_paid : sampleStart.Throughout PaidByCaller
    (sampleDay "api_key" ++ [.arrive (sampleNext "ann" "api_key")]) := by
  obtain ⟨hfirst, hsecond, -⟩ := sampleDay_accountable
  have hcallers : (sampleStart.run (sampleDay "api_key")).finished.map
      (fun f => budgetUser f.toInFlight.user) = [some "ann"] := by
    decide +kernel
  refine ⟨⟨fun f hf => .inr (hfirst f hf), ?_⟩, ⟨fun f hf => .inr (hsecond f hf), ?_⟩,
    ⟨?_, ?_⟩, trivial⟩
  · rintro a ⟨⟩
    exact ⟨finitelyPriced_empty _, noticed_of_sumsExactly (by decide +kernel),
      fun f hf => absurd hf List.not_mem_nil⟩
  · rintro a ⟨⟩
  · intro f hf
    cases hf
  · rintro a ⟨⟩
    have hunpriced : (sampleStart.run (sampleDay "api_key")).pricing.get
        ((sampleNext "ann" "api_key").choice.modelOverride.getD "") = none := by
      decide +kernel
    refine ⟨fun p hp => absurd (hunpriced.symm.trans hp) (Option.some_ne_none p).symm,
      noticed_of_sumsExactly (by decide +kernel), ?_⟩
    intro f hf _
    have hmem : budgetUser f.toInFlight.user ∈
        (sampleStart.run (sampleDay "api_key")).finished.map
          fun f => budgetUser f.toInFlight.user := List.mem_map.mpr ⟨f, hf, rfl⟩
    rw [hcallers] at hmem
    exact List.mem_singleton.mp hmem

/-- Ann has spent ten dollars of her one, and is refused. -/
theorem daily_cap_sample :
    ((sampleNext "ann" "api_key").admission (sampleStart.run (sampleDay "api_key")).accounts
      (sampleStart.run (sampleDay "api_key")).pricing).isDispatched = false :=
  daily_cap_holds (fun r _ => spent_sampleAccounts r) (by decide +kernel)
    (sampleDay_oneDay "ann" "api_key") sampleDay_paid (by decide +kernel)

/-- Bob is let through when Ann has spent it, and so is everyone with the shared key. -/
theorem daily_cap_missed :
    (Double.ltRat 1 (sampleStart.run (sampleDay "api_key")).totalCost = true ∧
      ((sampleNext "bob" "api_key").admission (sampleStart.run (sampleDay "api_key")).accounts
        (sampleStart.run (sampleDay "api_key")).pricing).isDispatched = true) ∧
    Double.ltRat 1 (sampleStart.run (sampleDay "legacy_key")).totalCost = true ∧
      ((sampleNext "ann" "legacy_key").admission
        (sampleStart.run (sampleDay "legacy_key")).accounts
        (sampleStart.run (sampleDay "legacy_key")).pricing).isDispatched = true := by
  decide +kernel

end ChatService

end TokenDealer
