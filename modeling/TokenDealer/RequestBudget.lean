import TokenDealer.RetrySettings

set_option autoImplicit true

namespace TokenDealer

/-- Every call of the run starts before the budget is over. -/
def StartsInBudget (plan : RoutingPlan) (started : Instant) (calls : List UpstreamCall) : Prop :=
  ∀ call ∈ calls, call.startedAt < started + plan.requestBudget

/-- The time from the budget test of an entry to the start of its last call. -/
def Visit.leadTime (visit : Visit) (maxRetryAfterMs : Nat) : Nat :=
  visit.beforeAvailable + visit.beforeCall +
    if (outcomeOf visit.first.answer).isRetry then visit.retryDelay maxRetryAfterMs else 0

/-- What is left of the budget when it is looked at is enough for the calls of the entry. -/
def LeavesTime (plan : RoutingPlan) (started : Instant) (visit : Visit) (tested : Instant) :
    Prop :=
  tested + visit.leadTime plan.maxRetryAfterMs < started + plan.requestBudget

section

variable {plan : RoutingPlan} {resolve : String → Option ProviderHandle} {hook : HealthHook}

/-- The last call of an entry is the one to start in time. -/
theorem startsInBudget_visit (h : Visited plan resolve hook visit v) (started : Instant) :
    StartsInBudget plan started v.calls ↔
      (v.calls ≠ [] → LeavesTime plan started visit (v.testedAt visit)) := by
  rw [StartsInBudget, LeavesTime, Visit.leadTime]
  cases h with
  | skipped _ _ _ hcalls =>
    rw [hcalls]
    exact iff_of_true (fun _ h => absurd h List.not_mem_nil) fun h => absurd rfl h
  | once _ _ hretry _ hcall hcalls =>
    have hstart : v.testedAt visit + (visit.beforeAvailable + visit.beforeCall + 0) =
        v.calledAt visit :=
      (Nat.add_assoc (v.testedAt visit) visit.beforeAvailable visit.beforeCall).symm
    rw [hcalls, hcall, hretry, if_neg Bool.false_ne_true, hstart, List.forall_mem_singleton]
    exact (imp_iff_right (List.cons_ne_nil _ _)).symm
  | twice _ _ hretry _ hcall hcall' hcalls =>
    have hstart : v.testedAt visit + (visit.beforeAvailable + visit.beforeCall +
        visit.retryDelay plan.maxRetryAfterMs) =
          v.calledAt visit + visit.retryDelay plan.maxRetryAfterMs := by
      rw [VisitRecord.calledAt, VisitRecord.checkedAt, ← Nat.add_assoc, ← Nat.add_assoc]
    rw [hcalls, hcall', hcall, hretry, if_pos rfl, hstart, List.forall_mem_cons,
      List.forall_mem_singleton, imp_iff_right (List.cons_ne_nil _ _)]
    exact and_iff_right_of_imp fun h => Nat.lt_of_le_of_lt (Nat.le_add_right _ _) h

end

/-- The calls of a run all start in time exactly when at every entry that is called enough of the
budget is left, once it has been looked at, for the way to the call and to its retry. -/
theorem startsInBudget_iff (plan : RoutingPlan) (resolve : String → Option ProviderHandle)
    (hook : HealthHook) (upstream : Nat → Visit) (health : HealthRegistry) (now : Instant) :
    StartsInBudget plan now (execute plan resolve hook upstream health now).1.calls ↔
      WheneverCalled plan resolve hook (LeavesTime plan now) now upstream plan.chain
        { now, health } := by
  obtain ⟨visits, hbook, hledger⟩ := execute_ledger plan resolve hook upstream health now
  rw [hbook.wheneverCalled_iff, StartsInBudget, hledger.calls, List.forall_mem_flatMap]
  exact forall₂_congr fun v hv => startsInBudget_visit (hledger.visited v hv) now

/-- One second before the end of the budget the provider limits the rate. -/
def limitedLate (_ : Nat) : Visit :=
  ⟨0, 0, 0, 0, ⟨fromMillis 119000, tooManyRequests, 0⟩, 0, ⟨0, timeout, 0⟩⟩

theorem retry_after_budget :
    ¬ StartsInBudget (samplePlan "a/m" []) 0
      (execute (samplePlan "a/m" []) sampleResolve ⟨1, 60⟩ limitedLate .new 0).1.calls := by
  intro h
  have hretry := h _ (List.mem_cons_of_mem _ List.mem_cons_self)
  exact absurd hretry (by decide)

end TokenDealer
