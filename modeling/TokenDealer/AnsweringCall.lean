import TokenDealer.FallbackReach

set_option autoImplicit true

namespace TokenDealer

section Served

variable {plan : RoutingPlan} {resolve : String → Option ProviderHandle} {hook : HealthHook}

end Served

theorem position_chainFrom (h : entry ∈ chainFrom position refs) : position ≤ entry.position := by
  induction refs generalizing position with
  | nil => exact absurd h List.not_mem_nil
  | cons ref rest ih =>
    rw [chainFrom] at h
    rcases List.mem_cons.mp h with rfl | h
    · exact Nat.le_refl _
    · exact Nat.le_of_succ_le (ih h)

section Reach

variable {plan : RoutingPlan} {resolve : String → Option ProviderHandle}

variable (hook : HealthHook)

end Reach

end TokenDealer
