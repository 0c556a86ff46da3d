import TokenDealer.AnsweringCall
import TokenDealer.ChatDispatch
import TokenDealer.ModelFidelity

set_option autoImplicit true

namespace TokenDealer

/-- A text as the value of a header, which takes visible ASCII, blanks and tabs. -/
def headerValue (s : String) : Option String :=
  if s.toList.all fun c => c = '\t' || (32 ≤ c.toNat && c.toNat < 127) then some s else none

section

variable {a : ChatArrival} {routed : RoutingOutput}

end

end TokenDealer
