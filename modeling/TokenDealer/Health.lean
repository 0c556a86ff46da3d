import Mathlib.Logic.Function.Basic

set_option autoImplicit true

namespace TokenDealer

/-- A reading of the monotonic clock, in nanoseconds. -/
abbrev Instant := Nat

def fromSecs (secs : Nat) : Nat := secs * 1000000000

def fromMillis (ms : Nat) : Nat := ms * 1000000

def asMillis (duration : Nat) : Nat := duration / 1000000

inductive ProviderHealthState where
  | healthy
  | degraded
  | down
  deriving DecidableEq, Repr

structure ProviderHealth where
  status : ProviderHealthState := .healthy
  consecutiveFailures : Nat := 0
  cooldownUntil : Option Instant := none
  lastFailure : Option Instant := none
  deriving DecidableEq, Repr

/-- The health map behind the lock. -/
abbrev HealthRegistry := String → Option ProviderHealth

namespace HealthRegistry

def new : HealthRegistry := fun _ => none

def get (g : HealthRegistry) (providerId : String) : ProviderHealth :=
  (g providerId).getD {}

def recordSuccess (g : HealthRegistry) (providerId : String) : HealthRegistry :=
  Function.update g providerId
    (some { g.get providerId with
      status := .healthy, consecutiveFailures := 0, cooldownUntil := none })

/-- The failure counter is a 32-bit one. -/
def recordFailure (g : HealthRegistry) (providerId : String) (threshold cooldownSecs : Nat)
    (now : Instant) : HealthRegistry :=
  let entry := g.get providerId
  let failures := (entry.consecutiveFailures + 1) % UInt32.size
  let entry := { entry with consecutiveFailures := failures, lastFailure := some now }
  let entry :=
    if failures ≥ threshold then
      { entry with status := .down, cooldownUntil := some (now + fromSecs cooldownSecs) }
    else entry
  Function.update g providerId (some entry)

def isAvailable (g : HealthRegistry) (providerId : String) (now : Instant) : Bool :=
  match g providerId with
  | none => true
  | some h =>
    match h.cooldownUntil with
    | some til => !decide (now < til)
    | none => true

theorem get_update_self (g : HealthRegistry) (p : String) (h : ProviderHealth) :
    get (Function.update g p (some h)) p = h := by
  simp only [get, Function.update_self, Option.getD_some]

theorem get_update_of_ne {p q : String} (hp : p ≠ q) (g : HealthRegistry)
    (h : Option ProviderHealth) : get (Function.update g q h) p = g.get p := by
  simp only [get, Function.update_of_ne hp]

@[simp] theorem get_recordSuccess_self (g : HealthRegistry) (p : String) :
    (g.recordSuccess p).get p =
      { g.get p with status := .healthy, consecutiveFailures := 0, cooldownUntil := none } :=
  get_update_self _ _ _

theorem get_recordSuccess_of_ne {p q : String} (h : p ≠ q) (g : HealthRegistry) :
    (g.recordSuccess q).get p = g.get p :=
  get_update_of_ne h _ _

@[simp] theorem consecutiveFailures_recordFailure_self (g : HealthRegistry) (p : String) :
    ((g.recordFailure p threshold cooldown now).get p).consecutiveFailures =
      ((g.get p).consecutiveFailures + 1) % UInt32.size := by
  simp only [recordFailure, get_update_self]
  exact (apply_ite ProviderHealth.consecutiveFailures _ _ _).trans (ite_self _)

@[simp] theorem cooldownUntil_recordFailure_self (g : HealthRegistry) (p : String) :
    ((g.recordFailure p threshold cooldown now).get p).cooldownUntil =
      if ((g.get p).consecutiveFailures + 1) % UInt32.size ≥ threshold then
        some (now + fromSecs cooldown) else (g.get p).cooldownUntil := by
  simp only [recordFailure, get_update_self]
  exact apply_ite ProviderHealth.cooldownUntil _ _ _

theorem get_recordFailure_of_ne {p q : String} (h : p ≠ q) (g : HealthRegistry) :
    (g.recordFailure q threshold cooldown now).get p = g.get p :=
  get_update_of_ne h _ _

/-- Availability is read off the stored deadline alone. -/
theorem isAvailable_eq (g : HealthRegistry) (p : String) (now : Instant) :
    g.isAvailable p now =
      match (g.get p).cooldownUntil with
      | some til => !decide (now < til)
      | none => true := by
  simp only [isAvailable, get]
  cases g p <;> rfl

end HealthRegistry

end TokenDealer
