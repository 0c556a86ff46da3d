import TokenDealer.Health
import TokenDealer.Streak

set_option autoImplicit true

namespace TokenDealer

/-- A call that some caller makes on the health registry. -/
inductive HealthEvent where
  | success (provider : String)
  | failure (provider : String) (time : Instant)
  deriving DecidableEq, Repr

namespace HealthEvent

def provider : HealthEvent → String
  | success p => p
  | failure p _ => p

def isSuccess : HealthEvent → Bool
  | success _ => true
  | failure _ _ => false

end HealthEvent

def HealthRegistry.apply (threshold cooldown : Nat) (g : HealthRegistry) :
    HealthEvent → HealthRegistry
  | .success p => g.recordSuccess p
  | .failure p time => g.recordFailure p threshold cooldown time

/-- The registry after a history of calls. -/
def HealthRegistry.replay (threshold cooldown : Nat) (history : List HealthEvent) :
    HealthRegistry :=
  history.foldl (HealthRegistry.apply threshold cooldown) .new

/-- The failures of a provider since its last success. -/
def openFailures (p : String) (history : List HealthEvent) : List HealthEvent :=
  Streak.sinceOk HealthEvent.provider HealthEvent.isSuccess p history

def failureCount (history : List HealthEvent) : Nat := history.countP fun e => !e.isSuccess

/-- When a provider last failed. -/
def lastFailureTime (p : String) : List HealthEvent → Option Instant
  | [] => none
  | .success _ :: rest => lastFailureTime p rest
  | .failure q time :: rest =>
    match lastFailureTime p rest with
    | some later => some later
    | none => if q = p then some time else none

theorem openFailures_concat_success (p : String) (history : List HealthEvent) :
    openFailures p (history ++ [.success p]) = [] :=
  Streak.sinceOk_concat_ok HealthEvent.provider HealthEvent.isSuccess (e := .success p) rfl rfl _

theorem openFailures_concat_failure (p : String) (history : List HealthEvent) (time : Instant) :
    openFailures p (history ++ [.failure p time]) = openFailures p history ++ [.failure p time] :=
  Streak.sinceOk_concat_bad HealthEvent.provider HealthEvent.isSuccess
    (e := .failure p time) rfl rfl _

theorem openFailures_concat_other {p : String} (h : e.provider ≠ p) (history : List HealthEvent) :
    openFailures p (history ++ [e]) = openFailures p history :=
  Streak.sinceOk_concat_other _ _ h _

theorem openFailures_length_le (p : String) (history : List HealthEvent) :
    (openFailures p history).length ≤ failureCount history :=
  Streak.sinceOk_length_le _ _ _ _

theorem HealthRegistry.replay_concat (history : List HealthEvent) (e : HealthEvent) :
    replay threshold cooldown (history ++ [e]) =
      (replay threshold cooldown history).apply threshold cooldown e := by
  simp only [replay, List.foldl_append, List.foldl_cons, List.foldl_nil]

theorem HealthRegistry.get_apply_of_ne {p : String} (g : HealthRegistry)
    (h : e.provider ≠ p) : (g.apply threshold cooldown e).get p = g.get p := by
  cases e with
  | success q => exact get_recordSuccess_of_ne (Ne.symm h) g
  | failure q time => exact get_recordFailure_of_ne (Ne.symm h) g

theorem lastFailureTime_concat_success (history : List HealthEvent) (q : String) :
    lastFailureTime p (history ++ [.success q]) = lastFailureTime p history := by
  induction history with
  | nil => rfl
  | cons e history ih => cases e <;> simp only [List.cons_append, lastFailureTime, ih]

theorem lastFailureTime_concat_self (history : List HealthEvent) (time : Instant) :
    lastFailureTime p (history ++ [.failure p time]) = some time := by
  induction history with
  | nil => simp only [List.nil_append, lastFailureTime, ↓reduceIte]
  | cons e history ih => cases e <;> simp only [List.cons_append, lastFailureTime, ih]

theorem lastFailureTime_concat_other (h : q ≠ p) (history : List HealthEvent) (time : Instant) :
    lastFailureTime p (history ++ [.failure q time]) = lastFailureTime p history := by
  induction history with
  | nil => simp only [List.nil_append, lastFailureTime, if_neg h]
  | cons e history ih => cases e <;> simp only [List.cons_append, lastFailureTime, ih]

/-- The counter and the deadline a provider's history calls for. -/
structure BreakerState (threshold cooldown : Nat) (p : String) (history : List HealthEvent)
    (h : ProviderHealth) : Prop where
  counter : h.consecutiveFailures = (openFailures p history).length
  deadline : h.cooldownUntil =
    if threshold ≤ (openFailures p history).length then
      (lastFailureTime p history).map (· + fromSecs cooldown)
    else none

/-- One more call keeps every provider's state as its history calls for. -/
theorem BreakerState.step (ht : 1 ≤ threshold) (hlen : failureCount (history ++ [e]) < UInt32.size)
    (h : BreakerState threshold cooldown p history (g.get p)) :
    BreakerState threshold cooldown p (history ++ [e])
      ((HealthRegistry.apply threshold cooldown g e).get p) := by
  have hle := openFailures_length_le p history
  by_cases hp : e.provider = p
  · cases e with
    | success q =>
      cases hp
      have h0 : ¬ threshold ≤ ([] : List HealthEvent).length := Nat.not_le_of_gt ht
      constructor
      · simp only [HealthRegistry.apply, HealthEvent.provider,
          HealthRegistry.get_recordSuccess_self, openFailures_concat_success, List.length_nil]
      · simp only [HealthRegistry.apply, HealthEvent.provider,
          HealthRegistry.get_recordSuccess_self, openFailures_concat_success, if_neg h0]
    | failure q time =>
      cases hp
      have hc : ((g.get q).consecutiveFailures + 1) % UInt32.size =
          (openFailures q history).length + 1 := by
        rw [show (g.get q).consecutiveFailures = _ from h.counter]
        rw [failureCount, List.countP_append] at hlen
        exact Nat.mod_eq_of_lt (Nat.lt_of_le_of_lt (Nat.succ_le_succ hle) hlen)
      constructor
      · simp only [HealthRegistry.apply, HealthEvent.provider,
          HealthRegistry.consecutiveFailures_recordFailure_self, hc, openFailures_concat_failure,
          List.length_append, List.length_singleton]
      · simp only [HealthRegistry.apply, HealthEvent.provider,
          HealthRegistry.cooldownUntil_recordFailure_self, hc, openFailures_concat_failure,
          List.length_append, List.length_singleton, lastFailureTime_concat_self,
          Option.map_some, ge_iff_le]
        by_cases hreach : threshold ≤ (openFailures q history).length + 1
        · simp only [if_pos hreach]
        · have hbelow : ¬ threshold ≤ (openFailures q history).length := by omega
          have hd : (g.get q).cooldownUntil = none := h.deadline.trans (if_neg hbelow)
          simp only [if_neg hreach, hd]
  · have ho := openFailures_concat_other hp history
    have hl : lastFailureTime p (history ++ [e]) = lastFailureTime p history := by
      cases e with
      | success q => exact lastFailureTime_concat_success _ _
      | failure q time => exact lastFailureTime_concat_other hp _ _
    rw [HealthRegistry.get_apply_of_ne g hp]
    exact ⟨by rw [ho]; exact h.counter, by rw [ho, hl]; exact h.deadline⟩

theorem HealthRegistry.replay_breakerState (cooldown : Nat) (ht : 1 ≤ threshold)
    (hlen : failureCount history < UInt32.size) (p : String) :
    BreakerState threshold cooldown p history ((replay threshold cooldown history).get p) := by
  induction history using List.reverseRecOn with
  | nil =>
    have h0 : ¬ threshold ≤ (openFailures p []).length := Nat.not_le_of_gt ht
    constructor
    · rfl
    · rw [if_neg h0]
      rfl
  | append_singleton history e ih =>
    have hle : failureCount history ≤ failureCount (history ++ [e]) := by
      rw [failureCount, failureCount, List.countP_append]
      exact Nat.le_add_right _ _
    rw [replay_concat]
    exact (ih (Nat.lt_of_le_of_lt hle hlen)).step ht hlen

/-- A provider is shut off exactly while it has failed at least the threshold number of times
since its last success and the cooldown of its last failure has not run out; what happens to
other providers never matters. -/
theorem circuit_breaker (ht : 1 ≤ threshold) (hlen : failureCount history < UInt32.size)
    (p : String) (t : Instant) :
    ((HealthRegistry.replay threshold cooldown history).isAvailable p t = false ↔
      threshold ≤ (openFailures p history).length ∧
        ∃ last, lastFailureTime p history = some last ∧ t < last + fromSecs cooldown) ∧
    ∀ e : HealthEvent, e.provider ≠ p →
      (HealthRegistry.replay threshold cooldown (history ++ [e])).isAvailable p t =
        (HealthRegistry.replay threshold cooldown history).isAvailable p t := by
  constructor
  · rw [HealthRegistry.isAvailable_eq,
      (HealthRegistry.replay_breakerState cooldown ht hlen p).deadline]
    by_cases hreach : threshold ≤ (openFailures p history).length
    · rw [if_pos hreach]
      cases lastFailureTime p history with
      | none => simp only [Option.map_none, Bool.true_eq_false, reduceCtorEq, false_and,
          exists_false, and_false]
      | some last =>
        simp only [Option.map_some, Bool.not_eq_false', decide_eq_true_eq, hreach, true_and,
          Option.some.injEq, exists_eq_left']
    · rw [if_neg hreach]
      simp only [hreach, Bool.true_eq_false, false_and]
  · intro e he
    rw [HealthRegistry.isAvailable_eq, HealthRegistry.isAvailable_eq,
      HealthRegistry.replay_concat, HealthRegistry.get_apply_of_ne _ he]

/-- Two failures within five seconds. -/
def twoFailures : List HealthEvent :=
  [.failure "a" (fromSecs 0), .success "b", .failure "a" (fromSecs 5)]

/-- The cooldown runs out, and one more failure starts the next one. -/
theorem circuit_breaker_reopens :
    (HealthRegistry.replay 2 60 twoFailures).isAvailable "a" (fromSecs 64) = false ∧
      (HealthRegistry.replay 2 60 twoFailures).isAvailable "a" (fromSecs 80) = true ∧
      (HealthRegistry.replay 2 60
        (twoFailures ++ [.failure "a" (fromSecs 90)])).isAvailable "a" (fromSecs 91) = false := by
  have hclosed (t : Instant) :
      (HealthRegistry.replay 2 60 twoFailures).isAvailable "a" t = false ↔
        2 ≤ (openFailures "a" twoFailures).length ∧
          ∃ last, lastFailureTime "a" twoFailures = some last ∧ t < last + fromSecs 60 :=
    (circuit_breaker (by decide) (by decide) "a" t).1
  refine ⟨(hclosed _).mpr ⟨by decide, fromSecs 5, rfl, by decide⟩, ?_, ?_⟩
  · rw [← Bool.not_eq_false, hclosed]
    rintro ⟨-, last, hlast, hbefore⟩
    cases hlast
    exact absurd hbefore (by decide)
  · exact (circuit_breaker (by decide) (by decide) "a" _).1.mpr
      ⟨by decide, fromSecs 90, rfl, by decide⟩

end TokenDealer
