import TokenDealer.FallbackRun
import TokenDealer.Streak

set_option autoImplicit true

namespace TokenDealer

/-- One run of the executor: what it is asked and how its upstreams behave. -/
structure RunInput where
  plan : RoutingPlan
  resolve : String → Option ProviderHandle
  hook : HealthHook
  upstream : Nat → Visit
  idle : Nat

/-- The clock, the shared health map and every call made since the start. -/
structure Service where
  now : Instant := 0
  health : HealthRegistry := .new
  calls : List UpstreamCall := []

def Service.run (s : Service) (r : RunInput) : Service :=
  let final := (execute r.plan r.resolve r.hook r.upstream s.health (s.now + r.idle)).1
  ⟨final.now, final.health, s.calls ++ final.calls⟩

def Service.runs (rs : List RunInput) : Service := rs.foldl Service.run {}

namespace UpstreamCall

def provider (call : UpstreamCall) : String := call.handle.providerId

def isOk (call : UpstreamCall) : Bool := outcomeOf call.answer = .success

/-- What the executor records as a success. -/
def recordedOk (call : UpstreamCall) : Bool :=
  (outcomeOf call.answer).isRetry || outcomeOf call.answer = .success

/-- The attempt adds one failure to its provider's count and leaves a running cooldown in place. -/
def CountsFailure (call : UpstreamCall) : Prop :=
  (call.healthAfter.get call.provider).consecutiveFailures =
      (call.healthBefore.get call.provider).consecutiveFailures + 1 ∧
    ((call.healthBefore.get call.provider).cooldownUntil.isSome →
      (call.healthAfter.get call.provider).cooldownUntil.isSome)

theorem recordedOk_of_isOk (call : UpstreamCall) (h : call.isOk = true) :
    call.recordedOk = true := by
  rw [recordedOk, Bool.or_eq_true]
  exact .inr h

theorem recordedOk_eq_false (call : UpstreamCall) :
    call.recordedOk = false ↔ (outcomeOf call.answer).isRetry = false ∧ call.isOk = false := by
  rw [recordedOk, Bool.or_eq_false_iff, isOk]

end UpstreamCall

/-- The calls to a provider that returned an error since the last one that did not. -/
def errorsSinceOk (p : String) (calls : List UpstreamCall) : List UpstreamCall :=
  Streak.sinceOk UpstreamCall.provider UpstreamCall.isOk p calls

def recordedSinceOk (p : String) (calls : List UpstreamCall) : List UpstreamCall :=
  Streak.sinceOk UpstreamCall.provider UpstreamCall.recordedOk p calls

/-- Every call moves the health map by its own record and nothing else does. -/
inductive HealthTrace (health : HealthRegistry) : List UpstreamCall → HealthRegistry → Prop where
  | nil : HealthTrace health [] health
  | snoc (htrace : HealthTrace health calls health') (hbefore : call.healthBefore = health')
      (hafter : call.healthAfter =
        HealthHook.record hook health' call.provider (outcomeOf call.answer) now) :
      HealthTrace health (calls ++ [call]) call.healthAfter

theorem HealthTrace.append (h : HealthTrace health calls health')
    (h' : HealthTrace health' calls' health'') : HealthTrace health (calls ++ calls') health'' := by
  induction h' with
  | nil => rwa [List.append_nil]
  | snoc _ hbefore hafter ih =>
    rw [← List.append_assoc]
    exact .snoc ih hbefore hafter

theorem healthTrace_callOf :
    HealthTrace health [callOf plan hook entry isRetry handle reply now health]
      (callOf plan hook entry isRetry handle reply now health).healthAfter :=
  .snoc .nil rfl rfl

theorem EntryCalls.healthTrace
    (h : EntryCalls plan resolve hook entry visit health calls health' verdict) :
    HealthTrace health calls health' := by
  cases h with
  | notCalled _ => exact .nil
  | served _ hcall _ _ =>
    subst hcall
    exact healthTrace_callOf
  | failed _ hcall _ _ =>
    subst hcall
    exact healthTrace_callOf
  | retryServed _ hcall _ _ hcall' _ _ =>
    subst hcall' hcall
    exact healthTrace_callOf.append healthTrace_callOf
  | retryFailed _ hcall _ _ hcall' _ =>
    subst hcall' hcall
    exact healthTrace_callOf.append healthTrace_callOf

theorem RunCalls.healthTrace
    (h : RunCalls plan resolve hook upstream chain health calls health' result) :
    HealthTrace health calls health' := by
  induction h with
  | exhausted message => exact .nil
  | stop hentry => exact hentry.healthTrace
  | next hentry _ ih => exact hentry.healthTrace.append ih

theorem Service.runs_concat (rs : List RunInput) (r : RunInput) :
    runs (rs ++ [r]) = (runs rs).run r := by
  simp only [runs, List.foldl_append, List.foldl_cons, List.foldl_nil]

theorem Service.runs_healthTrace (rs : List RunInput) :
    HealthTrace .new (runs rs).calls (runs rs).health := by
  induction rs using List.reverseRecOn with
  | nil => exact .nil
  | append_singleton rs r ih =>
    rw [runs_concat]
    exact ih.append (execute_calls _ _ _).healthTrace

theorem HealthHook.record_of_ne {p q : String} (h : p ≠ q) (hook : HealthHook)
    (health : HealthRegistry) (outcome : AttemptOutcome) (now : Instant) :
    (hook.record health q outcome now).get p = health.get p := by
  rw [HealthHook.record]
  split
  · exact HealthRegistry.get_recordSuccess_of_ne h health
  · exact HealthRegistry.get_recordFailure_of_ne h health

theorem HealthHook.record_ok (hook : HealthHook) (health : HealthRegistry) (call : UpstreamCall)
    (h : call.recordedOk = true) (now : Instant) :
    ((hook.record health call.provider (outcomeOf call.answer) now).get
      call.provider).consecutiveFailures = 0 := by
  rw [UpstreamCall.recordedOk] at h
  rw [HealthHook.record, if_pos h, HealthRegistry.get_recordSuccess_self]

theorem HealthHook.record_error (hook : HealthHook) (health : HealthRegistry)
    (call : UpstreamCall) (h : call.recordedOk = false) (now : Instant) :
    hook.record health call.provider (outcomeOf call.answer) now =
      health.recordFailure call.provider hook.failureThreshold hook.cooldownSecs now := by
  have hno := Bool.eq_false_iff.mp h
  rw [UpstreamCall.recordedOk] at hno
  rw [HealthHook.record, if_neg hno]

theorem recordedSinceOk_length_le (p : String) (calls : List UpstreamCall) :
    (recordedSinceOk p calls).length ≤ calls.length :=
  (Streak.sinceOk_length_le _ _ p calls).trans List.countP_le_length

/-- The counter counts the errors the executor records as such. -/
theorem HealthTrace.count (h : HealthTrace .new calls health) (hlen : calls.length < UInt32.size)
    (p : String) : (health.get p).consecutiveFailures = (recordedSinceOk p calls).length := by
  induction h with
  | nil => rfl
  | @snoc calls health' hook now call htrace hbefore hafter ih =>
    rw [List.length_append, List.length_singleton] at hlen
    have hcount := ih (Nat.lt_of_succ_lt hlen)
    rw [hafter]
    by_cases hp : call.provider = p
    · cases hok : call.recordedOk with
      | true =>
        rw [recordedSinceOk, Streak.sinceOk_concat_ok _ _ hp hok, ← hp,
          hook.record_ok health' call hok, List.length_nil]
      | false =>
        have hle := recordedSinceOk_length_le p calls
        rw [recordedSinceOk, Streak.sinceOk_concat_bad _ _ hp hok, List.length_append,
          List.length_singleton, hook.record_error health' call hok, ← hp,
          HealthRegistry.consecutiveFailures_recordFailure_self, hp, hcount]
        exact Nat.mod_eq_of_lt (Nat.lt_of_le_of_lt (Nat.succ_le_succ hle) hlen)
    · rw [recordedSinceOk, Streak.sinceOk_concat_other _ _ hp, hook.record_of_ne (Ne.symm hp)]
      exact hcount

theorem countsFailure_iff {call : UpstreamCall} (hook : HealthHook)
    (hafter : call.healthAfter =
      hook.record call.healthBefore call.provider (outcomeOf call.answer) now)
    (hlen : (call.healthBefore.get call.provider).consecutiveFailures + 1 < UInt32.size) :
    call.CountsFailure ↔ call.recordedOk = false := by
  rw [UpstreamCall.CountsFailure, hafter]
  cases hok : call.recordedOk with
  | true =>
    rw [hook.record_ok _ call hok]
    exact iff_of_false (fun h => absurd h.1.symm (Nat.succ_ne_zero _)) Bool.noConfusion
  | false =>
    rw [hook.record_error _ call hok, HealthRegistry.consecutiveFailures_recordFailure_self,
      HealthRegistry.cooldownUntil_recordFailure_self, Nat.mod_eq_of_lt hlen]
    refine iff_of_true ⟨rfl, ?_⟩ rfl
    intro h
    split
    · rfl
    · exact h

theorem HealthTrace.countsFailure_iff (h : HealthTrace .new calls health)
    (hlen : calls.length < UInt32.size) :
    ∀ call ∈ calls, call.CountsFailure ↔ call.recordedOk = false := by
  induction h with
  | nil => exact fun call h => absurd h List.not_mem_nil
  | @snoc calls health' hook now last htrace hbefore hafter ih =>
    rw [List.length_append, List.length_singleton] at hlen
    intro call hcall
    rcases List.mem_append.mp hcall with hcall | hcall
    · exact ih (Nat.lt_of_succ_lt hlen) call hcall
    · rw [List.mem_singleton.mp hcall]
      subst hbefore
      apply TokenDealer.countsFailure_iff hook hafter
      rw [htrace.count (Nat.lt_of_succ_lt hlen)]
      exact Nat.lt_of_le_of_lt (Nat.succ_le_succ (recordedSinceOk_length_le _ _)) hlen

/-- After any number of runs a provider's count is the number of its errors since its last answer
exactly when none of these errors was a rate limit or a request timeout, and an attempt that
returned an error counts as a failure exactly when it was neither. -/
theorem failure_count_iff (rs : List RunInput)
    (hlen : (Service.runs rs).calls.length < UInt32.size) :
    (∀ p, ((Service.runs rs).health.get p).consecutiveFailures =
        (errorsSinceOk p (Service.runs rs).calls).length ↔
      ∀ call ∈ errorsSinceOk p (Service.runs rs).calls,
        (outcomeOf call.answer).isRetry = false) ∧
    ∀ call ∈ (Service.runs rs).calls, call.isOk = false →
      (call.CountsFailure ↔ (outcomeOf call.answer).isRetry = false) := by
  have htrace := Service.runs_healthTrace rs
  constructor
  · intro p
    have hlax := Streak.sinceOk_lax UpstreamCall.provider UpstreamCall.isOk
      UpstreamCall.recordedOk_of_isOk p (Service.runs rs).calls
    rw [htrace.count hlen p]
    refine hlax.2.trans (forall₂_congr ?_)
    intro call hcall
    rw [call.recordedOk_eq_false]
    exact and_iff_left (Streak.mem_sinceOk _ _ hcall).2.2
  · intro call hcall hok
    rw [htrace.countsFailure_iff hlen call hcall, call.recordedOk_eq_false]
    exact and_iff_left hok

/-- A run that meets one provider, which gives the same error to every call. -/
def failingRun (status : Nat) : RunInput where
  plan := samplePlan "a/m" []
  resolve := sampleResolve
  hook := ⟨3, 60⟩
  upstream := fun _ => .instant (.error (.providerError "a" status ""))
    (.error (.providerError "a" status ""))
  idle := 1

theorem failure_count_server_errors :
    ((Service.runs [failingRun 500, failingRun 503]).health.get "a").consecutiveFailures =
      (errorsSinceOk "a" (Service.runs [failingRun 500, failingRun 503]).calls).length :=
  ((failure_count_iff [failingRun 500, failingRun 503] (by decide)).1 "a").mpr (by decide)

/-- A rate limit met twice clears the failure before it: three errors, no failure counted. -/
theorem failure_count_rate_limited :
    ¬ ((Service.runs [failingRun 500, failingRun 429]).health.get "a").consecutiveFailures =
      (errorsSinceOk "a" (Service.runs [failingRun 500, failingRun 429]).calls).length := by
  decide

end TokenDealer
