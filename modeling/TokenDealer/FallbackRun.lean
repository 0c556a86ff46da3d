import TokenDealer.Fallback

set_option autoImplicit true

namespace TokenDealer

/-- The error an answer obliges a run to end with. -/
def UpstreamCall.stopError (call : UpstreamCall) : Option AppError :=
  match call.answer with
  | .ok _ => none
  | .error e =>
    match classify e with
    | .fatal _ => some e
    | .contextTooLong limit => some (.contextTooLong call.entry.model limit)
    | _ => none

/-- The calls made at one entry of the chain, the health map they leave behind and whether the
run ends there. -/
inductive EntryCalls (plan : RoutingPlan) (resolve : String → Option ProviderHandle)
    (hook : HealthHook) (entry : ChainEntry) (visit : Visit) (health : HealthRegistry) :
    List UpstreamCall → HealthRegistry → Option (AppResult ExecutionResult) → Prop where
  | notCalled (hresult : result = none ∨ ∃ message, result = some (.error (.internal message))) :
      EntryCalls plan resolve hook entry visit health [] health result
  | served (hresolve : resolve entry.provider = some handle)
      (hcall : call = callOf plan hook entry false handle visit.first now health)
      (hfirst : visit.first.answer = .ok response) (r : ExecutionResult) :
      EntryCalls plan resolve hook entry visit health [call] call.healthAfter (some (.ok r))
  | failed (hresolve : resolve entry.provider = some handle)
      (hcall : call = callOf plan hook entry false handle visit.first now health)
      (hfirst : visit.first.answer = .error e) (hretry : (classify e).isRetry = false) :
      EntryCalls plan resolve hook entry visit health [call] call.healthAfter
        (call.stopError.map .error)
  | retryServed (hresolve : resolve entry.provider = some handle)
      (hcall : call = callOf plan hook entry false handle visit.first now health)
      (hfirst : visit.first.answer = .error e) (hretry : classify e = .retry ms reason)
      (hcall' : call' = callOf plan hook entry true handle visit.retry later call.healthAfter)
      (hagain : visit.retry.answer = .ok response) (r : ExecutionResult) :
      EntryCalls plan resolve hook entry visit health [call, call'] call'.healthAfter
        (some (.ok r))
  | retryFailed (hresolve : resolve entry.provider = some handle)
      (hcall : call = callOf plan hook entry false handle visit.first now health)
      (hfirst : visit.first.answer = .error e) (hretry : classify e = .retry ms reason)
      (hcall' : call' = callOf plan hook entry true handle visit.retry later call.healthAfter)
      (hagain : visit.retry.answer = .error e') :
      EntryCalls plan resolve hook entry visit health [call, call'] call'.healthAfter none

/-- The calls of a whole run, its health map at the end and its result. -/
inductive RunCalls (plan : RoutingPlan) (resolve : String → Option ProviderHandle)
    (hook : HealthHook) (upstream : Nat → Visit) :
    List ChainEntry → HealthRegistry → List UpstreamCall → HealthRegistry →
      AppResult ExecutionResult → Prop where
  | exhausted (message : String) :
      RunCalls plan resolve hook upstream [] health [] health (.error (.internal message))
  | stop (hentry : EntryCalls plan resolve hook entry (upstream entry.position) health calls health'
      (some result)) :
      RunCalls plan resolve hook upstream (entry :: rest) health calls health' result
  | next (hentry : EntryCalls plan resolve hook entry (upstream entry.position) health calls health'
      none)
      (hrest : RunCalls plan resolve hook upstream rest health' calls' health'' result) :
      RunCalls plan resolve hook upstream (entry :: rest) health (calls ++ calls') health''
        result

section

variable {plan : RoutingPlan} {resolve : String → Option ProviderHandle} {hook : HealthHook}

theorem calls_attempt (st : ExecState) :
    (attempt plan hook entry isRetry handle reply st).calls =
      st.calls ++ [callOf plan hook entry isRetry handle reply st.now st.health] := rfl

theorem health_attempt (st : ExecState) :
    (attempt plan hook entry isRetry handle reply st).health =
      (callOf plan hook entry isRetry handle reply st.now st.health).healthAfter := rfl

variable (plan hook) in
theorem retryAttempt_spec (entry : ChainEntry) (handle : ProviderHandle) (visit : Visit)
    (outcome : AttemptOutcome) (st : ExecState) :
    ∃ now, (retryAttempt plan hook entry handle visit outcome st).calls = st.calls ++
        [callOf plan hook entry true handle visit.retry now st.health] ∧
      (retryAttempt plan hook entry handle visit outcome st).health =
        (callOf plan hook entry true handle visit.retry now st.health).healthAfter := by
  refine ⟨(st.sleep (outcome.waitMs plan.maxRetryAfterMs) visit.overshoot).now, ?_, ?_⟩
  · rw [retryAttempt, calls_attempt, ExecState.calls_sleep, ExecState.health_sleep]
  · rw [retryAttempt, health_attempt, ExecState.health_sleep]

/-- Settling makes no call and ends the run exactly when the error is one to stop at. -/
theorem settle_spec (entry : ChainEntry) (st : ExecState) (call : UpstreamCall)
    (hentry : call.entry = entry) (hanswer : call.answer = .error e) :
    (settle entry (classify e) e st).1.calls = st.calls ∧
      (settle entry (classify e) e st).1.health = st.health ∧
      (settle entry (classify e) e st).2 = call.stopError.map .error := by
  simp only [settle, UpstreamCall.stopError, hanswer, hentry]
  cases classify e <;> exact ⟨rfl, rfl, rfl⟩

theorem callProvider_calls (hresolve : resolve entry.provider = some handle) (visit : Visit)
    (st : ExecState) :
    ∃ calls, (callProvider plan hook entry handle visit st).1.calls = st.calls ++ calls ∧
      EntryCalls plan resolve hook entry visit st.health calls
        (callProvider plan hook entry handle visit st).1.health
        (callProvider plan hook entry handle visit st).2 := by
  have hstep := callProvider_step plan hook entry handle visit st
  generalize (callProvider plan hook entry handle visit st).1 = final at hstep
  generalize (callProvider plan hook entry handle visit st).2 = verdict at hstep
  cases hstep with
  | served hfirst hst =>
    subst hst
    exact ⟨_, calls_attempt _, .served hresolve rfl hfirst _⟩
  | failed hfirst hretry hst =>
    subst hst
    obtain ⟨hcalls, hhealth, hverdict⟩ := settle_spec entry
      (attempt plan hook entry false handle visit.first (st.tried handle))
      (callOf plan hook entry false handle visit.first st.now st.health) rfl hfirst
    rw [hcalls, hhealth, hverdict]
    exact ⟨_, calls_attempt _, .failed hresolve rfl hfirst hretry⟩
  | retryServed hfirst hretry hagain hst =>
    obtain ⟨later, hcalls, hhealth⟩ := retryAttempt_spec plan hook entry handle visit _
      (attempt plan hook entry false handle visit.first (st.tried handle))
    rw [← hst] at hcalls hhealth
    rw [hcalls, hhealth, calls_attempt, List.append_assoc]
    exact ⟨_, rfl, .retryServed hresolve rfl hfirst hretry rfl hagain _⟩
  | retryFailed hfirst hretry hagain hst =>
    obtain ⟨later, hcalls, hhealth⟩ := retryAttempt_spec plan hook entry handle visit _
      (attempt plan hook entry false handle visit.first (st.tried handle))
    rw [← hst] at hcalls hhealth
    rw [ExecState.passOn, hcalls, hhealth, calls_attempt, List.append_assoc]
    exact ⟨_, rfl, .retryFailed hresolve rfl hfirst hretry rfl hagain⟩

variable (plan resolve hook) in
theorem executeEntry_calls (started : Instant) (entry : ChainEntry) (visit : Visit)
    (st : ExecState) :
    ∃ calls,
      (executeEntry plan resolve hook started entry visit st).1.calls = st.calls ++ calls ∧
      EntryCalls plan resolve hook entry visit st.health calls
        (executeEntry plan resolve hook started entry visit st).1.health
        (executeEntry plan resolve hook started entry visit st).2 := by
  have hstep := executeEntry_step plan resolve hook started entry visit st
  generalize (executeEntry plan resolve hook started entry visit st).1 = final at hstep
  generalize (executeEntry plan resolve hook started entry visit st).2 = verdict at hstep
  cases hstep with
  | overBudget _ message =>
    exact ⟨[], (List.append_nil _).symm, .notCalled (.inr ⟨message, rfl⟩)⟩
  | notCalled _ _ _ => exact ⟨[], (List.append_nil _).symm, .notCalled (.inl rfl)⟩
  | called _ _ handle hresolve => exact callProvider_calls hresolve visit _

variable (plan resolve hook) in
theorem executeChain_calls (started : Instant) (upstream : Nat → Visit)
    (chain : List ChainEntry) (st : ExecState) :
    ∃ calls,
      (executeChain plan resolve hook started upstream chain st).1.calls = st.calls ++ calls ∧
      RunCalls plan resolve hook upstream chain st.health calls
        (executeChain plan resolve hook started upstream chain st).1.health
        (executeChain plan resolve hook started upstream chain st).2 := by
  induction chain generalizing st with
  | nil => exact ⟨[], (List.append_nil _).symm, .exhausted _⟩
  | cons entry rest ih =>
    obtain ⟨calls, hcalls, hentry⟩ := executeEntry_calls plan resolve hook started entry
      (upstream entry.position) st
    rw [executeChain]
    generalize executeEntry plan resolve hook started entry (upstream entry.position) st = step
      at hcalls hentry
    obtain ⟨st1, verdict⟩ := step
    cases verdict with
    | some result => exact ⟨calls, hcalls, .stop hentry⟩
    | none =>
      obtain ⟨calls', hcalls', hrest⟩ := ih st1
      refine ⟨calls ++ calls', ?_, .next hentry hrest⟩
      rw [hcalls', hcalls, List.append_assoc]

/-- A run is described by the calls it makes. -/
theorem execute_calls (upstream : Nat → Visit) (health : HealthRegistry) (now : Instant) :
    RunCalls plan resolve hook upstream plan.chain health
      (execute plan resolve hook upstream health now).1.calls
      (execute plan resolve hook upstream health now).1.health
      (execute plan resolve hook upstream health now).2 := by
  obtain ⟨calls, hcalls, hrun⟩ := executeChain_calls plan resolve hook now upstream plan.chain
    { now, health }
  rw [List.nil_append] at hcalls
  rw [execute, hcalls]
  exact hrun

theorem RunCalls.of_no_calls (hrun : RunCalls plan resolve hook upstream chain health calls
    health' result) (hcalls : calls = []) : ∃ message, result = .error (.internal message) := by
  induction hrun with
  | exhausted message => exact ⟨message, rfl⟩
  | stop hentry =>
    subst hcalls
    generalize hv : some _ = verdict at hentry
    cases hentry with
    | notCalled hresult =>
      subst hv
      rcases hresult with hresult | ⟨message, hresult⟩
      · cases hresult
      · exact ⟨message, Option.some.inj hresult⟩
  | next _ _ ih => exact ih (List.append_eq_nil_iff.mp hcalls).2

end

end TokenDealer
