import TokenDealer.FallbackRun

set_option autoImplicit true

namespace TokenDealer

/-- A call whose error is one to stop at is the last of its run, which returns that error. -/
def StopsRun (calls : List UpstreamCall) (result : AppResult ExecutionResult) : Prop :=
  ∀ before call after e, calls = before ++ call :: after → call.stopError = some e →
    after = [] ∧ result = .error e

/-- No retry is answered with an error to stop at. -/
def RetriesPass (calls : List UpstreamCall) : Prop :=
  ∀ call ∈ calls, call.isRetry = true →
    (outcomeOf call.answer).isFatal = false ∧ (outcomeOf call.answer).isContext = false

theorem UpstreamCall.stopError_eq_none {call : UpstreamCall} :
    call.stopError = none ↔
      (outcomeOf call.answer).isFatal = false ∧ (outcomeOf call.answer).isContext = false := by
  unfold stopError
  cases call.answer with
  | ok response => exact ⟨fun _ => ⟨rfl, rfl⟩, fun _ => rfl⟩
  | error e =>
    simp only [outcomeOf]
    cases classify e <;> simp [AttemptOutcome.isFatal, AttemptOutcome.isContext]

theorem UpstreamCall.stopError_ok {call : UpstreamCall} (h : call.answer = .ok response) :
    call.stopError = none := by
  rw [stopError, h]

theorem UpstreamCall.stopError_retry {call : UpstreamCall} (h : call.answer = .error e)
    (hretry : classify e = .retry ms reason) : call.stopError = none := by
  simp only [stopError, h, hretry]

/-- The error to stop at is never one the executor makes up at the end of a chain. -/
theorem UpstreamCall.stopError_ne_internal (call : UpstreamCall) (message : String) :
    call.stopError ≠ some (.internal message) := by
  intro h
  unfold stopError at h
  split at h
  · cases h
  · split at h
    · next hc =>
      cases Option.some.inj h
      cases hc
    · cases h
    · cases h

theorem stopsRun_nil (result : AppResult ExecutionResult) : StopsRun [] result := by
  intro before call after e h
  simp only [List.nil_eq, List.append_eq_nil_iff, reduceCtorEq, and_false] at h

theorem stopsRun_cons : StopsRun (call :: rest) result ↔
    (∀ e, call.stopError = some e → rest = [] ∧ result = .error e) ∧ StopsRun rest result := by
  constructor
  · intro h
    refine ⟨fun e he => h [] call rest e rfl he, ?_⟩
    intro before c after e hs he
    exact h (call :: before) c after e (by rw [hs, List.cons_append]) he
  · rintro ⟨hcall, hrest⟩ before c after e hs he
    cases before with
    | nil =>
      obtain ⟨rfl, rfl⟩ := List.cons.inj hs
      exact hcall e he
    | cons b before => exact hrest before c after e (List.cons.inj hs).2 he

theorem stopsRun_cons_of_passes (h : call.stopError = none) :
    StopsRun (call :: rest) result ↔ StopsRun rest result := by
  rw [stopsRun_cons]
  apply and_iff_right
  intro e he
  rw [h] at he
  cases he

theorem retriesPass_nil : RetriesPass [] := fun _ h => absurd h List.not_mem_nil

theorem retriesPass_cons : RetriesPass (call :: rest) ↔
    (call.isRetry = true → call.stopError = none) ∧ RetriesPass rest := by
  rw [RetriesPass, List.forall_mem_cons, UpstreamCall.stopError_eq_none, RetriesPass]

theorem retriesPass_cons_of_first (h : call.isRetry = false) :
    RetriesPass (call :: rest) ↔ RetriesPass rest := by
  rw [retriesPass_cons, h]
  exact and_iff_right nofun

section

variable {plan : RoutingPlan} {resolve : String → Option ProviderHandle} {hook : HealthHook}

/-- The entry a run ends at always ends it as its calls demand. -/
theorem EntryCalls.stop_iff
    (h : EntryCalls plan resolve hook entry visit health calls health' (some result)) :
    StopsRun calls result ↔ RetriesPass calls := by
  generalize hv : some result = verdict at h
  cases h with
  | notCalled _ => exact iff_of_true (stopsRun_nil _) retriesPass_nil
  | served _ hcall hfirst r =>
    subst hcall
    rw [stopsRun_cons_of_passes (UpstreamCall.stopError_ok hfirst), retriesPass_cons_of_first rfl]
    exact iff_of_true (stopsRun_nil _) retriesPass_nil
  | @failed _ call _ _ _ hcall hfirst _ =>
    have hfirst' : call.isRetry = false := by rw [hcall]; rfl
    rw [retriesPass_cons_of_first hfirst', stopsRun_cons]
    refine iff_of_true ⟨fun e he => ⟨rfl, ?_⟩, stopsRun_nil _⟩ retriesPass_nil
    rw [he] at hv
    exact Option.some.inj hv
  | retryServed _ hcall hfirst hretry hcall' hagain r =>
    subst hcall' hcall
    rw [stopsRun_cons_of_passes (UpstreamCall.stopError_retry hfirst hretry),
      stopsRun_cons_of_passes (UpstreamCall.stopError_ok hagain), retriesPass_cons_of_first rfl,
      retriesPass_cons]
    exact iff_of_true (stopsRun_nil _) ⟨fun _ => UpstreamCall.stopError_ok hagain, retriesPass_nil⟩
  | retryFailed _ _ _ _ _ _ => cases hv

/-- An entry the run goes on from is harmless unless its retry met an error to stop at. -/
theorem EntryCalls.next_iff
    (h : EntryCalls plan resolve hook entry visit health calls health' none)
    (hlast : rest = [] → ∃ message, result = .error (.internal message))
    (ih : StopsRun rest result ↔ RetriesPass rest) :
    StopsRun (calls ++ rest) result ↔ RetriesPass (calls ++ rest) := by
  generalize hv : none = verdict at h
  cases h with
  | notCalled _ => exact ih
  | served _ _ _ _ => cases hv
  | failed _ hcall _ _ =>
    subst hcall
    rw [List.singleton_append, retriesPass_cons_of_first rfl,
      stopsRun_cons_of_passes (Option.map_eq_none_iff.mp hv.symm)]
    exact ih
  | retryServed _ _ _ _ _ _ _ => cases hv
  | @retryFailed _ _ _ _ _ _ call' _ _ _ hcall hfirst hretry hcall' _ =>
    have hagain : call'.isRetry = true := by rw [hcall']; rfl
    subst hcall
    rw [List.cons_append, List.singleton_append,
      stopsRun_cons_of_passes (UpstreamCall.stopError_retry hfirst hretry),
      retriesPass_cons_of_first rfl, stopsRun_cons, retriesPass_cons, ih]
    refine and_congr_left fun _ => ⟨fun h _ => ?_, fun h e he => ?_⟩
    · -- a run that stopped here would have to return an error of its own making
      cases hstop : call'.stopError with
      | none => rfl
      | some e =>
        obtain ⟨hrest, hresult⟩ := h e hstop
        obtain ⟨message, hmessage⟩ := hlast hrest
        rw [hresult] at hmessage
        cases hmessage
        exact absurd hstop (call'.stopError_ne_internal message)
    · rw [h hagain] at he
      cases he

theorem RunCalls.stops_iff
    (h : RunCalls plan resolve hook upstream chain health calls health' result) :
    StopsRun calls result ↔ RetriesPass calls := by
  induction h with
  | exhausted message => exact iff_of_true (stopsRun_nil _) retriesPass_nil
  | stop hentry => exact hentry.stop_iff
  | next hentry hrest ih => exact hentry.next_iff hrest.of_no_calls ih

end

/-- A run stops at the first fatal or context error, and returns it, exactly when no retry it
makes is answered with one: the stop test reads the outcome of the first call only. -/
theorem execute_stops_iff (plan : RoutingPlan) (resolve : String → Option ProviderHandle)
    (hook : HealthHook) (upstream : Nat → Visit) (health : HealthRegistry) (now : Instant) :
    StopsRun (execute plan resolve hook upstream health now).1.calls
        (execute plan resolve hook upstream health now).2 ↔
      RetriesPass (execute plan resolve hook upstream health now).1.calls :=
  (execute_calls upstream health now).stops_iff

/-- The first provider limits the rate and then refuses the key; the second would answer. -/
def limitedThenRefused : Nat → Visit
  | 0 => .instant (.error (.providerError "a" 429 "slow down"))
      (.error (.providerError "a" 401 "bad key"))
  | _ => .instant (.ok ⟨"r", "m", "b", [.text "hello"], some "stop", {}⟩)
      (.error (.upstreamTimeout 0))

/-- After the refused retry the run goes on to the second provider. -/
theorem execute_passes_refused_retry :
    ¬ StopsRun
      (execute (samplePlan "a/m" ["b/m"]) sampleResolve ⟨1, 60⟩ limitedThenRefused .new 0).1.calls
      (execute (samplePlan "a/m" ["b/m"]) sampleResolve ⟨1, 60⟩ limitedThenRefused .new 0).2 := by
  intro h
  obtain ⟨hlast, -⟩ := h [_] _ [_] (.providerError "a" 401 "bad key") rfl rfl
  cases hlast

end TokenDealer
