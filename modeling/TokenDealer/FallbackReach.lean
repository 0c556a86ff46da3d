import TokenDealer.FallbackRun

set_option autoImplicit true

namespace TokenDealer

section

variable {plan : RoutingPlan} {resolve : String → Option ProviderHandle} {hook : HealthHook}

/-- A call of the run of a plan under a resolver. -/
structure CallOf (plan : RoutingPlan) (resolve : String → Option ProviderHandle)
    (chain : List ChainEntry) (call : UpstreamCall) : Prop where
  entry_mem : call.entry ∈ chain
  resolved : resolve call.entry.provider = some call.handle
  request : call.request = canonicalFor plan call.handle

theorem callOf_spec (hmem : entry ∈ chain) (hresolve : resolve entry.provider = some handle) :
    CallOf plan resolve chain (callOf plan hook entry isRetry handle reply now health) :=
  ⟨hmem, hresolve, rfl⟩

theorem EntryCalls.callOf
    (h : EntryCalls plan resolve hook entry visit health calls health' verdict)
    (hmem : entry ∈ chain) : ∀ call ∈ calls, CallOf plan resolve chain call := by
  cases h with
  | notCalled _ => exact fun call h => absurd h List.not_mem_nil
  | served hresolve hcall _ _ =>
    subst hcall
    exact List.forall_mem_singleton.mpr (callOf_spec hmem hresolve)
  | failed hresolve hcall _ _ =>
    subst hcall
    exact List.forall_mem_singleton.mpr (callOf_spec hmem hresolve)
  | retryServed hresolve hcall _ _ hcall' _ _ =>
    subst hcall' hcall
    exact List.forall_mem_cons.mpr ⟨callOf_spec hmem hresolve,
      List.forall_mem_singleton.mpr (callOf_spec hmem hresolve)⟩
  | retryFailed hresolve hcall _ _ hcall' _ =>
    subst hcall' hcall
    exact List.forall_mem_cons.mpr ⟨callOf_spec hmem hresolve,
      List.forall_mem_singleton.mpr (callOf_spec hmem hresolve)⟩

theorem CallOf.mono (h : CallOf plan resolve chain call) (hsub : chain ⊆ chain') :
    CallOf plan resolve chain' call :=
  ⟨hsub h.entry_mem, h.resolved, h.request⟩

theorem RunCalls.callOf
    (h : RunCalls plan resolve hook upstream chain health calls health' result) :
    ∀ call ∈ calls, CallOf plan resolve chain call := by
  induction h with
  | exhausted message => exact fun call h => absurd h List.not_mem_nil
  | stop hentry => exact hentry.callOf List.mem_cons_self
  | next hentry _ ih =>
    intro call hcall
    rcases List.mem_append.mp hcall with hcall | hcall
    · exact hentry.callOf List.mem_cons_self call hcall
    · exact (ih call hcall).mono (List.subset_cons_self _ _)

theorem execute_callOf (upstream : Nat → Visit) (health : HealthRegistry) (now : Instant) :
    ∀ call ∈ (execute plan resolve hook upstream health now).1.calls,
      CallOf plan resolve plan.chain call :=
  (execute_calls upstream health now).callOf

end

def timeout : AppResult CanonicalResponse := .error (.providerError "" 408 "")

/-- Every upstream answers every call at once with a request timeout. -/
def timedOut (_ : Nat) : Visit := .instant timeout timeout

/-- No time has passed and no provider is cooling down. -/
structure Fresh (started : Instant) (st : ExecState) : Prop where
  now : st.now = started
  up : ∀ p t, st.health.isAvailable p t = true

theorem isAvailable_recordSuccess (hup : ∀ p t, HealthRegistry.isAvailable g p t = true)
    (q p : String) (t : Instant) : (g.recordSuccess q).isAvailable p t = true := by
  rw [HealthRegistry.isAvailable_eq]
  by_cases hp : p = q
  · subst hp
    rw [HealthRegistry.get_recordSuccess_self]
  · rw [HealthRegistry.get_recordSuccess_of_ne hp, ← HealthRegistry.isAvailable_eq]
    exact hup p t

section

variable {plan : RoutingPlan} {resolve : String → Option ProviderHandle} {hook : HealthHook}

theorem Fresh.inBudget (h : Fresh started st) (hbudget : 0 < plan.requestBudget) :
    ¬ st.now - started ≥ plan.requestBudget := by
  rw [h.now, Nat.sub_self]
  exact Nat.not_le_of_gt hbudget

theorem Fresh.notSkipped (h : Fresh started st) (p : String) :
    ¬ (!st.health.isAvailable p st.now) = true := by
  rw [h.up p st.now]
  exact Bool.false_ne_true

variable (plan hook) in
theorem Fresh.attempt (h : Fresh started st) (entry : ChainEntry) (isRetry : Bool)
    (handle : ProviderHandle) :
    Fresh started (attempt plan hook entry isRetry handle ⟨0, timeout, 0⟩ st) :=
  ⟨h.now, fun p t => isAvailable_recordSuccess h.up handle.providerId p t⟩

theorem retryAttempt_timedOut (entry : ChainEntry) (handle : ProviderHandle) (st : ExecState) :
    retryAttempt plan hook entry handle (timedOut i) (outcomeOf timeout) st =
      attempt plan hook entry true handle ⟨0, timeout, 0⟩ st := by
  have hwait : (outcomeOf timeout).waitMs plan.maxRetryAfterMs = 0 := Nat.zero_min _
  rw [retryAttempt, hwait]
  rfl

theorem callProvider_timedOut (entry : ChainEntry) (handle : ProviderHandle) (st : ExecState) :
    callProvider plan hook entry handle (timedOut i) st =
      ((attempt plan hook entry true handle ⟨0, timeout, 0⟩
        (attempt plan hook entry false handle ⟨0, timeout, 0⟩ (st.tried handle))).passOn,
        none) := by
  rw [← retryAttempt_timedOut (i := i)]
  rfl

variable (resolve hook) in
/-- The chain goes on from every entry, and one with a handle has been called by then. -/
theorem executeEntry_timedOut (hbudget : 0 < plan.requestBudget) (h : Fresh started st)
    (entry : ChainEntry) :
    ∃ st', executeEntry plan resolve hook started entry (timedOut i) st = (st', none) ∧
      Fresh started st' ∧ st.calls ⊆ st'.calls ∧
      ∀ handle, resolve entry.provider = some handle →
        ∃ call ∈ st'.calls, call.entry = entry ∧ call.handle = handle := by
  have hin := h.inBudget hbudget
  have hup := h.notSkipped entry.provider
  rw [executeEntry]
  cases hresolve : resolve entry.provider with
  | none =>
    refine ⟨st.skip entry "no adapter", (if_neg hin).trans (if_neg hup), ⟨h.now, h.up⟩,
      List.Subset.refl _, fun handle hh => by cases hh⟩
  | some handle =>
    refine ⟨_, (if_neg hin).trans ((if_neg hup).trans (callProvider_timedOut entry handle st)),
      ?_, ?_, ?_⟩
    · have htried : Fresh started (st.tried handle) := ⟨h.now, h.up⟩
      have hcalled := (htried.attempt plan hook entry false handle).attempt plan hook entry true
        handle
      exact ⟨hcalled.now, hcalled.up⟩
    · exact fun call hcall => List.mem_append_left _ (List.mem_append_left _ hcall)
    · intro handle' hh
      cases hh
      exact ⟨_, List.mem_append_left _ (List.mem_append_right _ (List.mem_singleton_self _)),
        rfl, rfl⟩

theorem executeChain_timedOut (hbudget : 0 < plan.requestBudget) (h : Fresh started st)
    (chain : List ChainEntry) :
    st.calls ⊆ (executeChain plan resolve hook started timedOut chain st).1.calls ∧
      ∀ entry ∈ chain, ∀ handle, resolve entry.provider = some handle →
        ∃ call ∈ (executeChain plan resolve hook started timedOut chain st).1.calls,
          call.entry = entry ∧ call.handle = handle := by
  induction chain generalizing st with
  | nil => exact ⟨List.Subset.refl _, fun entry h => absurd h List.not_mem_nil⟩
  | cons first rest ih =>
    obtain ⟨st', hstep, hfresh, hsub, hcalled⟩ := executeEntry_timedOut resolve hook
      (i := first.position) hbudget h first
    obtain ⟨hsub', hrest⟩ := ih hfresh
    rw [executeChain, hstep]
    refine ⟨List.Subset.trans hsub hsub', ?_⟩
    intro entry hentry handle hresolve
    rcases List.mem_cons.mp hentry with rfl | hentry
    · obtain ⟨call, hcall, hspec⟩ := hcalled handle hresolve
      exact ⟨call, hsub' hcall, hspec⟩
    · exact hrest entry hentry handle hresolve

variable (hook) in
/-- Under timeouts everywhere a run with any budget calls every entry that has a handle. -/
theorem execute_timedOut (hbudget : 0 < plan.requestBudget) (hentry : entry ∈ plan.chain)
    (hresolve : resolve entry.provider = some handle) :
    ∃ call ∈ (execute plan resolve hook timedOut .new 0).1.calls,
      call.entry = entry ∧ call.handle = handle := by
  have hfresh : Fresh 0 { now := 0, health := .new } := ⟨rfl, fun _ _ => rfl⟩
  exact (executeChain_timedOut hbudget hfresh plan.chain).2 entry hentry handle hresolve

/-- Without any budget no upstream is called. -/
theorem execute_noBudget (hbudget : plan.requestBudget = 0) (upstream : Nat → Visit)
    (health : HealthRegistry) (now : Instant) :
    (execute plan resolve hook upstream health now).1.calls = [] := by
  obtain ⟨entry, rest, hchain⟩ : ∃ entry rest, plan.chain = entry :: rest := ⟨_, _, rfl⟩
  have hout : (({ now, health } : ExecState).wait
      (upstream entry.position).beforeBudget).now - now ≥ plan.requestBudget := by
    rw [hbudget]
    exact Nat.zero_le _
  rw [execute, hchain, executeChain, executeEntry, if_pos hout]
  rfl

end

end TokenDealer
