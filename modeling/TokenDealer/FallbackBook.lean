import TokenDealer.FallbackReach

set_option autoImplicit true

namespace TokenDealer

/-- What one entry of the chain adds to the books of a run. -/
structure VisitRecord where
  entry : ChainEntry
  reachedAt : Instant
  health : HealthRegistry
  provider : String
  attempts : List AttemptRecord
  calls : List UpstreamCall
  leftAt : Instant
  healthAfter : HealthRegistry

def attemptOf (handle : ProviderHandle) (reply : Reply) : AttemptRecord :=
  ⟨handle.providerId, handle.modelId, outcomeOf reply.answer, asMillis reply.duration⟩

namespace VisitRecord

def testedAt (v : VisitRecord) (visit : Visit) : Instant := v.reachedAt + visit.beforeBudget

def checkedAt (v : VisitRecord) (visit : Visit) : Instant :=
  v.testedAt visit + visit.beforeAvailable

def calledAt (v : VisitRecord) (visit : Visit) : Instant := v.checkedAt visit + visit.beforeCall

/-- The last attempt of the entry succeeds, and no other one. -/
def Serves (v : VisitRecord) : Prop :=
  ∃ init a, v.attempts = init ++ [a] ∧ a.outcome = .success ∧ a.provider = v.provider ∧
    ∀ b ∈ init, b.outcome ≠ .success

def Fails (v : VisitRecord) : Prop := ∀ a ∈ v.attempts, a.outcome ≠ .success

end VisitRecord

/-- The time a sleep takes. -/
def sleepTime (waitMs overshoot : Nat) : Nat :=
  if waitMs > 0 then fromMillis waitMs + overshoot else 0

/-- The time from the start of the first call of an entry to that of its retry. -/
def Visit.retryDelay (visit : Visit) (maxRetryAfterMs : Nat) : Nat :=
  visit.first.duration + visit.first.lag +
    sleepTime ((outcomeOf visit.first.answer).waitMs maxRetryAfterMs) visit.overshoot

/-- The books of one entry: a provider that cools down or that there is no adapter for is skipped
and not called, and another one is called once, or twice after an answer that asks for a retry. -/
inductive Visited (plan : RoutingPlan) (resolve : String → Option ProviderHandle)
    (hook : HealthHook) (visit : Visit) (v : VisitRecord) : Prop where
  | skipped (hskip : v.health.isAvailable v.entry.provider (v.checkedAt visit) = false ∨
        resolve v.entry.provider = none) (reason : String)
      (hattempts : v.attempts = [⟨v.entry.provider, v.entry.model, .skip reason, 0⟩])
      (hcalls : v.calls = []) (hleft : v.leftAt = v.checkedAt visit)
      (hhealth : v.healthAfter = v.health) (hprovider : v.provider = v.entry.provider)
  | once (hup : v.health.isAvailable v.entry.provider (v.checkedAt visit) = true)
      (hresolve : resolve v.entry.provider = some handle)
      (hretry : (outcomeOf visit.first.answer).isRetry = false)
      (hattempts : v.attempts = [attemptOf handle visit.first])
      (hcall : call = callOf plan hook v.entry false handle visit.first (v.calledAt visit) v.health)
      (hcalls : v.calls = [call])
      (hleft : v.leftAt = v.calledAt visit + visit.first.duration + visit.first.lag)
      (hhealth : v.healthAfter = call.healthAfter) (hprovider : v.provider = handle.providerId)
  | twice (hup : v.health.isAvailable v.entry.provider (v.checkedAt visit) = true)
      (hresolve : resolve v.entry.provider = some handle)
      (hretry : (outcomeOf visit.first.answer).isRetry = true)
      (hattempts : v.attempts = [attemptOf handle visit.first, attemptOf handle visit.retry])
      (hcall : call = callOf plan hook v.entry false handle visit.first (v.calledAt visit) v.health)
      (hcall' : call' = callOf plan hook v.entry true handle visit.retry
        (v.calledAt visit + visit.retryDelay plan.maxRetryAfterMs) call.healthAfter)
      (hcalls : v.calls = [call, call'])
      (hleft : v.leftAt = v.calledAt visit + visit.retryDelay plan.maxRetryAfterMs +
        visit.retry.duration + visit.retry.lag)
      (hhealth : v.healthAfter = call'.healthAfter) (hprovider : v.provider = handle.providerId)

/-- The state after an entry is the one before with the books of the entry. -/
structure BookedBy (v : VisitRecord) (st final : ExecState) : Prop where
  reachedAt : v.reachedAt = st.now
  found : v.health = st.health
  leftAt : final.now = v.leftAt
  left : final.health = v.healthAfter
  attempts : final.attempts = st.attempts ++ v.attempts
  tried : final.providersTried = st.providersTried ++ [v.provider]
  calls : final.calls = st.calls ++ v.calls

/-- How the run goes on from an entry that has been booked. -/
inductive GoesOn (v : VisitRecord) (st final : ExecState) :
    Option (AppResult ExecutionResult) → Prop where
  | passes (hfails : v.Fails) (hcount : final.fallbackCount = st.fallbackCount + 1) :
      GoesOn v st final none
  | serves (hserves : v.Serves) (hcount : final.fallbackCount = st.fallbackCount)
      (response : CanonicalResponse) : GoesOn v st final (some (.ok (final.result response)))
  | stops (e : AppError) : GoesOn v st final (some (.error e))

/-- One round of the loop: it ends over the budget, or its entry is booked. -/
inductive EntryBook (plan : RoutingPlan) (resolve : String → Option ProviderHandle)
    (hook : HealthHook) (started : Instant) (entry : ChainEntry) (visit : Visit)
    (st : ExecState) : ExecState → Option (AppResult ExecutionResult) → Prop where
  | overBudget (hbudget : plan.requestBudget ≤ st.now + visit.beforeBudget - started)
      (hcalls : final.calls = st.calls) (hhealth : final.health = st.health) (message : String) :
      EntryBook plan resolve hook started entry visit st final
        (some (.error (.internal message)))
  | booked (v : VisitRecord) (hentry : v.entry = entry)
      (hbudget : v.testedAt visit - started < plan.requestBudget)
      (hvisited : Visited plan resolve hook visit v) (hbooked : BookedBy v st final)
      (hverdict : GoesOn v st final verdict) :
      EntryBook plan resolve hook started entry visit st final verdict

section

variable {plan : RoutingPlan} {resolve : String → Option ProviderHandle} {hook : HealthHook}

theorem classify_ne_success (e : AppError) : classify e ≠ .success := by
  cases e with
  | providerError provider status message =>
    rw [classify, classifyStatus]
    repeat' split
    all_goals exact AttemptOutcome.noConfusion
  | _ => exact AttemptOutcome.noConfusion

theorem sleep_eq (st : ExecState) (waitMs overshoot : Nat) :
    st.sleep waitMs overshoot = st.wait (sleepTime waitMs overshoot) := by
  rw [ExecState.sleep, sleepTime]
  split <;> rfl

theorem retryAttempt_eq (entry : ChainEntry) (handle : ProviderHandle) (visit : Visit)
    (st : ExecState) :
    retryAttempt plan hook entry handle visit (outcomeOf visit.first.answer)
        (attempt plan hook entry false handle visit.first st) =
      attempt plan hook entry true handle visit.retry
        { attempt plan hook entry false handle visit.first st with
          now := st.now + visit.retryDelay plan.maxRetryAfterMs } := by
  rw [retryAttempt, sleep_eq, ExecState.wait, Visit.retryDelay, ← Nat.add_assoc, ← Nat.add_assoc]
  rfl

/-- The books of an entry that is called once. -/
def onceRecord (plan : RoutingPlan) (hook : HealthHook) (entry : ChainEntry)
    (handle : ProviderHandle) (visit : Visit) (st : ExecState) : VisitRecord :=
  let at_ := st.now + visit.beforeBudget + visit.beforeAvailable + visit.beforeCall
  let call := callOf plan hook entry false handle visit.first at_ st.health
  { entry := entry
    reachedAt := st.now
    health := st.health
    provider := handle.providerId
    attempts := [attemptOf handle visit.first]
    calls := [call]
    leftAt := at_ + visit.first.duration + visit.first.lag
    healthAfter := call.healthAfter }

/-- The books of an entry that is called again. -/
def twiceRecord (plan : RoutingPlan) (hook : HealthHook) (entry : ChainEntry)
    (handle : ProviderHandle) (visit : Visit) (st : ExecState) : VisitRecord :=
  let first := onceRecord plan hook entry handle visit st
  let again := first.calledAt visit + visit.retryDelay plan.maxRetryAfterMs
  let call := callOf plan hook entry true handle visit.retry again first.healthAfter
  { first with
    attempts := first.attempts ++ [attemptOf handle visit.retry]
    calls := first.calls ++ [call]
    leftAt := again + visit.retry.duration + visit.retry.lag
    healthAfter := call.healthAfter }

/-- The state in which an entry is called. -/
def ExecState.beforeCall (st : ExecState) (visit : Visit) : ExecState :=
  ((st.wait visit.beforeBudget).wait visit.beforeAvailable).wait visit.beforeCall

/-- The state after the first call of an entry. -/
def afterFirst (plan : RoutingPlan) (hook : HealthHook) (entry : ChainEntry)
    (handle : ProviderHandle) (visit : Visit) (st : ExecState) : ExecState :=
  attempt plan hook entry false handle visit.first ((st.beforeCall visit).tried handle)

theorem onceRecord_visited {visit : Visit} {st : ExecState}
    (hup : st.health.isAvailable entry.provider
      (st.now + visit.beforeBudget + visit.beforeAvailable) = true)
    (hresolve : resolve entry.provider = some handle)
    (hretry : (outcomeOf visit.first.answer).isRetry = false) :
    Visited plan resolve hook visit (onceRecord plan hook entry handle visit st) :=
  .once hup hresolve hretry rfl rfl rfl rfl rfl rfl

theorem twiceRecord_visited {visit : Visit} {st : ExecState}
    (hup : st.health.isAvailable entry.provider
      (st.now + visit.beforeBudget + visit.beforeAvailable) = true)
    (hresolve : resolve entry.provider = some handle)
    (hretry : (outcomeOf visit.first.answer).isRetry = true) :
    Visited plan resolve hook visit (twiceRecord plan hook entry handle visit st) :=
  .twice hup hresolve hretry rfl rfl rfl rfl rfl rfl rfl

variable (plan hook) in
theorem onceRecord_booked (entry : ChainEntry) (handle : ProviderHandle) (visit : Visit)
    (st : ExecState) :
    BookedBy (onceRecord plan hook entry handle visit st) st
      (afterFirst plan hook entry handle visit st) :=
  ⟨rfl, rfl, rfl, rfl, rfl, rfl, rfl⟩

variable (plan hook) in
theorem twiceRecord_booked (entry : ChainEntry) (handle : ProviderHandle) (visit : Visit)
    (st : ExecState) :
    BookedBy (twiceRecord plan hook entry handle visit st) st
      (retryAttempt plan hook entry handle visit (outcomeOf visit.first.answer)
        (afterFirst plan hook entry handle visit st)) := by
  rw [afterFirst, retryAttempt_eq]
  refine ⟨rfl, rfl, rfl, rfl, ?_, rfl, ?_⟩
  · exact List.append_assoc _ _ _
  · exact List.append_assoc _ _ _

theorem fallbackCount_afterRetry (visit : Visit) (st : ExecState) :
    (retryAttempt plan hook entry handle visit (outcomeOf visit.first.answer)
      (afterFirst plan hook entry handle visit st)).fallbackCount = st.fallbackCount := by
  rw [afterFirst, retryAttempt_eq]
  rfl

theorem BookedBy.passOn (h : BookedBy v st final) : BookedBy v st final.passOn :=
  ⟨h.reachedAt, h.found, h.leftAt, h.left, h.attempts, h.tried, h.calls⟩

/-- An error is no success, and the run stops there or goes on. -/
theorem goesOn_settle (hbooked : BookedBy v st final) (hfails : v.Fails)
    (hcount : final.fallbackCount = st.fallbackCount) (entry : ChainEntry) (e e' : AppError) :
    BookedBy v st (settle entry (classify e) e' final).1 ∧
      GoesOn v st (settle entry (classify e) e' final).1
        (settle entry (classify e) e' final).2 := by
  cases classify e with
  | fatal reason => exact ⟨hbooked, .stops e'⟩
  | contextTooLong limit => exact ⟨hbooked, .stops _⟩
  | _ => exact ⟨hbooked.passOn, .passes hfails (congrArg (· + 1) hcount)⟩

theorem onceRecord_serves (hfirst : visit.first.answer = .ok response) (entry : ChainEntry)
    (handle : ProviderHandle) (st : ExecState) :
    (onceRecord plan hook entry handle visit st).Serves :=
  ⟨[], attemptOf handle visit.first, rfl, congrArg outcomeOf hfirst, rfl,
    fun _ h => absurd h List.not_mem_nil⟩

theorem onceRecord_fails (hfirst : visit.first.answer = .error e) (entry : ChainEntry)
    (handle : ProviderHandle) (st : ExecState) :
    (onceRecord plan hook entry handle visit st).Fails := by
  refine List.forall_mem_singleton.mpr ?_
  rw [attemptOf, hfirst]
  exact classify_ne_success e

theorem ne_success_of_isRetry {outcome : AttemptOutcome} (h : outcome.isRetry = true) :
    outcome ≠ .success := by
  rintro rfl
  cases h

theorem twiceRecord_serves (hretry : (outcomeOf visit.first.answer).isRetry = true)
    (hagain : visit.retry.answer = .ok response) (entry : ChainEntry) (handle : ProviderHandle)
    (st : ExecState) : (twiceRecord plan hook entry handle visit st).Serves :=
  ⟨[attemptOf handle visit.first], attemptOf handle visit.retry, rfl, congrArg outcomeOf hagain,
    rfl, List.forall_mem_singleton.mpr (ne_success_of_isRetry hretry)⟩

theorem twiceRecord_fails (hretry : (outcomeOf visit.first.answer).isRetry = true)
    (hagain : visit.retry.answer = .error e) (entry : ChainEntry) (handle : ProviderHandle)
    (st : ExecState) : (twiceRecord plan hook entry handle visit st).Fails := by
  refine List.forall_mem_cons.mpr ⟨ne_success_of_isRetry hretry, ?_⟩
  refine List.forall_mem_singleton.mpr ?_
  rw [attemptOf, hagain]
  exact classify_ne_success e

theorem outcomeOf_retry {visit : Visit} {ms : Nat} {reason : String}
    (hfirst : visit.first.answer = .error e) (hclass : classify e = .retry ms reason) :
    outcomeOf visit.first.answer = .retry ms reason :=
  (congrArg outcomeOf hfirst).trans hclass

theorem callProvider_book
    (hbudget : st.now + visit.beforeBudget - started < plan.requestBudget)
    (hup : st.health.isAvailable entry.provider
      (st.now + visit.beforeBudget + visit.beforeAvailable) = true)
    (hresolve : resolve entry.provider = some handle) :
    EntryBook plan resolve hook started entry visit st
      (callProvider plan hook entry handle visit (st.beforeCall visit)).1
      (callProvider plan hook entry handle visit (st.beforeCall visit)).2 := by
  have honce := onceRecord_booked plan hook entry handle visit st
  have htwice := twiceRecord_booked plan hook entry handle visit st
  have hstep := callProvider_step plan hook entry handle visit (st.beforeCall visit)
  generalize (callProvider plan hook entry handle visit (st.beforeCall visit)).1 = final at hstep ⊢
  generalize (callProvider plan hook entry handle visit (st.beforeCall visit)).2 = verdict
    at hstep ⊢
  cases hstep with
  | @served response _ hfirst hst =>
    subst hst
    have hretry : (outcomeOf visit.first.answer).isRetry = false := by rw [hfirst]; rfl
    have hcount : (afterFirst plan hook entry handle visit st).fallbackCount =
        st.fallbackCount := rfl
    exact .booked (onceRecord plan hook entry handle visit st) rfl hbudget
      (onceRecord_visited hup hresolve hretry) honce
      (.serves (onceRecord_serves hfirst entry handle st) hcount response)
  | @failed e _ hfirst hretry hst =>
    subst hst
    have houtcome : outcomeOf visit.first.answer = classify e := congrArg outcomeOf hfirst
    obtain ⟨hbooked, hgoes⟩ :=
      goesOn_settle honce (onceRecord_fails hfirst entry handle st) rfl entry e e
    exact .booked (onceRecord plan hook entry handle visit st) rfl hbudget
      (onceRecord_visited hup hresolve (houtcome ▸ hretry)) hbooked hgoes
  | @retryServed e ms reason response _ hfirst hclass hagain hst =>
    have houtcome := outcomeOf_retry hfirst hclass
    have hretry : (outcomeOf visit.first.answer).isRetry = true := by rw [houtcome]; rfl
    rw [← houtcome] at hst
    subst hst
    exact .booked (twiceRecord plan hook entry handle visit st) rfl hbudget
      (twiceRecord_visited hup hresolve hretry) htwice
      (.serves (twiceRecord_serves hretry hagain entry handle st)
        (fallbackCount_afterRetry visit st) response)
  | @retryFailed e ms reason e' _ hfirst hclass hagain hst =>
    have houtcome := outcomeOf_retry hfirst hclass
    have hretry : (outcomeOf visit.first.answer).isRetry = true := by rw [houtcome]; rfl
    rw [← houtcome] at hst
    subst hst
    exact .booked (twiceRecord plan hook entry handle visit st) rfl hbudget
      (twiceRecord_visited hup hresolve hretry) htwice.passOn
      (.passes (twiceRecord_fails hretry hagain entry handle st)
        (congrArg (· + 1) (fallbackCount_afterRetry visit st)))

variable (plan resolve hook) in
theorem executeEntry_book (started : Instant) (entry : ChainEntry) (visit : Visit)
    (st : ExecState) :
    EntryBook plan resolve hook started entry visit st
      (executeEntry plan resolve hook started entry visit st).1
      (executeEntry plan resolve hook started entry visit st).2 := by
  have hstep := executeEntry_step plan resolve hook started entry visit st
  generalize (executeEntry plan resolve hook started entry visit st).1 = final at hstep ⊢
  generalize (executeEntry plan resolve hook started entry visit st).2 = verdict at hstep ⊢
  cases hstep with
  | overBudget hbudget message =>
    have hcalls := (st.wait visit.beforeBudget).calls_wait visit.beforeReport
    have hhealth := (st.wait visit.beforeBudget).health_wait visit.beforeReport
    exact .overBudget hbudget hcalls hhealth message
  | notCalled hbudget hskip reason =>
    exact .booked
      { entry := entry
        reachedAt := st.now
        health := st.health
        provider := entry.provider
        attempts := [⟨entry.provider, entry.model, .skip reason, 0⟩]
        calls := []
        leftAt := st.now + visit.beforeBudget + visit.beforeAvailable
        healthAfter := st.health } rfl hbudget (.skipped hskip reason rfl rfl rfl rfl rfl)
      ⟨rfl, rfl, rfl, rfl, rfl, rfl, (List.append_nil _).symm⟩
      (.passes (List.forall_mem_singleton.mpr AttemptOutcome.noConfusion) rfl)
  | called hbudget hup handle hresolve => exact callProvider_book hbudget hup hresolve

end

end TokenDealer
