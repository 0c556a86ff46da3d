import TokenDealer.RunBook

set_option autoImplicit true

namespace TokenDealer

/-- The status of an answer that is an upstream's error. -/
def errorStatus : AppResult CanonicalResponse → Option Nat
  | .error (.providerError _ status _) => some status
  | _ => none

def RateLimited (answer : AppResult CanonicalResponse) : Prop := errorStatus answer = some 429

def AsksForRetry (answer : AppResult CanonicalResponse) : Prop :=
  RateLimited answer ∨ errorStatus answer = some 408

/-- When the answer to a call was there. -/
def UpstreamCall.answeredAt (upstream : Nat → Visit) (call : UpstreamCall) : Instant :=
  let visit := upstream call.entry.position
  call.startedAt + (if call.isRetry then visit.retry else visit.first).duration

/-- The calls made for one entry are those that the retry settings of the plan ask for. -/
structure HonoursFor (plan : RoutingPlan) (upstream : Nat → Visit) (made : List UpstreamCall) :
    Prop where
  atMost : made.length ≤ 1 + plan.maxRetriesPerProvider
  asMany : made ≠ [] → (∀ call ∈ made, AsksForRetry call.answer) →
    made.length = 1 + plan.maxRetriesPerProvider
  waits : ∀ before first again after, made = before ++ first :: again :: after →
    RateLimited first.answer →
    first.answeredAt upstream + fromMillis (min plan.fixedRetryWaitMs plan.maxRetryAfterMs) ≤
      again.startedAt

def HonoursRetries (plan : RoutingPlan) (upstream : Nat → Visit) (calls : List UpstreamCall) :
    Prop :=
  ∀ entry ∈ plan.chain, HonoursFor plan upstream (callsFor entry calls)

/-- What becomes of an entry agrees with the settings although the executor does not read them. -/
structure RetriesAsSet (plan : RoutingPlan) (visit : Visit) : Prop where
  allowed : AsksForRetry visit.first.answer → 1 ≤ plan.maxRetriesPerProvider
  exhausted : AsksForRetry visit.first.answer → AsksForRetry visit.retry.answer →
    plan.maxRetriesPerProvider = 1
  longEnough : RateLimited visit.first.answer →
    fromMillis (min plan.fixedRetryWaitMs plan.maxRetryAfterMs) ≤
      visit.first.lag + sleepTime (min 1500 plan.maxRetryAfterMs) visit.overshoot

theorem classifyStatus_isRetry (status : Nat) (message : String) :
    (classifyStatus status message).isRetry = true ↔ status = 429 ∨ status = 408 := by
  rw [classifyStatus]
  split
  · rename_i hauth
    exact ⟨fun h => absurd h Bool.false_ne_true, fun h => by omega⟩
  · split
    · rename_i htimeout
      exact ⟨fun _ => .inr htimeout, fun _ => rfl⟩
    · split
      · rename_i hlimited
        exact ⟨fun _ => .inl hlimited, fun _ => rfl⟩
      · rename_i htimeout hlimited
        refine ⟨fun h => ?_, fun h => absurd h (not_or.mpr ⟨hlimited, htimeout⟩)⟩
        split at h
        · exact absurd h Bool.false_ne_true
        · exact absurd h Bool.false_ne_true

/-- The executor retries the answers that ask for it. -/
theorem isRetry_iff (answer : AppResult CanonicalResponse) :
    (outcomeOf answer).isRetry = true ↔ AsksForRetry answer := by
  cases answer with
  | ok response => exact ⟨fun h => absurd h Bool.false_ne_true, fun h => by cases h with
    | inl h => cases h
    | inr h => cases h⟩
  | error e =>
    cases e with
    | providerError provider status message =>
      rw [AsksForRetry, RateLimited, errorStatus, Option.some.injEq, Option.some.injEq]
      exact classifyStatus_isRetry status message
    | _ => exact ⟨fun h => absurd h Bool.false_ne_true, fun h => by cases h with
      | inl h => cases h
      | inr h => cases h⟩

/-- The wait after a rate limit is a constant, cut off at the longest wait of the plan. -/
theorem waitMs_of_rateLimited (h : RateLimited answer) (maxRetryAfterMs : Nat) :
    (outcomeOf answer).waitMs maxRetryAfterMs = min 1500 maxRetryAfterMs := by
  cases answer with
  | ok response => cases h
  | error e =>
    cases e with
    | providerError provider status message =>
      cases h
      rfl
    | _ => cases h

section

variable {plan : RoutingPlan} {resolve : String → Option ProviderHandle} {hook : HealthHook}

theorem honoursFor_nil (plan : RoutingPlan) (upstream : Nat → Visit) :
    HonoursFor plan upstream [] where
  atMost := Nat.zero_le _
  asMany h := absurd rfl h
  waits before first again after h := by
    have hlength := congrArg List.length h
    simp at hlength

/-- A single call that does not ask for a retry is in line with any settings. -/
theorem honoursFor_once (h : ¬ AsksForRetry call.answer) : HonoursFor plan upstream [call] where
  atMost := Nat.le_add_right 1 _
  asMany _ hall := absurd (hall call List.mem_cons_self) h
  waits before first again after h := by
    have hlength := congrArg List.length h
    simp at hlength
    omega

theorem honoursFor_twice (hfirst : AsksForRetry call.answer) :
    HonoursFor plan upstream [call, call'] ↔
      1 ≤ plan.maxRetriesPerProvider ∧
      (AsksForRetry call'.answer → plan.maxRetriesPerProvider = 1) ∧
      (RateLimited call.answer →
        call.answeredAt upstream + fromMillis (min plan.fixedRetryWaitMs plan.maxRetryAfterMs) ≤
          call'.startedAt) := by
  constructor
  · intro h
    refine ⟨Nat.le_of_add_le_add_left h.atMost, fun hagain => ?_, h.waits [] call call' [] rfl⟩
    have hall := h.asMany (List.cons_ne_nil _ _)
      (List.forall_mem_cons.mpr ⟨hfirst, List.forall_mem_singleton.mpr hagain⟩)
    exact (Nat.add_left_cancel hall).symm
  · rintro ⟨hallowed, hexhausted, hwait⟩
    refine ⟨Nat.add_le_add_left hallowed 1, fun _ hall => ?_, ?_⟩
    · rw [hexhausted (hall call' (List.mem_cons_of_mem _ List.mem_cons_self))]
      rfl
    · intro before first again after h
      cases before with
      | nil =>
        cases h
        exact hwait
      | cons _ before =>
        have hlength := congrArg List.length h
        simp at hlength
        omega

theorem honoursFor_visit (h : Visited plan resolve hook (upstream v.entry.position) v) :
    HonoursFor plan upstream v.calls ↔
      (v.calls ≠ [] → RetriesAsSet plan (upstream v.entry.position)) := by
  cases h with
  | skipped _ _ _ hcalls =>
    rw [hcalls]
    exact iff_of_true (honoursFor_nil plan upstream) fun h => absurd rfl h
  | once _ _ hretry _ hcall hcalls =>
    have hno : ¬ AsksForRetry (upstream v.entry.position).first.answer := fun h =>
      absurd ((isRetry_iff _).mpr h) (Bool.eq_false_iff.mp hretry)
    rw [hcalls, hcall]
    refine iff_of_true (honoursFor_once hno) fun _ => ⟨fun h => absurd h hno,
      fun h => absurd h hno, fun h => absurd (.inl h) hno⟩
  | twice _ _ hretry _ hcall hcall' hcalls =>
    have hasks := (isRetry_iff _).mp hretry
    rw [hcalls, honoursFor_twice (hcall ▸ hasks), hcall', hcall]
    have hwaits : (RateLimited (upstream v.entry.position).first.answer →
        v.calledAt (upstream v.entry.position) + (upstream v.entry.position).first.duration +
            fromMillis (min plan.fixedRetryWaitMs plan.maxRetryAfterMs) ≤
          v.calledAt (upstream v.entry.position) +
            (upstream v.entry.position).retryDelay plan.maxRetryAfterMs) ↔
        (RateLimited (upstream v.entry.position).first.answer →
          fromMillis (min plan.fixedRetryWaitMs plan.maxRetryAfterMs) ≤
            (upstream v.entry.position).first.lag +
              sleepTime (min 1500 plan.maxRetryAfterMs) (upstream v.entry.position).overshoot) := by
      refine imp_congr_right fun hlimited => ?_
      rw [Visit.retryDelay, waitMs_of_rateLimited hlimited, Nat.add_assoc (v.calledAt _),
        Nat.add_le_add_iff_left, Nat.add_assoc, Nat.add_le_add_iff_left]
    constructor
    · rintro ⟨hallowed, hexhausted, hwait⟩ -
      exact ⟨fun _ => hallowed, fun _ => hexhausted, hwaits.mp hwait⟩
    · intro h
      obtain ⟨hallowed, hexhausted, hwait⟩ := h (List.cons_ne_nil _ _)
      exact ⟨hallowed hasks, hexhausted hasks, hwaits.mpr hwait⟩

theorem Ledger.honours_iff
    (h : Ledger plan resolve hook upstream health now visits final) :
    HonoursRetries plan upstream final.calls ↔
      ∀ v ∈ visits, v.calls ≠ [] → RetriesAsSet plan (upstream v.entry.position) := by
  rw [HonoursRetries, h.calls]
  constructor
  · intro hall v hv
    have hentry := h.entries.subset (List.mem_map_of_mem hv)
    rw [← honoursFor_visit (h.visited v hv), ← callsFor_visit h.visited h.nodup hv]
    exact hall v.entry hentry
  · intro hall entry _
    by_cases hentry : entry ∈ visits.map (·.entry)
    · obtain ⟨v, hv, rfl⟩ := List.mem_map.mp hentry
      rw [callsFor_visit h.visited h.nodup hv, honoursFor_visit (h.visited v hv)]
      exact hall v hv
    · rw [callsFor_eq_nil h.visited hentry]
      exact honoursFor_nil plan upstream

/-- A run honours the retry settings when they say at every entry that it calls what the executor
does anyway. -/
theorem execute_honours_iff (plan : RoutingPlan) (resolve : String → Option ProviderHandle)
    (hook : HealthHook) (upstream : Nat → Visit) (health : HealthRegistry) (now : Instant) :
    HonoursRetries plan upstream (execute plan resolve hook upstream health now).1.calls ↔
      WheneverCalled plan resolve hook (fun visit _ => RetriesAsSet plan visit) now upstream
        plan.chain { now, health } := by
  obtain ⟨visits, hbook, hledger⟩ := execute_ledger plan resolve hook upstream health now
  rw [hledger.honours_iff, hbook.wheneverCalled_iff]

theorem wheneverCalled_of_forall {P : Visit → Instant → Prop} (h : ∀ visit t, P visit t)
    (upstream : Nat → Visit) (chain : List ChainEntry) (st : ExecState) :
    WheneverCalled plan resolve hook P started upstream chain st := by
  induction chain generalizing st with
  | nil => trivial
  | cons entry rest ih => exact ⟨fun _ => h _ _, fun st' _ => ih st'⟩

/-- Without a budget nothing is called, so that any condition holds. -/
theorem wheneverCalled_of_noBudget (hbudget : plan.requestBudget = 0)
    (P : Visit → Instant → Prop) (upstream : Nat → Visit) (chain : List ChainEntry)
    (st : ExecState) : WheneverCalled plan resolve hook P started upstream chain st := by
  induction chain generalizing st with
  | nil => trivial
  | cons entry rest ih =>
    refine ⟨fun hcalled => ?_, fun st' _ => ih st'⟩
    have hin := hcalled.1
    rw [hbudget] at hin
    exact absurd hin (Nat.not_lt_zero _)

/-- With a budget any visit may happen at the first entry of the chain. -/
theorem of_wheneverCalled_first {P : Visit → Instant → Prop} (hbudget : 0 < plan.requestBudget)
    (first retry : AppResult CanonicalResponse)
    (h : WheneverCalled plan sampleResolve hook P 0 (fun _ => .instant first retry) plan.chain
      { now := 0, health := .new }) : P (.instant first retry) 0 := by
  obtain ⟨entry, rest, hchain⟩ : ∃ entry rest, plan.chain = entry :: rest := ⟨_, _, rfl⟩
  rw [hchain] at h
  exact h.1 ⟨hbudget, rfl, rfl⟩

theorem sleepTime_zero (waitMs : Nat) : sleepTime waitMs 0 = fromMillis waitMs := by
  rw [sleepTime]
  split
  · exact Nat.add_zero _
  · rename_i hzero
    rw [Nat.eq_zero_of_not_pos hzero]
    rfl

theorem fromMillis_le_sleepTime (waitMs overshoot : Nat) :
    fromMillis waitMs ≤ sleepTime waitMs overshoot := by
  rw [sleepTime]
  split
  · exact Nat.le_add_right _ _
  · rename_i hzero
    rw [Nat.eq_zero_of_not_pos hzero]
    exact Nat.le_refl _

theorem fromMillis_le_fromMillis (ms ms' : Nat) : fromMillis ms ≤ fromMillis ms' ↔ ms ≤ ms' :=
  Nat.mul_le_mul_right_iff (by decide)

theorem retriesAsSet_of_settings (hretries : plan.maxRetriesPerProvider = 1)
    (hwait : min plan.fixedRetryWaitMs plan.maxRetryAfterMs ≤ 1500) (visit : Visit) :
    RetriesAsSet plan visit where
  allowed _ := Nat.le_of_eq hretries.symm
  exhausted _ _ := hretries
  longEnough _ := by
    have hmin : min plan.fixedRetryWaitMs plan.maxRetryAfterMs ≤ min 1500 plan.maxRetryAfterMs :=
      Nat.le_min.mpr ⟨hwait, Nat.min_le_right _ _⟩
    exact Nat.le_trans ((fromMillis_le_fromMillis _ _).mpr hmin)
      (Nat.le_trans (fromMillis_le_sleepTime _ _) (Nat.le_add_left _ _))

def tooManyRequests : AppResult CanonicalResponse :=
  .error (.providerError "" 429 "")

theorem settings_of_retriesAsSet (htimeouts : RetriesAsSet plan (.instant timeout timeout))
    (hlimited : RetriesAsSet plan (.instant tooManyRequests tooManyRequests)) :
    plan.maxRetriesPerProvider = 1 ∧ min plan.fixedRetryWaitMs plan.maxRetryAfterMs ≤ 1500 := by
  refine ⟨htimeouts.exhausted (.inr rfl) (.inr rfl), ?_⟩
  have hwait : _ ≤ 0 + sleepTime (min 1500 plan.maxRetryAfterMs) 0 := hlimited.longEnough rfl
  rw [Nat.zero_add, sleepTime_zero, fromMillis_le_fromMillis] at hwait
  exact Nat.le_trans hwait (Nat.min_le_left _ _)

theorem wheneverCalled_retriesAsSet_iff (plan : RoutingPlan) :
    (∀ resolve hook upstream health now,
      WheneverCalled plan resolve hook (fun visit _ => RetriesAsSet plan visit) now upstream
        plan.chain { now, health }) ↔
      plan.requestBudget = 0 ∨ plan.maxRetriesPerProvider = 1 ∧
        min plan.fixedRetryWaitMs plan.maxRetryAfterMs ≤ 1500 := by
  constructor
  · intro h
    rcases Nat.eq_zero_or_pos plan.requestBudget with hzero | hbudget
    · exact .inl hzero
    · have hfirst := fun answer => of_wheneverCalled_first hbudget answer answer
        (h sampleResolve ⟨1, 60⟩ (fun _ => .instant answer answer) .new 0)
      exact .inr (settings_of_retriesAsSet (hfirst timeout) (hfirst tooManyRequests))
  · rintro (hzero | ⟨hretries, hwait⟩) resolve hook upstream health now
    · exact wheneverCalled_of_noBudget hzero _ _ _ _
    · exact wheneverCalled_of_forall (fun visit _ => retriesAsSet_of_settings hretries hwait visit)
        _ _ _

end

/-- The retry settings are honoured where they say what the executor does anyway: in a run, at
every entry that it calls, and in all runs of a plan, where they ask for one retry after at most
one and a half seconds. -/
theorem honoursRetries_iff (plan : RoutingPlan) :
    (∀ resolve hook upstream health now,
      HonoursRetries plan upstream (execute plan resolve hook upstream health now).1.calls ↔
        WheneverCalled plan resolve hook (fun visit _ => RetriesAsSet plan visit) now upstream
          plan.chain { now, health }) ∧
    ((∀ resolve hook upstream health now,
      HonoursRetries plan upstream (execute plan resolve hook upstream health now).1.calls) ↔
        plan.requestBudget = 0 ∨ plan.maxRetriesPerProvider = 1 ∧
          min plan.fixedRetryWaitMs plan.maxRetryAfterMs ≤ 1500) := by
  refine ⟨execute_honours_iff plan, ?_⟩
  rw [← wheneverCalled_retriesAsSet_iff]
  simp only [execute_honours_iff]

/-- Three retries are asked for, and a provider that only times out is called twice. -/
theorem two_calls_of_four :
    ¬ HonoursRetries { samplePlan "a/m" [] with maxRetriesPerProvider := 3 } timedOut
      (execute { samplePlan "a/m" [] with maxRetriesPerProvider := 3 } sampleResolve ⟨1, 60⟩
        timedOut .new 0).1.calls := by
  intro h
  have hfirst := h ⟨0, "a", "m"⟩ List.mem_cons_self
  have hlength := hfirst.asMany (List.cons_ne_nil _ _) (List.forall_mem_cons.mpr
    ⟨.inr rfl, List.forall_mem_singleton.mpr (.inr rfl)⟩)
  cases hlength

end TokenDealer
