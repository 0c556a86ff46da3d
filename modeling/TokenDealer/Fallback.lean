import TokenDealer.AppError
import TokenDealer.Health
import TokenDealer.Registry
import TokenDealer.Str

set_option autoImplicit true

namespace TokenDealer

structure RoutingPlan where
  request : CanonicalRequest
  primary : String
  fallbacks : List String
  downgradeTo : Option String
  requestBudget : Nat
  maxRetriesPerProvider : Nat
  maxRetryAfterMs : Nat
  fixedRetryWaitMs : Nat
  deriving Repr

inductive AttemptOutcome where
  | success
  | retry (waitMs : Nat) (reason : String)
  | skip (reason : String)
  | fatal (reason : String)
  | contextTooLong (limit : Nat)
  deriving DecidableEq, Repr

namespace AttemptOutcome

def isRetry : AttemptOutcome → Bool
  | retry _ _ => true
  | _ => false

def isFatal : AttemptOutcome → Bool
  | fatal _ => true
  | _ => false

def isContext : AttemptOutcome → Bool
  | contextTooLong _ => true
  | _ => false

def waitMs (maxRetryAfterMs : Nat) : AttemptOutcome → Nat
  | retry waitMs _ => min waitMs maxRetryAfterMs
  | _ => 0

end AttemptOutcome

def classifyStatus (status : Nat) (message : String) : AttemptOutcome :=
  let lower := Str.toLowercase message
  if status = 401 ∨ status = 403 then .fatal "auth error"
  else if status = 408 then .retry 0 "request timeout"
  else if status = 429 then .retry 1500 "rate limited"
  else if status = 400 ∧ (Str.contains lower "context" || Str.contains lower "too long" ||
      Str.contains lower "maximum context") then .contextTooLong 8192
  else .skip "upstream error"

def classify : AppError → AttemptOutcome
  | .providerError _ status message => classifyStatus status message
  | .upstreamTimeout _ => .skip "upstream timeout"
  | .contextTooLong _ limit => .contextTooLong limit
  | .internal _ => .skip "internal error"
  | _ => .skip "unknown error"

/-- What the executor reads off an upstream's answer. -/
def outcomeOf : AppResult CanonicalResponse → AttemptOutcome
  | .ok _ => .success
  | .error e => classify e

structure AttemptRecord where
  provider : String
  model : String
  outcome : AttemptOutcome
  latencyMs : Nat
  deriving DecidableEq, Repr

structure ExecutionResult where
  response : CanonicalResponse
  attempts : List AttemptRecord
  providersTried : List String
  fallbackCount : Nat
  deriving Repr

structure ProviderHandle where
  providerId : String
  modelId : String
  adapter : ProviderAdapter
  key : String
  deriving DecidableEq, Repr

structure HealthHook where
  failureThreshold : Nat
  cooldownSecs : Nat

/-- One entry of the chain, with its place in it. -/
structure ChainEntry where
  position : Nat
  provider : String
  model : String
  deriving DecidableEq, Repr

/-- An upstream's answer, how long it took and how long the executor then took to record it. -/
structure Reply where
  duration : Nat
  answer : AppResult CanonicalResponse
  lag : Nat

/-- What the outside world does while the executor is at one entry of the chain: the time that
passes between two steps of its own, and the answers to the calls it may make. -/
structure Visit where
  beforeBudget : Nat
  beforeReport : Nat
  beforeAvailable : Nat
  beforeCall : Nat
  first : Reply
  overshoot : Nat
  retry : Reply

/-- A visit during which no time passes. -/
def Visit.instant (first retry : AppResult CanonicalResponse) : Visit :=
  ⟨0, 0, 0, 0, ⟨0, first, 0⟩, 0, ⟨0, retry, 0⟩⟩

/-- A call as the upstream received it, with the health map before and after it. -/
structure UpstreamCall where
  entry : ChainEntry
  isRetry : Bool
  handle : ProviderHandle
  request : CanonicalRequest
  startedAt : Instant
  answer : AppResult CanonicalResponse
  healthBefore : HealthRegistry
  healthAfter : HealthRegistry

/-- The executor's locals, the clock, the health map and the calls made so far. -/
structure ExecState where
  now : Instant
  health : HealthRegistry
  attempts : List AttemptRecord := []
  providersTried : List String := []
  fallbackCount : Nat := 0
  calls : List UpstreamCall := []

namespace ExecState

def wait (st : ExecState) (duration : Nat) : ExecState := { st with now := st.now + duration }

/-- A sleep may last longer than asked for. -/
def sleep (st : ExecState) (waitMs overshoot : Nat) : ExecState :=
  if waitMs > 0 then st.wait (fromMillis waitMs + overshoot) else st

def skip (st : ExecState) (entry : ChainEntry) (reason : String) : ExecState :=
  { st with
    attempts := st.attempts ++ [⟨entry.provider, entry.model, .skip reason, 0⟩]
    providersTried := st.providersTried ++ [entry.provider]
    fallbackCount := st.fallbackCount + 1 }

def tried (st : ExecState) (handle : ProviderHandle) : ExecState :=
  { st with providersTried := st.providersTried ++ [handle.providerId] }

def passOn (st : ExecState) : ExecState := { st with fallbackCount := st.fallbackCount + 1 }

def result (st : ExecState) (response : CanonicalResponse) : ExecutionResult :=
  ⟨response, st.attempts, st.providersTried, st.fallbackCount⟩

@[simp] theorem calls_wait (st : ExecState) (duration : Nat) :
    (st.wait duration).calls = st.calls := rfl

@[simp] theorem health_wait (st : ExecState) (duration : Nat) :
    (st.wait duration).health = st.health := rfl

@[simp] theorem calls_sleep (st : ExecState) : (st.sleep waitMs overshoot).calls = st.calls := by
  rw [sleep, apply_ite calls, calls_wait, ite_self]

@[simp] theorem health_sleep (st : ExecState) :
    (st.sleep waitMs overshoot).health = st.health := by
  rw [sleep, apply_ite health, health_wait, ite_self]

end ExecState

def HealthHook.record (hook : HealthHook) (health : HealthRegistry) (providerId : String)
    (outcome : AttemptOutcome) (now : Instant) : HealthRegistry :=
  if outcome.isRetry || outcome = .success then health.recordSuccess providerId
  else health.recordFailure providerId hook.failureThreshold hook.cooldownSecs now

/-- The request a provider is sent: the plan's, under the handle's names. -/
def canonicalFor (plan : RoutingPlan) (handle : ProviderHandle) : CanonicalRequest :=
  { plan.request with
    selectedProvider := handle.providerId
    selectedModel := handle.modelId }

section Execute

variable (plan : RoutingPlan) (resolve : String → Option ProviderHandle) (hook : HealthHook)

def callOf (entry : ChainEntry) (isRetry : Bool) (handle : ProviderHandle) (reply : Reply)
    (now : Instant) (health : HealthRegistry) : UpstreamCall where
  entry := entry
  isRetry := isRetry
  handle := handle
  request := canonicalFor plan handle
  startedAt := now
  answer := reply.answer
  healthBefore := health
  healthAfter := hook.record health handle.providerId (outcomeOf reply.answer)
    (now + reply.duration + reply.lag)

/-- One upstream call, its health record and its attempt record. -/
def attempt (entry : ChainEntry) (isRetry : Bool) (handle : ProviderHandle) (reply : Reply)
    (st : ExecState) : ExecState :=
  let call := callOf plan hook entry isRetry handle reply st.now st.health
  { st with
    now := st.now + reply.duration + reply.lag
    health := call.healthAfter
    attempts := st.attempts ++ [⟨handle.providerId, handle.modelId, outcomeOf reply.answer,
      asMillis reply.duration⟩]
    calls := st.calls ++ [call] }

/-- The second call of an entry, after the wait its first outcome asks for. -/
def retryAttempt (entry : ChainEntry) (handle : ProviderHandle) (visit : Visit)
    (outcome : AttemptOutcome) (st : ExecState) : ExecState :=
  attempt plan hook entry true handle visit.retry
    (st.sleep (outcome.waitMs plan.maxRetryAfterMs) visit.overshoot)

/-- The stop test reads the outcome of the first call only. -/
def settle (entry : ChainEntry) (outcome : AttemptOutcome) (finalAttempt : AppError)
    (st : ExecState) : ExecState × Option (AppResult ExecutionResult) :=
  match outcome with
  | .fatal _ => (st, some (.error finalAttempt))
  | .contextTooLong limit => (st, some (.error (.contextTooLong entry.model limit)))
  | _ => (st.passOn, none)

def callProvider (entry : ChainEntry) (handle : ProviderHandle) (visit : Visit)
    (st : ExecState) : ExecState × Option (AppResult ExecutionResult) :=
  let outcome := outcomeOf visit.first.answer
  let st := attempt plan hook entry false handle visit.first (st.tried handle)
  match visit.first.answer with
  | .ok response => (st, some (.ok (st.result response)))
  | .error e =>
    if outcome.isRetry then
      let st := retryAttempt plan hook entry handle visit outcome st
      match visit.retry.answer with
      | .ok response => (st, some (.ok (st.result response)))
      | .error e => settle entry outcome e st
    else settle entry outcome e st

/-- The executor's loop body: the result is there when the run ends at this entry. -/
def executeEntry (started : Instant) (entry : ChainEntry) (visit : Visit)
    (st : ExecState) : ExecState × Option (AppResult ExecutionResult) :=
  let st := st.wait visit.beforeBudget
  if st.now - started ≥ plan.requestBudget then
    let st := st.wait visit.beforeReport
    let elapsed := asMillis (st.now - started)
    (st, some (.error (.internal s!"request budget exhausted after {elapsed}ms")))
  else
    let st := st.wait visit.beforeAvailable
    if !st.health.isAvailable entry.provider st.now then (st.skip entry "in cooldown", none)
    else
      match resolve entry.provider with
      | none => (st.skip entry "no adapter", none)
      | some handle => callProvider plan hook entry handle visit (st.wait visit.beforeCall)

def executeChain (started : Instant) (upstream : Nat → Visit) :
    List ChainEntry → ExecState → ExecState × AppResult ExecutionResult
  | [], st =>
    let tried := st.providersTried.length
    (st, .error (.internal s!"all fallbacks exhausted ({tried} tried)"))
  | entry :: rest, st =>
    match executeEntry plan resolve hook started entry (upstream entry.position) st with
    | (st, some result) => (st, result)
    | (st, none) => executeChain started upstream rest st

def splitProviderModel (s : String) : String × String :=
  match Str.splitOnce '/' s with
  | some (p, m) => (p, m)
  | none => ("unknown", s)

def chainFrom (position : Nat) : List String → List ChainEntry
  | [] => []
  | s :: rest =>
    let (provider, model) := splitProviderModel s
    ⟨position, provider, model⟩ :: chainFrom (position + 1) rest

def RoutingPlan.chain (plan : RoutingPlan) : List ChainEntry :=
  chainFrom 0 (plan.primary :: plan.fallbacks)

def execute (upstream : Nat → Visit) (health : HealthRegistry) (now : Instant) :
    ExecState × AppResult ExecutionResult :=
  executeChain plan resolve hook now upstream plan.chain { now, health }

end Execute

/-- A plan for one short user message, under the stock retry settings. -/
def samplePlan (primary : String) (fallbacks : List String) : RoutingPlan where
  request :=
    { messages := [⟨.user, [.text "hi"], none, none, none⟩], system := none, maxTokens := none,
      temperature := none, topP := none, stop := none, stream := false, tools := none,
      toolChoice := none, tier := .standard, selectedModel := "", selectedProvider := "",
      requestId := "1" }
  primary := primary
  fallbacks := fallbacks
  downgradeTo := none
  requestBudget := fromMillis 120000
  maxRetriesPerProvider := 1
  maxRetryAfterMs := 10000
  fixedRetryWaitMs := 1500

/-- A resolver that knows every provider. -/
def sampleResolve (provider : String) : Option ProviderHandle :=
  some ⟨provider, "m", ⟨.openai, provider, "https://upstream", "/v1/chat/completions", "m"⟩, "k"⟩

/-- What the executor can do at one entry of the chain. -/
inductive EntryStep (plan : RoutingPlan) (resolve : String → Option ProviderHandle)
    (hook : HealthHook) (started : Instant) (entry : ChainEntry) (visit : Visit)
    (st : ExecState) : ExecState → Option (AppResult ExecutionResult) → Prop where
  | overBudget (hbudget : plan.requestBudget ≤ st.now + visit.beforeBudget - started)
      (message : String) :
      EntryStep plan resolve hook started entry visit st
        ((st.wait visit.beforeBudget).wait visit.beforeReport) (some (.error (.internal message)))
  | notCalled (hbudget : st.now + visit.beforeBudget - started < plan.requestBudget)
      (hskip : st.health.isAvailable entry.provider
          (st.now + visit.beforeBudget + visit.beforeAvailable) = false ∨
        resolve entry.provider = none) (reason : String) :
      EntryStep plan resolve hook started entry visit st
        (((st.wait visit.beforeBudget).wait visit.beforeAvailable).skip entry reason) none
  | called (hbudget : st.now + visit.beforeBudget - started < plan.requestBudget)
      (hup : st.health.isAvailable entry.provider
        (st.now + visit.beforeBudget + visit.beforeAvailable) = true)
      (handle : ProviderHandle) (hresolve : resolve entry.provider = some handle) :
      EntryStep plan resolve hook started entry visit st
        (callProvider plan hook entry handle visit
          (((st.wait visit.beforeBudget).wait visit.beforeAvailable).wait visit.beforeCall)).1
        (callProvider plan hook entry handle visit
          (((st.wait visit.beforeBudget).wait visit.beforeAvailable).wait visit.beforeCall)).2

/-- What the executor can do once it has a handle. -/
inductive CallStep (plan : RoutingPlan) (hook : HealthHook) (entry : ChainEntry)
    (handle : ProviderHandle) (visit : Visit) (st : ExecState) :
    ExecState → Option (AppResult ExecutionResult) → Prop where
  | served (hfirst : visit.first.answer = .ok response)
      (hst : st' = attempt plan hook entry false handle visit.first (st.tried handle)) :
      CallStep plan hook entry handle visit st st' (some (.ok (st'.result response)))
  | failed (hfirst : visit.first.answer = .error e) (hretry : (classify e).isRetry = false)
      (hst : st' = attempt plan hook entry false handle visit.first (st.tried handle)) :
      CallStep plan hook entry handle visit st (settle entry (classify e) e st').1
        (settle entry (classify e) e st').2
  | retryServed (hfirst : visit.first.answer = .error e) (hretry : classify e = .retry ms reason)
      (hagain : visit.retry.answer = .ok response)
      (hst : st' = retryAttempt plan hook entry handle visit (.retry ms reason)
        (attempt plan hook entry false handle visit.first (st.tried handle))) :
      CallStep plan hook entry handle visit st st' (some (.ok (st'.result response)))
  | retryFailed (hfirst : visit.first.answer = .error e) (hretry : classify e = .retry ms reason)
      (hagain : visit.retry.answer = .error e')
      (hst : st' = retryAttempt plan hook entry handle visit (.retry ms reason)
        (attempt plan hook entry false handle visit.first (st.tried handle))) :
      CallStep plan hook entry handle visit st st'.passOn none

section Spec

variable (plan : RoutingPlan) (resolve : String → Option ProviderHandle) (hook : HealthHook)

theorem executeEntry_step (started : Instant) (entry : ChainEntry) (visit : Visit)
    (st : ExecState) :
    EntryStep plan resolve hook started entry visit st
      (executeEntry plan resolve hook started entry visit st).1
      (executeEntry plan resolve hook started entry visit st).2 := by
  let waited := st.wait visit.beforeBudget
  rw [executeEntry]
  by_cases hbudget : waited.now - started ≥ plan.requestBudget
  · rw [if_pos hbudget]
    exact .overBudget hbudget _
  · rw [if_neg hbudget]
    have hin := Nat.lt_of_not_le hbudget
    dsimp only
    cases hup : (waited.wait visit.beforeAvailable).health.isAvailable entry.provider
        (waited.wait visit.beforeAvailable).now with
    | false => exact .notCalled hin (.inl hup) _
    | true =>
      cases hresolve : resolve entry.provider with
      | none => exact .notCalled hin (.inr hresolve) _
      | some handle => exact .called hin hup handle hresolve

theorem callProvider_step (entry : ChainEntry) (handle : ProviderHandle) (visit : Visit)
    (st : ExecState) :
    CallStep plan hook entry handle visit st
      (callProvider plan hook entry handle visit st).1
      (callProvider plan hook entry handle visit st).2 := by
  rw [callProvider]
  cases hfirst : visit.first.answer with
  | ok response => exact .served hfirst rfl
  | error e =>
    dsimp only
    by_cases hretry : (outcomeOf (.error e)).isRetry = true
    · obtain ⟨ms, reason, hc⟩ : ∃ ms reason, classify e = .retry ms reason := by
        cases hc : classify e with
        | retry ms reason => exact ⟨ms, reason, rfl⟩
        | _ => rw [outcomeOf, hc] at hretry; cases hretry
      rw [if_pos hretry]
      simp only [outcomeOf, hc]
      cases hagain : visit.retry.answer with
      | ok response => exact .retryServed hfirst hc hagain rfl
      | error e' => exact .retryFailed hfirst hc hagain rfl
    · rw [if_neg hretry]
      exact .failed hfirst (Bool.eq_false_iff.mpr hretry) rfl

end Spec

end TokenDealer
