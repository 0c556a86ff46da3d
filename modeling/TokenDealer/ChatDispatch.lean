import TokenDealer.AuditLog
import TokenDealer.Budget
import TokenDealer.ChatRoute

set_option autoImplicit true

namespace TokenDealer

/-- A chat request at the handler, with the router and the clock as it finds them. -/
structure ChatArrival where
  pipe : Pipeline
  tools : TextTools
  world : OAuthWorld
  now : Utc
  requestId : String
  request : ChatRequest
  user : UserContext
  context : ChatContext := {}

/-- What becomes of it: the answer 429, another error, or a routing output that goes out. -/
inductive ChatAdmission where
  | budgetExceeded (body : Json.Value)
  | refused (error : AppError)
  | dispatched (routed : RoutingOutput)

def ChatAdmission.isDispatched : ChatAdmission → Bool
  | dispatched _ => true
  | budgetExceeded _ | refused _ => false

def budgetExceededBody (reason : String) : Json.Value :=
  .object [("error", .object [
    ("code", .string "budget_exceeded"),
    ("message", .string reason),
    ("type", .string "rate_limit_error")])]

theorem Pipeline.route_requestId {pipe : Pipeline}
    (h : (pipe.route world requestId inbound modelOverride tier).1 = .ok routed) :
    routed.requestId = requestId := by
  rw [route] at h
  split at h
  · cases h
  · split at h
    · cases h
    · dsimp only at h
      split at h
      · cases h
      · cases h
        rfl

namespace ChatArrival

variable (a : ChatArrival) (accounts : Accounts) (pricing : PricingStore)

def choice : RouteChoice := routeChoice a.tools a.pipe.config a.request

def decision : BudgetDecision :=
  budgetDecision accounts pricing a.now a.pipe.config.budgets a.user a.choice.modelOverride

/-- The route, stamped with the caller's own user. -/
def routed : ChatAdmission :=
  match (a.pipe.route a.world a.requestId a.request.scoring.inbound a.choice.modelOverride
      a.choice.tier).1 with
  | .error e => .refused e
  | .ok routed => .dispatched ({ a.context with userId := budgetUser a.user }.stamp routed)

/-- The handler from the budget check to the dispatch. -/
def admission : ChatAdmission :=
  match a.decision accounts pricing with
  | .deny reason => .budgetExceeded (budgetExceededBody reason)
  | .allow | .softWarning .. => a.routed

variable {a accounts pricing}

theorem routed_dispatched (h : a.routed = .dispatched output) :
    output.userId = budgetUser a.user ∧ output.requestId = a.requestId := by
  rw [routed] at h
  cases hroute : (a.pipe.route a.world a.requestId a.request.scoring.inbound
      a.choice.modelOverride a.choice.tier).1 with
  | error e =>
    rw [hroute] at h
    cases h
  | ok found =>
    rw [hroute] at h
    cases h
    have hid := Pipeline.route_requestId hroute
    exact ⟨rfl, hid⟩

/-- What is dispatched was not denied. -/
theorem admission_dispatched (h : a.admission accounts pricing = .dispatched output) :
    (a.decision accounts pricing).denied = false ∧ a.routed = .dispatched output := by
  rw [admission] at h
  cases hdecision : a.decision accounts pricing with
  | deny reason =>
    rw [hdecision] at h
    cases h
  | allow | softWarning =>
    rw [hdecision] at h
    exact ⟨rfl, h⟩

/-- A denial is all the caller gets. -/
theorem admission_budgetExceeded :
    (∃ body, a.admission accounts pricing = .budgetExceeded body) ↔
      (a.decision accounts pricing).denied = true := by
  rw [admission]
  cases a.decision accounts pricing with
  | deny reason => exact iff_of_true ⟨_, rfl⟩ rfl
  | allow | softWarning =>
    apply iff_of_false _ Bool.false_ne_true
    rintro ⟨body, h⟩
    dsimp only [routed] at h
    split at h <;> cases h

end ChatArrival

def sampleUser (userId via : String) : UserContext where
  userId := userId
  email := userId ++ "@example.com"
  name := userId
  role := .user
  via := via

/-- A request for gpt-4o at the sample router. -/
def sampleArrival (budgets : BudgetConfig) (user : UserContext) (requestId : String)
    (stream : Bool := false) : ChatArrival where
  pipe := { samplePipeline with config := { samplePipeline.config with budgets := budgets } }
  tools := ⟨fun _ => 0, id⟩
  world := sampleWorld
  now := 0
  requestId := requestId
  request := .plain
    { model := "openai/gpt-4o"
      messages := [{ role := "user", content := .string "hi" }]
      stream := stream }
  user := user

/-- What an answer is charged. -/
def completionCost (pricing : PricingStore) (response : CanonicalResponse) : Option Double :=
  calculateWithDb response.provider response.model response.usage.inputTokens
    response.usage.outputTokens (some pricing)

/-- The accounts with a completion in them, when it is recorded: it needs a user and a cost. -/
def recordCompletion (accounts : Accounts) (now : Utc) (userId : Option String) (usage : Usage)
    (cost : Option Double) : Option Accounts :=
  match userId, cost with
  | some uid, some c =>
    (accounts.recordUsage now uid usage.inputTokens usage.outputTokens c).toOption
  | _, _ => none

/-- What a completion leaves in the accounts, and the inserts it spawns. -/
def logCompletion (pricing : PricingStore) (accounts : Accounts) (now : Utc)
    (routed : RoutingOutput) (result : ExecutionResult) : Accounts × List LogTask :=
  let cost := completionCost pricing result.response
  ((recordCompletion accounts now routed.userId result.response.usage cost).getD accounts,
    logTasks routed result cost)

end TokenDealer
