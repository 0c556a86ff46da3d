import TokenDealer.ChatDispatch
import TokenDealer.Machine
import TokenDealer.PriceSync

set_option autoImplicit true

namespace TokenDealer

theorem Tables.insertUser_tokenUsage {t t' : Tables} (h : t.insertUser row = .ok t') :
    t'.tokenUsage = t.tokenUsage := by
  rw [insertUser] at h
  split at h
  · cases h
  · cases h
    rfl

/-- The figures stay as they are. -/
def Accounts.addUser (a : Accounts) (row : UserRow) : Accounts :=
  match a.tables.insertUser row with
  | .ok tables => { a with tables := tables }
  | .error _ => a

theorem Accounts.spent_addUser (a : Accounts) (row : UserRow) (r : UsageRow) :
    (a.addUser row).spent r = a.spent r := by
  rw [addUser]
  split
  · rename_i tables hinsert
    rw [spent, spent, Tables.insertUser_tokenUsage hinsert]
  · rfl

/-- A request on its way, with its caller. -/
structure InFlight where
  user : UserContext
  routed : RoutingOutput

/-- What became of a request that was dispatched. -/
inductive ChatOutcome where
  | completed (result : ExecutionResult) (cost : Option Double)
  | failed (attempts : List AttemptRecord)
  | streamed (usage : Usage) (cost : Option Double)

/-- A request that is over, and whether it is in the accounts. -/
structure Finished where
  toInFlight : InFlight
  time : Utc
  outcome : ChatOutcome
  recorded : Bool

def Finished.isCompleted (f : Finished) : Bool :=
  match f.outcome with
  | .completed .. => true
  | .failed _ | .streamed .. => false

/-- The router's prices, accounts and log, what is under way, and what has been. -/
structure ChatService where
  pricing : PricingStore
  accounts : Accounts
  logs : LogTables
  inFlight : List InFlight := []
  pending : List LogTask := []
  finished : List Finished := []

/-- The executor's run for the request at a place, with all that it meets. -/
structure Answering where
  index : Nat
  pipe : Pipeline
  upstream : Nat → Visit
  health : HealthRegistry
  instant : Instant
  now : Utc

/-- The end of the stream at a place, with the usage that its chunks reported, unless it broke
off. -/
structure StreamEnding where
  index : Nat
  pipe : Pipeline
  reported : Option Usage
  now : Utc

inductive ChatEvent where
  | seedPrices
  | syncPrices (catalogue : List OpenRouterModel)
  | addUser (row : UserRow)
  | arrive (a : ChatArrival)
  | answer (e : Answering)
  | endStream (e : StreamEnding)
  | runTask (index : Nat)

namespace ChatService

variable (s : ChatService)

def arrive (a : ChatArrival) : ChatService :=
  match a.admission s.accounts s.pricing with
  | .dispatched routed => { s with inFlight := s.inFlight ++ [⟨a.user, routed⟩] }
  | .budgetExceeded _ | .refused _ => s

def finish (index : Nat) (f : Finished) : ChatService :=
  { s with inFlight := s.inFlight.eraseIdx index, finished := s.finished ++ [f] }

/-- A completion with everything that is done about it before its answer goes back. -/
def complete (e : Answering) (r : InFlight) (result : ExecutionResult) : ChatService :=
  let cost := completionCost s.pricing result.response
  let recorded := recordCompletion s.accounts e.now r.routed.userId result.response.usage cost
  let (accounts, tasks) := logCompletion s.pricing s.accounts e.now r.routed result
  { s.finish e.index ⟨r, e.now, .completed result cost, recorded.isSome⟩ with
    accounts := accounts
    pending := s.pending ++ tasks }

def answer (e : Answering) : ChatService :=
  match s.inFlight[e.index]? with
  | none => s
  | some r =>
    if r.routed.canonical.stream then s
    else
      match e.pipe.run r.routed e.upstream e.health e.instant with
      | (after, .error _) => s.finish e.index ⟨r, e.now, .failed after.attempts, false⟩
      | (_, .ok result) => s.complete e r result

/-- What a stream is worth, at the prices there are when it ends. -/
def streamCost (r : InFlight) (usage : Usage) : Option Double :=
  calculateWithDb r.routed.route.providerId r.routed.route.modelId usage.inputTokens
    usage.outputTokens (some s.pricing)

/-- Nothing is done about a stream when it ends. -/
def endStream (e : StreamEnding) : ChatService :=
  match s.inFlight[e.index]? with
  | none => s
  | some r =>
    if r.routed.canonical.stream then
      match e.pipe.stream r.routed, e.reported with
      | .ok _, some usage =>
        s.finish e.index ⟨r, e.now, .streamed usage (s.streamCost r usage), false⟩
      | _, _ => s.finish e.index ⟨r, e.now, .failed [], false⟩
    else s

def runTask (index : Nat) : ChatService :=
  match s.pending[index]? with
  | none => s
  | some task => { s with logs := task.run s.logs, pending := s.pending.eraseIdx index }

def step : ChatEvent → ChatService
  | .seedPrices => { s with pricing := s.pricing.seedDefaults.2 }
  | .syncPrices catalogue => { s with pricing := (s.pricing.syncOnce catalogue).2 }
  | .addUser row => { s with accounts := s.accounts.addUser row }
  | .arrive a => s.arrive a
  | .answer e => s.answer e
  | .endStream e => s.endStream e
  | .runTask index => s.runTask index

section Cases

variable {s}

theorem arrive_cases (s : ChatService) (a : ChatArrival) : s.arrive a = s ∨
    ∃ routed, a.admission s.accounts s.pricing = .dispatched routed ∧
      s.arrive a = { s with inFlight := s.inFlight ++ [⟨a.user, routed⟩] } := by
  rw [arrive]
  cases a.admission s.accounts s.pricing with
  | dispatched routed => exact .inr ⟨routed, rfl, rfl⟩
  | budgetExceeded reason | refused error => exact .inl rfl

/-- A request that is answered has failed everywhere or is completed. -/
theorem answer_cases (s : ChatService) (e : Answering) : s.answer e = s ∨
    ∃ r after answer, s.inFlight[e.index]? = some r ∧ r.routed.canonical.stream = false ∧
      e.pipe.run r.routed e.upstream e.health e.instant = (after, answer) ∧
      ((∃ error, answer = .error error ∧
          s.answer e = s.finish e.index ⟨r, e.now, .failed after.attempts, false⟩) ∨
        ∃ result, answer = .ok result ∧ s.answer e = s.complete e r result) := by
  rw [answer]
  cases hr : s.inFlight[e.index]? with
  | none => exact .inl rfl
  | some r =>
    dsimp only
    cases hstream : r.routed.canonical.stream with
    | true => exact .inl rfl
    | false =>
      cases hrun : e.pipe.run r.routed e.upstream e.health e.instant with
      | mk after answer =>
        cases answer with
        | error error =>
          exact .inr ⟨r, after, .error error, rfl, hstream, hrun, .inl ⟨error, rfl, rfl⟩⟩
        | ok result =>
          exact .inr ⟨r, after, .ok result, rfl, hstream, hrun, .inr ⟨result, rfl, rfl⟩⟩

/-- A stream that ends has failed or has reported its usage, and is not recorded. -/
theorem endStream_cases (s : ChatService) (e : StreamEnding) : s.endStream e = s ∨
    ∃ r outcome, s.inFlight[e.index]? = some r ∧ r.routed.canonical.stream = true ∧
      s.endStream e = s.finish e.index ⟨r, e.now, outcome, false⟩ ∧
      (((∃ error, e.pipe.stream r.routed = .error error) ∨ e.reported = none) ∧
          outcome = .failed [] ∨
        ∃ call usage, e.pipe.stream r.routed = .ok call ∧ e.reported = some usage ∧
          outcome = .streamed usage (s.streamCost r usage)) := by
  rw [endStream]
  cases hr : s.inFlight[e.index]? with
  | none => exact .inl rfl
  | some r =>
    dsimp only
    cases hstream : r.routed.canonical.stream with
    | false => exact .inl rfl
    | true =>
      right
      rw [if_pos rfl]
      cases hopen : e.pipe.stream r.routed with
      | error error =>
        exact ⟨r, .failed [], rfl, hstream, rfl, .inl ⟨.inl ⟨error, hopen⟩, rfl⟩⟩
      | ok call =>
        cases hreported : e.reported with
        | none => exact ⟨r, .failed [], rfl, hstream, rfl, .inl ⟨.inr rfl, rfl⟩⟩
        | some usage => exact ⟨r, _, rfl, hstream, rfl, .inr ⟨call, usage, hopen, rfl, rfl⟩⟩

theorem runTask_cases (s : ChatService) (index : Nat) : s.runTask index = s ∨
    ∃ task, s.pending[index]? = some task ∧
      s.runTask index =
        { s with logs := task.run s.logs, pending := s.pending.eraseIdx index } := by
  rw [runTask]
  cases s.pending[index]? with
  | none => exact .inl rfl
  | some task => exact .inr ⟨task, rfl, rfl⟩

end Cases

/-- The event ends this request, in one of four ways. -/
inductive Ends (s : ChatService) : ChatEvent → Finished → Prop where
  | failed {e : Answering} {r : InFlight} {after : ExecState} {error : AppError}
    (hr : s.inFlight[e.index]? = some r) (hstream : r.routed.canonical.stream = false)
    (hrun : e.pipe.run r.routed e.upstream e.health e.instant = (after, .error error)) :
    Ends s (.answer e) ⟨r, e.now, .failed after.attempts, false⟩
  | completed {e : Answering} {r : InFlight} {after : ExecState} {result : ExecutionResult}
    (hr : s.inFlight[e.index]? = some r) (hstream : r.routed.canonical.stream = false)
    (hrun : e.pipe.run r.routed e.upstream e.health e.instant = (after, .ok result)) :
    Ends s (.answer e)
      ⟨r, e.now, .completed result (completionCost s.pricing result.response),
        (recordCompletion s.accounts e.now r.routed.userId result.response.usage
          (completionCost s.pricing result.response)).isSome⟩
  | broken {e : StreamEnding} {r : InFlight} (hr : s.inFlight[e.index]? = some r)
    (hstream : r.routed.canonical.stream = true)
    (hbroken : (∃ error, e.pipe.stream r.routed = .error error) ∨ e.reported = none) :
    Ends s (.endStream e) ⟨r, e.now, .failed [], false⟩
  | streamed {e : StreamEnding} {r : InFlight} {call : StreamCall} {usage : Usage}
    (hr : s.inFlight[e.index]? = some r) (hstream : r.routed.canonical.stream = true)
    (hopen : e.pipe.stream r.routed = .ok call) (hreported : e.reported = some usage) :
    Ends s (.endStream e) ⟨r, e.now, .streamed usage (s.streamCost r usage), false⟩

section Steps

variable {s} {e : ChatEvent}

theorem Ends.mem_finished (h : s.Ends e f) : f ∈ (s.step e).finished := by
  have hlast {index : Nat} {f : Finished} : f ∈ (s.finish index f).finished :=
    List.mem_append_right _ (List.mem_singleton_self f)
  cases h with
  | failed hr hstream hrun =>
    rw [step, answer, hr]
    dsimp only
    rw [hstream, hrun]
    exact hlast
  | completed hr hstream hrun =>
    rw [step, answer, hr]
    dsimp only
    rw [hstream, hrun]
    exact List.mem_append_right _ (List.mem_singleton_self _)
  | broken hr hstream hbroken =>
    rw [step, endStream, hr]
    dsimp only
    rw [hstream, if_pos rfl]
    rcases hbroken with ⟨error, hopen⟩ | hreported
    · rw [hopen]
      exact hlast
    · rw [hreported]
      split
      · rename_i hnone
        cases hnone
      · exact hlast
  | streamed hr hstream hopen hreported =>
    rw [step, endStream, hr]
    dsimp only
    rw [hstream, if_pos rfl, hopen, hreported]
    exact hlast

/-- What an event does: prices or users change, a request comes, ends with a completion or without
one, or an insert runs. -/
inductive Moves (s : ChatService) : ChatEvent → ChatService → Prop where
  | stays {e : ChatEvent} {pricing : PricingStore} {accounts : Accounts}
    (hspent : ∀ r, accounts.spent r = s.accounts.spent r) :
    Moves s e { s with pricing := pricing, accounts := accounts }
  | arrives {a : ChatArrival} {routed : RoutingOutput}
    (hadmission : a.admission s.accounts s.pricing = .dispatched routed) :
    Moves s (.arrive a) { s with inFlight := s.inFlight ++ [⟨a.user, routed⟩] }
  | completes {e : Answering} {r : InFlight} {after : ExecState} {result : ExecutionResult}
    (hr : s.inFlight[e.index]? = some r) (hstream : r.routed.canonical.stream = false)
    (hrun : e.pipe.run r.routed e.upstream e.health e.instant = (after, .ok result)) :
    Moves s (.answer e) (s.complete e r result)
  | drops {e : ChatEvent} {index : Nat} {f : Finished} (hends : s.Ends e f)
    (hr : s.inFlight[index]? = some f.toInFlight) (hcompleted : f.isCompleted = false)
    (hrecorded : f.recorded = false) : Moves s e (s.finish index f)
  | runs {index : Nat} {task : LogTask} (htask : s.pending[index]? = some task) :
    Moves s (.runTask index)
      { s with logs := task.run s.logs, pending := s.pending.eraseIdx index }

theorem Moves.refl (s : ChatService) (e : ChatEvent) : Moves s e s :=
  .stays fun _ => rfl

theorem moves_step (s : ChatService) (e : ChatEvent) : Moves s e (s.step e) := by
  cases e with
  | seedPrices | syncPrices => exact .stays fun _ => rfl
  | addUser row => exact .stays (Accounts.spent_addUser s.accounts row)
  | arrive a =>
    rw [step]
    rcases arrive_cases s a with h | ⟨routed, hadmission, h⟩
    · rw [h]
      exact .refl s _
    · rw [h]
      exact .arrives hadmission
  | answer e =>
    rw [step]
    rcases answer_cases s e with h | ⟨r, after, answer, hr, hstream, hrun, h⟩
    · rw [h]
      exact .refl s _
    · rcases h with ⟨error, rfl, h⟩ | ⟨result, rfl, h⟩
      · rw [h]
        exact .drops (.failed hr hstream hrun) hr rfl rfl
      · rw [h]
        exact .completes hr hstream hrun
  | endStream e =>
    rw [step]
    rcases endStream_cases s e with h | ⟨r, outcome, hr, hstream, h, hend⟩
    · rw [h]
      exact .refl s _
    · rw [h]
      rcases hend with ⟨hbroken, rfl⟩ | ⟨call, usage, hopen, hreported, rfl⟩
      · exact .drops (.broken hr hstream hbroken) hr rfl rfl
      · exact .drops (.streamed hr hstream hopen hreported) hr rfl rfl
  | runTask index =>
    rw [step]
    rcases runTask_cases s index with h | ⟨task, htask, h⟩
    · rw [h]
      exact .refl s _
    · rw [h]
      exact .runs htask

/-- What is over is added at the end, one request at a time. -/
theorem finished_step (s : ChatService) (e : ChatEvent) :
    (s.step e).finished = s.finished ∨
      ∃ f, s.Ends e f ∧ (s.step e).finished = s.finished ++ [f] := by
  have hmove := moves_step s e
  generalize s.step e = s' at hmove ⊢
  cases hmove with
  | stays | arrives | runs => exact .inl rfl
  | completes hr hstream hrun => exact .inr ⟨_, .completed hr hstream hrun, rfl⟩
  | drops hends => exact .inr ⟨_, hends, rfl⟩

/-- What all requests that ever end are like is so of those that are over. -/
theorem forall_finished_step {Q : Finished → Prop} (h : ∀ f ∈ s.finished, Q f)
    (hends : ∀ f, s.Ends e f → Q f) : ∀ f ∈ (s.step e).finished, Q f := by
  intro f hf
  rcases finished_step s e with heq | ⟨g, hg, heq⟩
  · exact h f (heq ▸ hf)
  · rw [heq] at hf
    rcases List.mem_append.mp hf with hf | hf
    · exact h f hf
    · exact List.mem_singleton.mp hf ▸ hends g hg

/-- What is under way was dispatched. -/
theorem inFlight_step (hr : r ∈ (s.step e).inFlight) : r ∈ s.inFlight ∨
    ∃ a, e = .arrive a ∧ r.user = a.user ∧
      a.admission s.accounts s.pricing = .dispatched r.routed := by
  have hmove := moves_step s e
  generalize s.step e = s' at hmove hr
  cases hmove with
  | stays | runs => exact .inl hr
  | @arrives a routed hadmission =>
    rcases List.mem_append.mp hr with hr | hr
    · exact .inl hr
    · cases List.mem_singleton.mp hr
      exact .inr ⟨a, rfl, rfl, hadmission⟩
  | completes | drops => exact .inl (List.mem_of_mem_eraseIdx hr)

end Steps

/-- Before the first request. -/
def start (pricing : PricingStore) (accounts : Accounts) (logs : LogTables) : ChatService where
  pricing := pricing
  accounts := accounts
  logs := logs

abbrev run (events : List ChatEvent) : ChatService := Machine.run step s events

abbrev Throughout (P : ChatService → ChatEvent → Prop) (events : List ChatEvent) : Prop :=
  Machine.Throughout step P s events

end ChatService

def sampleUserRow (id : String) : UserRow where
  id := id
  email := id ++ "@example.com"
  name := id
  passwordHash := none
  role := UserRole.user.asStr
  metadata := ""
  createdAt := Calendar.sqlTimestamp 0
  lastLoginAt := none

/-- Ann and Bob, who have used nothing yet. -/
def sampleAccounts : Accounts :=
  ((Accounts.ofTables .empty).addUser (sampleUserRow "ann")).addUser (sampleUserRow "bob")

theorem spent_sampleAccounts (r : UsageRow) : sampleAccounts.spent r = 0 := by
  rw [sampleAccounts, Accounts.spent_addUser, Accounts.spent_addUser]
  exact if_neg List.not_mem_nil

def sampleStart : ChatService := .start .empty sampleAccounts .empty

/-- A million output tokens of gpt-4o, which are worth ten dollars. -/
def sampleResponse : CanonicalResponse :=
  ⟨"r", "gpt-4o", "openai", [.text "hello"], some "stop", ⟨0, 1000000, none, none⟩⟩

/-- A dollar a day. -/
def sampleBudgets : BudgetConfig := { dailyCostUsd := F64.one }

/-- The first request under way is answered. -/
def sampleAnswering (answer : AppResult CanonicalResponse) : Answering where
  index := 0
  pipe := samplePipeline
  upstream := fun _ => .instant answer (.error (.upstreamTimeout 0))
  health := .new
  instant := 0
  now := 0

end TokenDealer
