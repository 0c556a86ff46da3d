import TokenDealer.Double
import TokenDealer.Pipeline
import TokenDealer.SqlTable
import TokenDealer.UserTables

set_option autoImplicit true

namespace TokenDealer

structure RequestLog where
  id : String
  tier : String
  requestedModel : Option String
  routedModel : String
  routedProvider : String
  totalLatencyMs : Nat
  inputTokens : Option UInt32
  outputTokens : Option UInt32
  cacheReadTokens : Option UInt32
  costUsd : Option Double
  truncated : Bool
  fallbackCount : Nat
  finished : Bool
  finishReason : Option String
  clientIp : Option String
  userId : Option String
  userAgent : Option String
  deriving DecidableEq, Repr

structure AttemptLog where
  requestId : String
  attemptNumber : Nat
  provider : String
  model : String
  outcome : String
  errorCode : Option String
  errorMessage : Option String
  latencyMs : Nat
  retryWaitMs : Option Nat
  deriving DecidableEq, Repr

/-- As the debug formatter writes an outcome. -/
def AttemptOutcome.debugText : AttemptOutcome → String
  | success => "Success"
  | retry waitMs reason => s!"Retry \x7b wait_ms: {waitMs}, reason: \"{reason}\" \x7d"
  | skip reason => s!"Skip \x7b reason: \"{reason}\" \x7d"
  | fatal reason => s!"Fatal \x7b reason: \"{reason}\" \x7d"
  | contextTooLong limit => s!"ContextTooLong \x7b limit: {limit} \x7d"

/-- The two tables of the log. Every attempt row is of a request row that is there. -/
structure LogTables where
  requests : Sql.Table RequestLog fun a b => a.id = b.id
  attempts : List AttemptLog
  attempts_request : ∀ a ∈ attempts, ∃ r ∈ requests.rows, r.id = a.requestId

namespace LogTables

def empty : LogTables := ⟨.empty, [], fun _ h => absurd h List.not_mem_nil⟩

def insertRequest (t : LogTables) (row : RequestLog) : Except StoreError LogTables :=
  match h : t.requests.insert row with
  | none => .error .unique
  | some requests =>
    .ok { t with
      requests := requests
      attempts_request := by
        intro a ha
        obtain ⟨r, hr, hid⟩ := t.attempts_request a ha
        exact ⟨r, (Sql.Table.mem_insert h).mpr (.inl hr), hid⟩ }

def insertAttempt (t : LogTables) (row : AttemptLog) : Except StoreError LogTables :=
  if h : ∃ r ∈ t.requests.rows, r.id = row.requestId then
    .ok { t with
      attempts := t.attempts ++ [row]
      attempts_request := by
        intro a ha
        rcases List.mem_append.mp ha with ha | ha
        · exact t.attempts_request a ha
        · exact List.mem_singleton.mp ha ▸ h }
  else .error .foreignKey

end LogTables

/-- An insert that has been spawned. -/
inductive LogTask where
  | request (row : RequestLog)
  | attempt (row : AttemptLog)
  deriving DecidableEq, Repr

namespace LogTask

/-- What the insert leaves. Its failure goes unnoticed. -/
def run (t : LogTables) : LogTask → LogTables
  | request row =>
    match t.insertRequest row with
    | .ok t => t
    | .error _ => t
  | attempt row =>
    match t.insertAttempt row with
    | .ok t => t
    | .error _ => t

def requestRow : LogTask → Option RequestLog
  | request row => some row
  | attempt _ => none

def attemptRow : LogTask → Option AttemptLog
  | request _ => none
  | attempt row => some row

section

variable {t : LogTables}

theorem run_request (h : ∀ r ∈ t.requests.rows, r.id ≠ row.id) :
    ((request row).run t).requests.rows = t.requests.rows ++ [row] ∧
      ((request row).run t).attempts = t.attempts := by
  rw [run]
  cases hinsert : t.insertRequest row with
  | error e =>
    rw [LogTables.insertRequest] at hinsert
    split at hinsert
    · rename_i hclash
      rw [Sql.Table.insert, dif_pos h] at hclash
      cases hclash
    · cases hinsert
  | ok t' =>
    rw [LogTables.insertRequest] at hinsert
    split at hinsert
    · cases hinsert
    · cases hinsert
      exact ⟨(Sql.Table.insert_eq_some ‹_›).2, rfl⟩

theorem run_attempt (h : ∃ r ∈ t.requests.rows, r.id = row.requestId) :
    ((attempt row).run t).requests = t.requests ∧
      ((attempt row).run t).attempts = t.attempts ++ [row] := by
  rw [run, LogTables.insertAttempt, dif_pos h]
  exact ⟨rfl, rfl⟩

end

end LogTask

def requestLogRow (routed : RoutingOutput) (result : ExecutionResult) (cost : Option Double) :
    RequestLog where
  id := routed.requestId
  tier := routed.canonical.tier.asStr
  requestedModel := some routed.canonical.selectedModel
  routedModel := result.response.model
  routedProvider := result.response.provider
  totalLatencyMs := (result.attempts.getLast?.map AttemptRecord.latencyMs).getD 0
  inputTokens := some result.response.usage.inputTokens
  outputTokens := some result.response.usage.outputTokens
  cacheReadTokens := result.response.usage.cacheReadTokens
  costUsd := cost
  truncated := false
  fallbackCount := result.fallbackCount
  finished := true
  finishReason := result.response.finishReason
  clientIp := none
  userId := routed.userId
  userAgent := routed.userAgent

/-- Attempts are numbered from one on. -/
def attemptLogRows (routed : RoutingOutput) (attempts : List AttemptRecord) : List AttemptLog :=
  attempts.zipIdx.map fun (a, idx) =>
    { requestId := routed.requestId
      attemptNumber := idx + 1
      provider := a.provider
      model := a.model
      outcome := a.outcome.debugText
      errorCode := none
      errorMessage := none
      latencyMs := a.latencyMs
      retryWaitMs := none }

/-- The inserts that a completion spawns. -/
def logTasks (routed : RoutingOutput) (result : ExecutionResult) (cost : Option Double) :
    List LogTask :=
  .request (requestLogRow routed result cost) ::
    (attemptLogRows routed result.attempts).map .attempt

theorem attemptLogRows_requestId :
    ∀ row ∈ attemptLogRows routed attempts, row.requestId = routed.requestId := by
  intro row hrow
  obtain ⟨p, -, rfl⟩ := List.mem_map.mp hrow
  rfl

end TokenDealer
