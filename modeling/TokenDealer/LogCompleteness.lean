import TokenDealer.Outbox
import TokenDealer.SpendAccounting

set_option autoImplicit true

namespace TokenDealer

/-- The request that an insert is about. -/
def LogTask.requestId : LogTask → String
  | request row => row.id
  | attempt row => row.requestId

namespace Finished

def requestId (f : Finished) : String := f.toInFlight.routed.requestId

/-- The attempts that were made for a request. A stream has no list of them. -/
def attempts (f : Finished) : List AttemptRecord :=
  match f.outcome with
  | .completed result _ => result.attempts
  | .failed attempts => attempts
  | .streamed .. => []

/-- What is written about a request itself. -/
def requestRows (f : Finished) : List RequestLog :=
  match f.outcome with
  | .completed result cost => [requestLogRow f.toInFlight.routed result cost]
  | .failed _ | .streamed .. => []

def attemptRows (f : Finished) : List AttemptLog :=
  match f.outcome with
  | .completed result _ => attemptLogRows f.toInFlight.routed result.attempts
  | .failed _ | .streamed .. => []

theorem requestRows_id {f : Finished} : ∀ row ∈ f.requestRows, row.id = f.requestId := by
  intro row hrow
  rw [requestRows] at hrow
  split at hrow
  · rw [List.mem_singleton.mp hrow]
    rfl
  · cases hrow
  · cases hrow

theorem attemptRows_requestId {f : Finished} :
    ∀ row ∈ f.attemptRows, row.requestId = f.requestId := by
  intro row hrow
  rw [attemptRows] at hrow
  split at hrow
  · exact attemptLogRows_requestId row hrow
  · cases hrow
  · cases hrow

theorem length_requestRows (f : Finished) :
    f.requestRows.length = if f.isCompleted then 1 else 0 := by
  rw [requestRows, isCompleted]
  cases f.outcome <;> rfl

theorem attemptRows_of_completed {f : Finished} (h : f.isCompleted = true) :
    f.attemptRows = attemptLogRows f.toInFlight.routed f.attempts := by
  rw [isCompleted] at h
  rw [attemptRows, attempts]
  cases houtcome : f.outcome with
  | completed => rfl
  | failed | streamed =>
    rw [houtcome] at h
    cases h

theorem rows_of_not_completed {f : Finished} (h : f.isCompleted = false) :
    f.requestRows = [] ∧ f.attemptRows = [] := by
  rw [isCompleted] at h
  rw [requestRows, attemptRows]
  cases houtcome : f.outcome with
  | completed =>
    rw [houtcome] at h
    cases h
  | failed | streamed => exact ⟨rfl, rfl⟩

/-- Each request has written one row at most. -/
theorem requestRows_sublist (l : List Finished) :
    ((l.flatMap requestRows).map RequestLog.id).Sublist (l.map requestId) := by
  induction l with
  | nil => exact .refl _
  | cons f l ih =>
    rw [List.flatMap_cons, List.map_append]
    have hown : (f.requestRows.map RequestLog.id).Sublist [f.requestId] := by
      rw [requestRows]
      split
      · exact .refl _
      · exact List.nil_sublist _
      · exact List.nil_sublist _
    exact hown.append ih

end Finished

/-- One row about the request, and one about each attempt where it was no stream. -/
def LogTables.Covers (logs : LogTables) (f : Finished) : Prop :=
  (logs.requests.rows.filter fun row => row.id = f.requestId).length = 1 ∧
    (f.toInFlight.routed.canonical.stream = false →
      (logs.attempts.filter fun row => row.requestId = f.requestId).Perm
        (attemptLogRows f.toInFlight.routed f.attempts))

theorem LogTask.run_attempt_requests (logs : LogTables) (row : AttemptLog) :
    ((LogTask.attempt row).run logs).requests = logs.requests := by
  rw [LogTask.run, LogTables.insertAttempt]
  split
  · rename_i hinsert
    split at hinsert
    · cases hinsert
      rfl
    · cases hinsert
  · rfl

instance (logs : LogTables) (f : Finished) : Decidable (logs.Covers f) :=
  inferInstanceAs (Decidable (_ ∧ _))

theorem logTasks_requestRow (routed : RoutingOutput) (result : ExecutionResult)
    (cost : Option Double) : (logTasks routed result cost).filterMap LogTask.requestRow =
      [requestLogRow routed result cost] := by
  rw [logTasks, List.filterMap_cons_some (f := LogTask.requestRow) rfl, List.filterMap_map]
  apply congrArg
  rw [List.filterMap_eq_nil_iff]
  exact fun row _ => rfl

theorem logTasks_attemptRow (routed : RoutingOutput) (result : ExecutionResult)
    (cost : Option Double) : (logTasks routed result cost).filterMap LogTask.attemptRow =
      attemptLogRows routed result.attempts := by
  rw [logTasks, List.filterMap_cons_none (f := LogTask.attemptRow) rfl, List.filterMap_map]
  exact List.filterMap_some

namespace ChatService

/-- The ids of the requests in the table, in the spawned inserts, under way and over. -/
def idsInUse (s : ChatService) : List String :=
  (s.logs.requests.rows ++ s.pending.filterMap LogTask.requestRow).map RequestLog.id ++
    (s.finished.map Finished.requestId ++ s.inFlight.map fun r => r.routed.requestId)

/-- The id that a request is given is a new one. -/
def FreshIds (s : ChatService) : ChatEvent → Prop
  | .arrive a => a.requestId ∉ s.idsInUse
  | _ => True

/-- An attempt is inserted when its request is there. -/
def InsertsInOrder (s : ChatService) : ChatEvent → Prop
  | .runTask index => ∀ row, s.pending[index]? = some (.attempt row) →
    ∃ r ∈ s.logs.requests.rows, r.id = row.requestId
  | _ => True

/-- Requests end with an answer that is not streamed, and inserts are in order. -/
def LogsInOrder (s : ChatService) (e : ChatEvent) : Prop :=
  (∀ f, s.Ends e f → f.isCompleted = true) ∧ s.InsertsInOrder e

/-- The table of requests and the inserts to come are what the requests that are over have
written, each under an id of its own. -/
structure RequestsKept (logs : LogTables) (s : ChatService) : Prop where
  rows : Outbox.Conserved LogTask.requestRow Finished.requestRows logs.requests.rows
    s.logs.requests.rows s.pending s.finished
  distinct : (logs.requests.rows.map RequestLog.id ++ (s.finished.map Finished.requestId ++
    s.inFlight.map fun r => r.routed.requestId)).Nodup

abbrev AttemptsKept (logs : LogTables) (s : ChatService) : Prop :=
  Outbox.Conserved LogTask.attemptRow Finished.attemptRows logs.attempts s.logs.attempts s.pending
    s.finished

section Steps

variable {s : ChatService} {logs : LogTables} {index : Nat}

theorem RequestsKept.finished_nodup (h : RequestsKept logs s) :
    (s.finished.map Finished.requestId).Nodup :=
  (List.nodup_append.mp (List.nodup_append.mp h.distinct).2.1).1

theorem RequestsKept.start_ne (h : RequestsKept logs s) (hf : f ∈ s.finished) :
    ∀ row ∈ logs.requests.rows, row.id ≠ f.requestId := by
  intro row hrow
  obtain ⟨-, -, hne⟩ := List.nodup_append.mp h.distinct
  apply hne row.id (List.mem_map_of_mem hrow)
  exact List.mem_append_left _ (List.mem_map_of_mem hf)

theorem RequestsKept.ids_nodup (h : RequestsKept logs s) :
    ((s.logs.requests.rows ++ s.pending.filterMap LogTask.requestRow).map
      RequestLog.id).Nodup := by
  rw [(h.rows.map RequestLog.id).nodup_iff, List.map_append]
  have hsublist := (Finished.requestRows_sublist s.finished).trans
    (List.sublist_append_left _ (s.inFlight.map fun r => r.routed.requestId))
  exact List.Nodup.sublist (hsublist.append_left _) h.distinct

/-- A request that is spawned is not there yet. -/
theorem RequestsKept.run_request (h : RequestsKept logs s)
    (htask : s.pending[index]? = some (.request row)) :
    ((LogTask.request row).run s.logs).requests.rows = s.logs.requests.rows ++ [row] ∧
      ((LogTask.request row).run s.logs).attempts = s.logs.attempts := by
  apply LogTask.run_request
  intro r hr
  have hids := h.ids_nodup
  rw [List.map_append] at hids
  obtain ⟨-, -, hne⟩ := List.nodup_append.mp hids
  apply hne r.id (List.mem_map_of_mem hr)
  apply List.mem_map_of_mem
  exact List.mem_filterMap.mpr ⟨_, List.mem_of_getElem? htask, rfl⟩

/-- A request that ends keeps its id. -/
theorem RequestsKept.ends (h : RequestsKept logs s) (hr : s.inFlight[index]? = some f.toInFlight) :
    (logs.requests.rows.map RequestLog.id ++ ((s.finished ++ [f]).map Finished.requestId ++
      (s.inFlight.eraseIdx index).map fun r => r.routed.requestId)).Nodup := by
  have hids := (Outbox.cons_eraseIdx_perm hr).map fun r => r.routed.requestId
  rw [List.map_append, List.append_assoc]
  exact ((hids.append_left _).append_left _).nodup_iff.mpr h.distinct

/-- A new request has an id that none of the others has, nor a row that was there at first. -/
theorem RequestsKept.arrives {r : InFlight} (h : RequestsKept logs s)
    (hnew : r.routed.requestId ∉ s.idsInUse) :
    (logs.requests.rows.map RequestLog.id ++ (s.finished.map Finished.requestId ++
      (s.inFlight ++ [r]).map fun r => r.routed.requestId)).Nodup := by
  rw [List.map_append, ← List.append_assoc, ← List.append_assoc, List.append_assoc (List.map _ _),
    List.map_singleton, ← List.concat_eq_append]
  apply h.distinct.concat
  intro hold
  apply hnew
  rcases List.mem_append.mp hold with hstart | hrequests
  · -- What was there at first is in the table or among the spawned inserts.
    obtain ⟨row, hrow, hid⟩ := List.mem_map.mp hstart
    have hthere := h.rows.mem_iff.mpr (List.mem_append_left _ hrow)
    exact List.mem_append_left _ (List.mem_map.mpr ⟨row, hthere, hid⟩)
  · exact List.mem_append_right _ hrequests

theorem RequestsKept.step (h : RequestsKept logs s) (hfresh : s.FreshIds e) :
    RequestsKept logs (s.step e) := by
  have hmove := moves_step s e
  generalize s.step e = s' at hmove ⊢
  cases hmove with
  | stays => exact ⟨h.rows, h.distinct⟩
  | @arrives a routed hadmission =>
    obtain ⟨-, hrouted⟩ := ChatArrival.admission_dispatched hadmission
    obtain ⟨-, hid⟩ := ChatArrival.routed_dispatched hrouted
    refine ⟨h.rows, h.arrives ?_⟩
    rw [hid]
    exact hfresh
  | @completes e r after result hr =>
    exact ⟨h.rows.enqueue (logTasks_requestRow r.routed result _), h.ends hr⟩
  | drops hends hr hcompleted =>
    obtain ⟨hrequest, -⟩ := Finished.rows_of_not_completed hcompleted
    exact ⟨h.rows.skip hrequest, h.ends hr⟩
  | @runs index task htask =>
    refine ⟨h.rows.deliver htask ?_, h.distinct⟩
    cases task with
    | request row => exact (h.run_request htask).1
    | attempt row =>
      rw [LogTask.run_attempt_requests]
      exact (List.append_nil _).symm

theorem AttemptsKept.step (h : AttemptsKept logs s) (hrequests : RequestsKept logs s)
    (horder : s.InsertsInOrder e) : AttemptsKept logs (s.step e) := by
  have hmove := moves_step s e
  generalize s.step e = s' at hmove ⊢
  cases hmove with
  | stays | arrives => exact h
  | @completes e r after result hr => exact h.enqueue (logTasks_attemptRow r.routed result _)
  | drops hends hr hcompleted => exact h.skip (Finished.rows_of_not_completed hcompleted).2
  | @runs index task htask =>
    refine h.deliver htask ?_
    cases task with
    | request row =>
      rw [(hrequests.run_request htask).2]
      exact (List.append_nil _).symm
    | attempt row => exact (LogTask.run_attempt (horder row htask)).2

theorem RequestsKept.filter_rows (h : RequestsKept logs s) (hf : f ∈ s.finished)
    (hdone : ∀ task ∈ s.pending, task.requestId ≠ f.requestId) :
    (s.logs.requests.rows.filter fun row => row.id = f.requestId).Perm f.requestRows := by
  apply h.rows.filter_table h.finished_nodup (fun g _ => Finished.requestRows_id) (h.start_ne hf)
    _ hf
  intro row hrow
  obtain ⟨task, htask, hread⟩ := List.mem_filterMap.mp hrow
  cases task with
  | request r =>
    cases hread
    exact hdone _ htask
  | attempt r => cases hread

theorem AttemptsKept.filter_attempts (h : AttemptsKept logs s) (hrequests : RequestsKept logs s)
    (hf : f ∈ s.finished) (hdone : ∀ task ∈ s.pending, task.requestId ≠ f.requestId) :
    (s.logs.attempts.filter fun row => row.requestId = f.requestId).Perm f.attemptRows := by
  apply h.filter_table hrequests.finished_nodup (fun g _ => Finished.attemptRows_requestId) _ _ hf
  · intro row hrow
    obtain ⟨r, hr, hid⟩ := logs.attempts_request row hrow
    rw [← hid]
    exact hrequests.start_ne hf r hr
  · intro row hrow
    obtain ⟨task, htask, hread⟩ := List.mem_filterMap.mp hrow
    cases task with
    | request r => cases hread
    | attempt r =>
      cases hread
      exact hdone _ htask

end Steps

section Runs

variable {pricing : PricingStore} {accounts : Accounts} {logs : LogTables}
  {events : List ChatEvent}

theorem requestsKept_start (pricing : PricingStore) (accounts : Accounts) (logs : LogTables) :
    RequestsKept logs (start pricing accounts logs) := by
  refine ⟨Outbox.conserved_start _ _ _, ?_⟩
  show (logs.requests.rows.map RequestLog.id ++ []).Nodup
  rw [List.append_nil]
  exact List.pairwise_map.mpr logs.requests.distinct

theorem requestsKept_run
    (hfresh : (start pricing accounts logs).Throughout FreshIds events) :
    RequestsKept logs ((start pricing accounts logs).run events) :=
  Machine.run_invariant (fun _ _ h he => h.step he)
    (requestsKept_start pricing accounts logs) hfresh

theorem requestsKept_throughout
    (hfresh : (start pricing accounts logs).Throughout FreshIds events) :
    (start pricing accounts logs).Throughout (fun s e => RequestsKept logs s ∧ s.FreshIds e)
      events :=
  Machine.throughout_invariant (fun _ _ h he => h.step he)
    (requestsKept_start pricing accounts logs) hfresh

/-- Once its inserts have run, whatever their order, a request is in the table once just when it
was completed. -/
theorem request_logged_iff
    (hfresh : (start pricing accounts logs).Throughout FreshIds events)
    (hf : f ∈ ((start pricing accounts logs).run events).finished)
    (hdone : ∀ task ∈ ((start pricing accounts logs).run events).pending,
      task.requestId ≠ f.requestId) :
    (((start pricing accounts logs).run events).logs.requests.rows.filter
      fun row => row.id = f.requestId).length = 1 ↔ f.isCompleted = true := by
  rw [((requestsKept_run hfresh).filter_rows hf hdone).length_eq, Finished.length_requestRows]
  cases f.isCompleted with
  | true => exact iff_of_true rfl rfl
  | false => exact iff_of_false Nat.zero_ne_one Bool.false_ne_true

/-- Where all requests are completed and no attempt is inserted before its request, a request is
logged with all its attempts once its inserts have run. -/
theorem log_complete (hfresh : (start pricing accounts logs).Throughout FreshIds events)
    (horder : (start pricing accounts logs).Throughout LogsInOrder events)
    (hf : f ∈ ((start pricing accounts logs).run events).finished)
    (hdone : ∀ task ∈ ((start pricing accounts logs).run events).pending,
      task.requestId ≠ f.requestId) :
    ((start pricing accounts logs).run events).logs.Covers f := by
  have hrequests := requestsKept_run hfresh
  have hattempts : AttemptsKept logs ((start pricing accounts logs).run events) := by
    apply Machine.run_invariant (I := AttemptsKept logs) _ (Outbox.conserved_start _ _ _)
      ((requestsKept_throughout hfresh).and horder)
    intro s e h he
    obtain ⟨⟨hrequests, -⟩, -, hinserts⟩ := he
    exact AttemptsKept.step h hrequests hinserts
  have hcompleted : ∀ f ∈ ((start pricing accounts logs).run events).finished,
      f.isCompleted = true := by
    apply Machine.run_invariant (fun s e h he => forall_finished_step h he.1) _ horder
    exact fun f hf => absurd hf List.not_mem_nil
  constructor
  · rw [(hrequests.filter_rows hf hdone).length_eq, Finished.length_requestRows,
      if_pos (hcompleted f hf)]
  · intro hstream
    rw [← Finished.attemptRows_of_completed (hcompleted f hf)]
    exact hattempts.filter_attempts hrequests hf hdone

end Runs

/-- Ann is answered, and then the inserts run one after the other. -/
def sampleLoggedDay : List ChatEvent := sampleDay "api_key" ++ [.runTask 0, .runTask 0]

theorem sampleLoggedDay_inOrder : sampleStart.Throughout LogsInOrder sampleLoggedDay := by
  refine ⟨⟨?_, trivial⟩, ⟨?_, trivial⟩, ⟨?_, ?_⟩, ⟨?_, ?_⟩, trivial⟩
  · intro f hf
    cases hf
  · intro f hf
    have hcompleted : ∀ f ∈ (sampleStart.run (sampleDay "api_key")).finished,
        f.isCompleted = true := by
      decide +kernel
    exact hcompleted f hf.mem_finished
  · intro f hf
    cases hf
  · intro row hrow
    have hrequest : ((sampleStart.run (sampleDay "api_key")).pending[0]?.bind
        LogTask.attemptRow) = none := by
      decide +kernel
    have hpending : (sampleStart.run (sampleDay "api_key")).pending[0]? = some (.attempt row) :=
      hrow
    rw [hpending] at hrequest
    cases hrequest
  · intro f hf
    cases hf
  · intro row hrow
    have hattempt : ((sampleStart.run (sampleLoggedDay.take 3)).pending[0]?.bind
        LogTask.attemptRow).map AttemptLog.requestId = some "1" := by
      decide +kernel
    have hthere : ∃ r ∈ (sampleStart.run (sampleLoggedDay.take 3)).logs.requests.rows,
        r.id = "1" := by
      decide +kernel
    have hpending : (sampleStart.run (sampleLoggedDay.take 3)).pending[0]? =
        some (.attempt row) := hrow
    rw [hpending] at hattempt
    have hid : row.requestId = "1" := Option.some.inj hattempt
    rw [hid]
    exact hthere

theorem log_complete_sample : ∃ f ∈ (sampleStart.run sampleLoggedDay).finished,
    (sampleStart.run sampleLoggedDay).logs.Covers f := by
  obtain ⟨f, hf⟩ : ∃ f, f ∈ (sampleStart.run sampleLoggedDay).finished :=
    List.exists_mem_of_length_pos (by decide +kernel)
  have hdone : (sampleStart.run sampleLoggedDay).pending = [] := by decide +kernel
  refine ⟨f, hf, log_complete ⟨List.not_mem_nil, trivial, trivial, trivial, trivial⟩
    sampleLoggedDay_inOrder hf ?_⟩
  intro task htask
  exact absurd (hdone ▸ htask) List.not_mem_nil

/-- Every entry of the chain fails. -/
def sampleFailedDay : List ChatEvent :=
  [.arrive (sampleArrival sampleBudgets (sampleUser "ann" "api_key") "1"),
    .answer (sampleAnswering (.error (.internal "down")))]

/-- Ann is answered, and the insert of the attempt is the first to run. -/
def sampleOvertakingDay : List ChatEvent := sampleDay "api_key" ++ [.runTask 1, .runTask 0]

/-- The requests of a run have ids of their own, no insert is left, and yet one of them is not
covered. -/
def Uncovered (s : ChatService) (events : List ChatEvent) : Prop :=
  s.Throughout FreshIds events ∧ (s.run events).pending = [] ∧
    ∃ f ∈ (s.run events).finished, ¬ (s.run events).logs.Covers f

/-- A request that fails everywhere leaves no row, nor does a stream, and an attempt that is
inserted before its request is lost. -/
theorem log_incomplete : Uncovered sampleStart sampleFailedDay ∧
    Uncovered sampleStart sampleStreamDay ∧ Uncovered sampleStart sampleOvertakingDay := by
  refine ⟨⟨?_, ?_⟩, ⟨?_, ?_⟩, ⟨?_, ?_⟩⟩
  · exact ⟨List.not_mem_nil, trivial, trivial⟩
  · decide +kernel
  · exact ⟨List.not_mem_nil, trivial, trivial⟩
  · decide +kernel
  · exact ⟨List.not_mem_nil, trivial, trivial, trivial, trivial⟩
  · decide +kernel

end ChatService

end TokenDealer
