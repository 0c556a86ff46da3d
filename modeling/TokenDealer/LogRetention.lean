import TokenDealer.AuditLog
import TokenDealer.Machine

set_option autoImplicit true

namespace TokenDealer

/-- A time of the database's clock, in the years that it writes with four digits. -/
structure DbClock where
  time : Utc
  fourDigits : Calendar.FourDigits (Calendar.dayOf time)

def DbClock.timestamp (now : DbClock) : String := Calendar.sqlTimestamp now.time

/-- The whole seconds of a clock. -/
def DbClock.second (now : DbClock) : Int := now.time / 1000000000

/-- A request row with the time of its insertion. -/
structure StoredRequest where
  log : RequestLog
  created : DbClock

def StoredRequest.createdAt (r : StoredRequest) : String := r.created.timestamp

/-- The two tables of the log, as they are stored. Where foreign keys are enforced every attempt
row is of a request row that is there. -/
structure LogStore (foreignKeys : Bool) where
  requests : Sql.Table StoredRequest fun a b => a.log.id = b.log.id
  attempts : List AttemptLog
  attempts_request : foreignKeys = true →
    ∀ a ∈ attempts, ∃ r ∈ requests.rows, r.log.id = a.requestId

namespace LogStore

variable {foreignKeys : Bool}

def empty : LogStore foreignKeys := ⟨.empty, [], fun _ _ h => absurd h List.not_mem_nil⟩

def insertRequest (db : LogStore foreignKeys) (now : DbClock) (log : RequestLog) :
    Except StoreError (LogStore foreignKeys) :=
  match h : db.requests.insert ⟨log, now⟩ with
  | none => .error .unique
  | some requests =>
    .ok { db with
      requests := requests
      attempts_request := by
        intro hkeys a ha
        obtain ⟨r, hr, hid⟩ := db.attempts_request hkeys a ha
        exact ⟨r, (Sql.Table.mem_insert h).mpr (.inl hr), hid⟩ }

def insertAttempt (db : LogStore foreignKeys) (row : AttemptLog) :
    Except StoreError (LogStore foreignKeys) :=
  if h : foreignKeys = true → ∃ r ∈ db.requests.rows, r.log.id = row.requestId then
    .ok { db with
      attempts := db.attempts ++ [row]
      attempts_request := by
        intro hkeys a ha
        rcases List.mem_append.mp ha with ha | ha
        · exact db.attempts_request hkeys a ha
        · exact List.mem_singleton.mp ha ▸ h hkeys }
  else .error .foreignKey

/-- Where foreign keys are enforced, a request row that an attempt row is of cannot go, and no
other row goes then either. -/
def deleteRequestsWhere (db : LogStore foreignKeys) (p : StoredRequest → Bool) :
    Except StoreError (LogStore foreignKeys) :=
  if h : foreignKeys = true →
      ∀ r ∈ db.requests.rows, p r = true → ∀ a ∈ db.attempts, a.requestId ≠ r.log.id then
    .ok { db with
      requests := db.requests.deleteWhere p
      attempts_request := by
        intro hkeys a ha
        obtain ⟨r, hr, hid⟩ := db.attempts_request hkeys a ha
        refine ⟨r, Sql.Table.mem_deleteWhere.mpr ⟨hr, ?_⟩, hid⟩
        exact Bool.eq_false_iff.mpr fun hp => h hkeys r hr hp a ha hid.symm }
  else .error .foreignKey

/-- So many days before now. A time before the year zero is null or begins with a minus, and no
other text is before it. -/
def retentionCutoff (now : DbClock) (days : UInt32) : Option String :=
  let cutoff := now.time - days.toNat * Calendar.nanosPerDay
  if 0 ≤ Calendar.yearOf (Calendar.dayOf cutoff) then some (Calendar.sqlTimestamp cutoff) else none

/-- The pruner deletes the request rows that are before the cutoff. A failure goes unnoticed. -/
def prune (days : UInt32) (now : DbClock) (db : LogStore foreignKeys) : LogStore foreignKeys :=
  if days = 0 then db
  else
    match retentionCutoff now days with
    | none => db
    | some cutoff =>
      match db.deleteRequestsWhere fun r => Str.before r.createdAt cutoff with
      | .ok db => db
      | .error _ => db

end LogStore

/-- A statement of the program on the log. -/
inductive LogStoreEvent where
  | insertRequest (now : DbClock) (log : RequestLog)
  | insertAttempt (row : AttemptLog)
  | prune (days : UInt32) (now : DbClock)

/-- A row that cannot be inserted is left out. -/
def LogStoreEvent.step (db : LogStore foreignKeys) : LogStoreEvent → LogStore foreignKeys
  | insertRequest now log =>
    match db.insertRequest now log with
    | .ok db => db
    | .error _ => db
  | insertAttempt row =>
    match db.insertAttempt row with
    | .ok db => db
    | .error _ => db
  | prune days now => db.prune days now

namespace StoredRequest

/-- More than so many days have passed since the row was inserted, in whole seconds. -/
def OlderThan (days : UInt32) (now : DbClock) (r : StoredRequest) : Prop :=
  r.created.second + days.toNat * 86400 < now.second

instance : DecidablePred (OlderThan days now) := fun r =>
  inferInstanceAs (Decidable (r.created.second + days.toNat * 86400 < now.second))

/-- The text of a row is before the cutoff exactly when the row is older. -/
theorem olderThan_iff (days : UInt32) (now : DbClock) (r : StoredRequest) :
    r.OlderThan days now ↔ ∃ cutoff, LogStore.retentionCutoff now days = some cutoff ∧
      Str.before r.createdAt cutoff = true := by
  have hcreated := r.created.fourDigits
  have hnow := now.fourDigits
  rw [OlderThan, DbClock.second, DbClock.second, Calendar.add_days_lt_iff]
  have hcutoff : (now.time - days.toNat * Calendar.nanosPerDay) / 1000000000 ≤
      now.time / 1000000000 :=
    Int.ediv_le_ediv (by decide) (Int.sub_le_self _ (Int.mul_nonneg (Int.natCast_nonneg _)
      (by decide)))
  rw [LogStore.retentionCutoff]
  generalize now.time - days.toNat * Calendar.nanosPerDay = cutoff at *
  by_cases hyear : 0 ≤ Calendar.yearOf (Calendar.dayOf cutoff)
  · have hfour : Calendar.FourDigits (Calendar.dayOf cutoff) :=
      ⟨hyear, (Calendar.yearOf_mono (Calendar.dayOf_mono hcutoff)).trans hnow.2⟩
    simp only [if_pos hyear, Option.some.injEq, exists_eq_left']
    exact (Calendar.sqlTimestamp_before hcreated hfour).symm
  · simp only [if_neg hyear, reduceCtorEq, false_and, exists_false, iff_false]
    intro holder
    exact hyear (hcreated.1.trans
      (Calendar.yearOf_mono (Calendar.dayOf_mono (Int.le_of_lt holder))))

end StoredRequest

namespace LogStore

variable {foreignKeys : Bool} {days : UInt32} {now : DbClock}

/-- No attempt row is of a request row that is older. -/
def OldUnused (days : UInt32) (now : DbClock) (db : LogStore foreignKeys) : Prop :=
  ∀ r ∈ db.requests.rows, r.OlderThan days now → ∀ a ∈ db.attempts, a.requestId ≠ r.log.id

/-- The older request rows are gone, the attempt rows are of none of them, and the younger request
rows are there with all their attempts. -/
structure Pruned (days : UInt32) (now : DbClock) (db db' : LogStore foreignKeys) : Prop where
  gone : ∀ r ∈ db'.requests.rows, ¬ r.OlderThan days now
  referred : ∀ r ∈ db.requests.rows, r ∉ db'.requests.rows →
    ∀ a ∈ db'.attempts, a.requestId ≠ r.log.id
  kept : ∀ r ∈ db.requests.rows, ¬ r.OlderThan days now → r ∈ db'.requests.rows ∧
    db'.attempts.filter (fun a => a.requestId = r.log.id) =
      db.attempts.filter fun a => a.requestId = r.log.id

theorem deleteRequestsWhere_of_free {db : LogStore foreignKeys} {p : StoredRequest → Bool}
    (h : foreignKeys = true →
      ∀ r ∈ db.requests.rows, p r = true → ∀ a ∈ db.attempts, a.requestId ≠ r.log.id) :
    ∃ db', db.deleteRequestsWhere p = .ok db' ∧ db'.requests = db.requests.deleteWhere p ∧
      db'.attempts = db.attempts := by
  rw [deleteRequestsWhere, dif_pos h]
  exact ⟨_, rfl, rfl, rfl⟩

theorem deleteRequestsWhere_of_referred {db : LogStore foreignKeys} {p : StoredRequest → Bool}
    (h : ¬ (foreignKeys = true →
      ∀ r ∈ db.requests.rows, p r = true → ∀ a ∈ db.attempts, a.requestId ≠ r.log.id)) :
    db.deleteRequestsWhere p = .error .foreignKey := by
  rw [deleteRequestsWhere, dif_neg h]

/-- A prune deletes the older rows, unless foreign keys are enforced and an attempt row is of one
of them. -/
theorem prune_cases (hdays : 0 < days) (now : DbClock) (db : LogStore foreignKeys) :
    (foreignKeys = true → db.OldUnused days now) ∧
        (∀ r, r ∈ (db.prune days now).requests.rows ↔
          r ∈ db.requests.rows ∧ ¬ r.OlderThan days now) ∧
        (db.prune days now).attempts = db.attempts ∨
      ¬ (foreignKeys = true → db.OldUnused days now) ∧ db.prune days now = db := by
  have hne : days ≠ 0 := by
    rintro rfl
    exact absurd hdays (by decide)
  rw [prune, if_neg hne]
  have holder := StoredRequest.olderThan_iff days now
  cases hcutoff : retentionCutoff now days with
  | none =>
    have hnone : ∀ r : StoredRequest, ¬ r.OlderThan days now := by
      intro r h
      obtain ⟨cutoff, hsome, -⟩ := (holder r).mp h
      cases hcutoff.symm.trans hsome
    refine .inl ⟨fun _ r _ h => absurd h (hnone r), ?_, rfl⟩
    intro r
    exact (and_iff_left (hnone r)).symm
  | some cutoff =>
    have hbefore : ∀ r : StoredRequest,
        r.OlderThan days now ↔ Str.before r.createdAt cutoff = true := by
      intro r
      rw [holder r, hcutoff]
      simp only [Option.some.injEq, exists_eq_left']
    have hfree : db.OldUnused days now ↔ ∀ r ∈ db.requests.rows,
        Str.before r.createdAt cutoff = true → ∀ a ∈ db.attempts, a.requestId ≠ r.log.id := by
      simp only [OldUnused, hbefore]
    rw [hfree]
    dsimp only
    by_cases hunused : foreignKeys = true → ∀ r ∈ db.requests.rows,
        Str.before r.createdAt cutoff = true → ∀ a ∈ db.attempts, a.requestId ≠ r.log.id
    · obtain ⟨db', hdelete, hrequests, hattempts⟩ := deleteRequestsWhere_of_free hunused
      rw [hdelete]
      refine .inl ⟨hunused, ?_, hattempts⟩
      intro r
      dsimp only
      rw [hrequests, Sql.Table.mem_deleteWhere, hbefore, Bool.not_eq_true]
    · rw [deleteRequestsWhere_of_referred hunused]
      exact .inr ⟨hunused, rfl⟩

/-- A prune is complete and leaves nothing that refers to a row that is gone exactly when no
attempt row is of an older request row. -/
theorem pruned_iff (hdays : 0 < days) (now : DbClock) (db : LogStore foreignKeys) :
    Pruned days now db (db.prune days now) ↔ db.OldUnused days now := by
  rcases prune_cases hdays now db with ⟨hfree, hrows, hattempts⟩ | ⟨hreferred, hsame⟩
  · constructor
    · intro hpruned r hr holder a ha
      refine hpruned.referred r hr ?_ a (by rwa [hattempts])
      exact fun hleft => ((hrows r).mp hleft).2 holder
    · intro hunused
      refine ⟨fun r hr => ((hrows r).mp hr).2, ?_, ?_⟩
      · intro r hr hgone a ha
        rw [hattempts] at ha
        refine hunused r hr ?_ a ha
        by_contra hyoung
        exact hgone ((hrows r).mpr ⟨hr, hyoung⟩)
      · intro r hr hyoung
        exact ⟨(hrows r).mpr ⟨hr, hyoung⟩, by rw [hattempts]⟩
  · rw [hsame]
    constructor
    · intro hpruned r hr holder
      exact absurd holder (hpruned.gone r hr)
    · intro hunused
      exact absurd (fun _ => hunused) hreferred

/-- After any statements on the log. -/
theorem log_retention_iff (foreignKeys : Bool) (events : List LogStoreEvent) {days : UInt32}
    (hdays : 0 < days) (now : DbClock) :
    Pruned days now (Machine.run LogStoreEvent.step (empty : LogStore foreignKeys) events)
        ((Machine.run LogStoreEvent.step empty events).prune days now) ↔
      (Machine.run LogStoreEvent.step (empty : LogStore foreignKeys) events).OldUnused days now :=
  pruned_iff hdays now _

section Samples

def sampleRequest : RequestLog where
  id := "r1"
  tier := "simple"
  requestedModel := none
  routedModel := "gpt-4o-mini"
  routedProvider := "openai"
  totalLatencyMs := 420
  inputTokens := some 12
  outputTokens := some 30
  cacheReadTokens := none
  costUsd := none
  truncated := false
  fallbackCount := 0
  finished := true
  finishReason := some "stop"
  clientIp := none
  userId := none
  userAgent := none

def sampleAttempt : AttemptLog where
  requestId := "r1"
  attemptNumber := 1
  provider := "openai"
  model := "gpt-4o-mini"
  outcome := "Success"
  errorCode := none
  errorMessage := none
  latencyMs := 420
  retryWaitMs := none

/-- The first of January 2026. -/
def sampleClock : DbClock := ⟨63934444800000000000, by decide, by decide⟩

/-- Thirty days later. -/
def sampleLater : DbClock := ⟨63937036800000000000, by decide, by decide⟩

/-- A request that was answered at the first attempt. -/
def sampleEvents : List LogStoreEvent :=
  [.insertRequest sampleClock sampleRequest, .insertAttempt sampleAttempt]

theorem log_retention_sample :
    Pruned 7 sampleLater
        (Machine.run LogStoreEvent.step (empty : LogStore true) sampleEvents)
        ((Machine.run LogStoreEvent.step empty sampleEvents).prune 7 sampleLater) ↔
      (Machine.run LogStoreEvent.step (empty : LogStore true) sampleEvents).OldUnused 7
        sampleLater :=
  log_retention_iff true sampleEvents (by decide) sampleLater

/-- Whether foreign keys are enforced or not, one attempt row of an older request is enough. -/
theorem old_attempt_in_the_way (foreignKeys : Bool) :
    ¬ Pruned 7 sampleLater
        (Machine.run LogStoreEvent.step (empty : LogStore foreignKeys) sampleEvents)
        ((Machine.run LogStoreEvent.step empty sampleEvents).prune 7 sampleLater) := by
  rw [pruned_iff (by decide)]
  intro hunused
  have hold : StoredRequest.OlderThan 7 sampleLater ⟨sampleRequest, sampleClock⟩ := by decide
  refine hunused ⟨sampleRequest, sampleClock⟩ ?_ hold sampleAttempt ?_ rfl
  · cases foreignKeys <;> exact List.mem_singleton_self _
  · cases foreignKeys <;> exact List.mem_singleton_self _

theorem log_retention_fails :
    ¬ ∀ (foreignKeys : Bool) (events : List LogStoreEvent) (days : UInt32) (now : DbClock),
      0 < days → Pruned days now
        (Machine.run LogStoreEvent.step (empty : LogStore foreignKeys) events)
        ((Machine.run LogStoreEvent.step empty events).prune days now) := by
  intro hall
  exact old_attempt_in_the_way true (hall true sampleEvents 7 sampleLater (by decide))

end Samples

end LogStore

end TokenDealer
