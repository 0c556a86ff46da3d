import TokenDealer.LogRetention
import TokenDealer.OrderBy

set_option autoImplicit true

namespace TokenDealer

/-- A request as the pages list it. -/
structure RequestRow where
  id : String
  createdAt : String
  tier : String
  routedModel : String
  routedProvider : String
  totalLatencyMs : Nat
  inputTokens : Option UInt32
  outputTokens : Option UInt32
  costUsd : Option Double
  fallbackCount : Nat
  finished : Bool
  finishReason : Option String
  clientIp : Option String
  deriving DecidableEq, Repr

structure LogFilter where
  limit : UInt32 := 0
  tier : Option String := none
  provider : Option String := none
  finished : Option Bool := none
  deriving DecidableEq, Repr

/-- The row as it is read. A cost that is no number is stored as null. -/
def StoredRequest.toRequestRow (r : StoredRequest) : RequestRow where
  id := r.log.id
  createdAt := r.createdAt
  tier := r.log.tier
  routedModel := r.log.routedModel
  routedProvider := r.log.routedProvider
  totalLatencyMs := r.log.totalLatencyMs
  inputTokens := r.log.inputTokens
  outputTokens := r.log.outputTokens
  costUsd := r.log.costUsd.filter (· ≠ .nan)
  fallbackCount := r.log.fallbackCount
  finished := r.log.finished
  finishReason := r.log.finishReason
  clientIp := r.log.clientIp

namespace LogFilter

/-- A condition that is not given is met by every row. -/
def admits (filter : LogFilter) (r : StoredRequest) : Bool :=
  filter.tier.all (r.log.tier = ·) && filter.provider.all (r.log.routedProvider = ·) &&
    filter.finished.all (r.log.finished = ·)

/-- At least one row and at most five hundred. -/
def rowLimit (filter : LogFilter) : Nat := min (max 1 filter.limit.toNat) 500

end LogFilter

/-- The row comes before or with the other in an order from the latest to the earliest. -/
def StoredRequest.latest (r r' : StoredRequest) : Bool := !Str.before r.createdAt r'.createdAt

/-- The rows that a scan of the table comes upon, which may be in any order. -/
def listRequests (filter : LogFilter) (scan : List StoredRequest) : List RequestRow :=
  (((scan.filter filter.admits).mergeSort StoredRequest.latest).take filter.rowLimit).map
    StoredRequest.toRequestRow

theorem latest_iff {r r' : StoredRequest} :
    r.latest r' = true ↔ r'.created.second ≤ r.created.second := by
  have hbefore := Calendar.sqlTimestamp_before r.created.fourDigits r'.created.fourDigits
  rw [StoredRequest.latest, Bool.not_eq_true', ← Bool.not_eq_true]
  exact (not_congr hbefore).trans Int.not_lt

theorem isRanking_latest : OrderBy.IsRanking StoredRequest.latest where
  trans _ _ _ hab hbc :=
    latest_iff.mpr (Int.le_trans (latest_iff.mp hbc) (latest_iff.mp hab))
  total a b := by
    rw [Bool.or_eq_true, latest_iff, latest_iff]
    exact Int.le_total b.created.second a.created.second

/-- The latest of the rows that a filter admits, as the log has them. -/
structure LatestRequests (filter : LogFilter) (rows : List StoredRequest)
    (listed : List RequestRow) : Prop where
  stored : ∃ chosen : List StoredRequest, listed = chosen.map StoredRequest.toRequestRow ∧
    chosen.Nodup ∧ (∀ r ∈ chosen, r ∈ rows ∧ filter.admits r = true) ∧
    chosen.Pairwise (fun r r' => r'.created.second ≤ r.created.second) ∧
    ∀ r ∈ rows, filter.admits r = true → r ∉ chosen →
      ∀ r' ∈ chosen, r.created.second ≤ r'.created.second
  count : listed.length = min filter.rowLimit (rows.countP filter.admits)

namespace LogStore

variable {foreignKeys : Bool}

theorem nodup_requests (db : LogStore foreignKeys) : db.requests.rows.Nodup := by
  refine db.requests.distinct.imp ?_
  intro a b hclash hab
  exact hclash (congrArg (fun r : StoredRequest => r.log.id) hab)

theorem latestRequests_list (db : LogStore foreignKeys) (filter : LogFilter)
    {scan : List StoredRequest} (hscan : scan.Perm db.requests.rows) :
    LatestRequests filter db.requests.rows (listRequests filter scan) := by
  have hwindow := OrderBy.isWindow_take isRanking_latest filter.rowLimit
    (hscan.filter filter.admits)
  have hnodup := hwindow.nodup (db.nodup_requests.filter _)
  refine ⟨⟨_, rfl, hnodup, ?_, ?_, ?_⟩, ?_⟩
  · intro r hr
    exact List.mem_filter.mp (hwindow.mem hr)
  · exact hwindow.ordered.imp latest_iff.mp
  · intro r hr hadmits hout r' hr'
    exact latest_iff.mp (hwindow.behind hr' (List.mem_filter.mpr ⟨hr, hadmits⟩) hout)
  · rw [listRequests, List.length_map, hwindow.count, List.countP_eq_length_filter]

/-- A statement brings in no row but the one that it inserts. -/
theorem mem_step {db : LogStore foreignKeys} {e : LogStoreEvent} {r : StoredRequest}
    (h : r ∈ (LogStoreEvent.step db e).requests.rows) :
    r ∈ db.requests.rows ∨ e = .insertRequest r.created r.log := by
  cases e with
  | insertRequest now log =>
    rw [LogStoreEvent.step, insertRequest] at h
    split at h
    · next db' hinsert =>
      split at hinsert
      · cases hinsert
      · next requests hrequests =>
        cases hinsert
        rcases (Sql.Table.mem_insert hrequests).mp h with hold | rfl
        · exact .inl hold
        · exact .inr rfl
    · exact .inl h
  | insertAttempt row =>
    left
    rw [LogStoreEvent.step, insertAttempt] at h
    split at h
    · next db' hinsert =>
      split at hinsert
      · cases hinsert
        exact h
      · cases hinsert
    · exact h
  | prune days now =>
    left
    by_cases hdays : days = 0
    · rw [LogStoreEvent.step, prune, if_pos hdays] at h
      exact h
    · have hpos : 0 < days := UInt32.pos_iff_ne_zero.mpr hdays
      rcases prune_cases hpos now db with ⟨-, hrows, -⟩ | ⟨-, hsame⟩
      · exact ((hrows r).mp h).1
      · rw [LogStoreEvent.step, hsame] at h
        exact h

/-- The request rows that some statements leave in the log. -/
def logged (foreignKeys : Bool) (events : List LogStoreEvent) : List StoredRequest :=
  (Machine.run LogStoreEvent.step (empty : LogStore foreignKeys) events).requests.rows

/-- Every row that is stored was inserted as it is. -/
theorem mem_logged {events : List LogStoreEvent} {r : StoredRequest}
    (h : r ∈ logged foreignKeys events) :
    .insertRequest r.created r.log ∈ events := by
  have hrun : ∀ db : LogStore foreignKeys,
      r ∈ (Machine.run LogStoreEvent.step db events).requests.rows →
        r ∈ db.requests.rows ∨ .insertRequest r.created r.log ∈ events := by
    clear h
    induction events with
    | nil => exact fun db h => .inl h
    | cons e events ih =>
      intro db h
      rw [Machine.run_cons] at h
      rcases ih _ h with hstep | hlater
      · exact (mem_step hstep).imp_right fun heq => List.mem_cons.mpr (.inl heq.symm)
      · exact .inr (List.mem_cons_of_mem e hlater)
  rcases hrun empty h with hnone | hmem
  · cases hnone
  · exact hmem

end LogStore

end TokenDealer
