import Mathlib.Data.List.Nodup
import TokenDealer.Accounts
import TokenDealer.CredentialSoundness

set_option autoImplicit true

namespace TokenDealer

/-- A call that records usage. -/
structure UsageCall where
  now : Utc
  userId : String
  inputTokens : UInt32
  outputTokens : UInt32
  costUsd : Double
  deriving DecidableEq, Repr

namespace UsageCall

def row (c : UsageCall) : UsageRow := ⟨c.userId, Accounts.dayText c.now⟩

def figures (c : UsageCall) : UsageFigures where
  inputTokens := c.inputTokens.toNat
  outputTokens := c.outputTokens.toNat
  costUsd := c.costUsd
  requestCount := 1

def counts (c : UsageCall) : UsageCounts := c.figures.toUsageCounts

end UsageCall

/-- What is reported of a day: input tokens, output tokens, cost and number of requests. -/
abbrev UsageReport := UInt32 × UInt32 × Double × UInt32

namespace Accounts

/-- A count is an integer of 64 bits with a sign, of which 32 bits are kept. -/
def keptCount (i n : Nat) : Except StoreError UInt32 :=
  if n < 2 ^ 63 then .ok (UInt32.ofNat n) else .error (.column (.invalidColumnType i))

def reportOf (f : UsageFigures) : Except StoreError UsageReport := do
  let input ← keptCount 0 f.inputTokens
  let output ← keptCount 1 f.outputTokens
  let reqs ← keptCount 3 f.requestCount
  return (input, output, f.costUsd, reqs)

def getUsageToday (a : Accounts) (now : Utc) (userId : String) : Except StoreError UsageReport :=
  if (⟨userId, dayText now⟩ : UsageRow) ∈ a.tables.tokenUsage.rows then
    reportOf (a.figures ⟨userId, dayText now⟩)
  else .ok (0, 0, 0, 0)

def dayFigures (a : Accounts) (day : String) : List UsageFigures :=
  (a.tables.tokenUsage.rows.filter fun r => r.day = day).map a.figures

/-- The counts of a day, of all users. -/
def dayTotal (a : Accounts) (day : String) : UsageCounts :=
  ((a.dayFigures day).map UsageFigures.toUsageCounts).sum

/-- How costs are summed is up to the database. A sum that is no number is null, and zero stands
for it. A sum of counts of more than 64 bits is refused. -/
def getGlobalUsageToday (sumCosts : List Double → Double) (a : Accounts) (now : Utc) :
    Except StoreError UsageReport :=
  let total := a.dayTotal (dayText now)
  let cost := sumCosts ((a.dayFigures (dayText now)).map UsageFigures.costUsd)
  if total.inputTokens < 2 ^ 63 ∧ total.outputTokens < 2 ^ 63 ∧ total.requestCount < 2 ^ 63 then
    reportOf ⟨total, if cost = .nan then 0 else cost⟩
  else .error (.message "integer overflow")

/-- The calls one after the other, and those of them that were recorded. -/
def recordAll (a : Accounts) : List UsageCall → Accounts × List UsageCall
  | [] => (a, [])
  | c :: calls =>
    match a.recordUsage c.now c.userId c.inputTokens c.outputTokens c.costUsd with
    | .error _ => a.recordAll calls
    | .ok a' => ((a'.recordAll calls).1, c :: (a'.recordAll calls).2)

/-- The counts of a report are these. -/
def Reports (report : Except StoreError UsageReport) (f : UsageCounts) : Prop :=
  ∃ input output cost reqs, report = .ok (input, output, cost, reqs) ∧
    input.toNat = f.inputTokens ∧ output.toNat = f.outputTokens ∧ reqs.toNat = f.requestCount

/-- The counts have 32 bits. -/
structure Fits (f : UsageCounts) : Prop where
  input : f.inputTokens < 2 ^ 32
  output : f.outputTokens < 2 ^ 32
  requests : f.requestCount < 2 ^ 32

/-- Nothing has been recorded on the day yet. -/
def Fresh (a : Accounts) (now : Utc) : Prop :=
  ∀ r ∈ a.tables.tokenUsage.rows, r.day ≠ dayText now

/-- The counts of the calls of a user on a day. -/
def ofUser (now : Utc) (calls : List UsageCall) (userId : String) : UsageCounts :=
  ((calls.filter fun c => c.row = ⟨userId, dayText now⟩).map UsageCall.counts).sum

/-- The counts of all calls of a day. -/
def ofDay (now : Utc) (calls : List UsageCall) : UsageCounts :=
  ((calls.filter fun c => c.row.day = dayText now).map UsageCall.counts).sum

section Reading

variable {f : UsageCounts}

theorem keptCount_eq_ok (i : Nat) (h : n < 2 ^ 32) : keptCount i n = .ok (UInt32.ofNat n) :=
  if_pos (by omega)

theorem Reports.fits (h : Reports report f) : Fits f := by
  obtain ⟨input, output, cost, reqs, -, hinput, houtput, hreqs⟩ := h
  exact ⟨hinput ▸ input.toNat_lt, houtput ▸ output.toNat_lt, hreqs ▸ reqs.toNat_lt⟩

/-- What is reported is exact when it fits into 32 bits. -/
theorem reports_iff (f : UsageCounts) (cost : Double) :
    Reports (reportOf ⟨f, cost⟩) f ↔ Fits f := by
  constructor
  · exact Reports.fits
  · rintro ⟨hinput, houtput, hreqs⟩
    refine ⟨.ofNat f.inputTokens, .ofNat f.outputTokens, cost, .ofNat f.requestCount, ?_,
      UInt32.toNat_ofNat_of_lt hinput, UInt32.toNat_ofNat_of_lt houtput,
      UInt32.toNat_ofNat_of_lt hreqs⟩
    rw [reportOf, keptCount_eq_ok 0 hinput, keptCount_eq_ok 1 houtput, keptCount_eq_ok 3 hreqs]
    rfl

theorem getUsageToday_eq (a : Accounts) (now : Utc) (userId : String) :
    a.getUsageToday now userId = reportOf (a.spent ⟨userId, dayText now⟩) := by
  rw [getUsageToday, spent]
  split <;> rfl

theorem reports_global_iff (sumCosts : List Double → Double) (a : Accounts) (now : Utc) :
    Reports (a.getGlobalUsageToday sumCosts now) (a.dayTotal (dayText now)) ↔
      Fits (a.dayTotal (dayText now)) := by
  constructor
  · exact Reports.fits
  · intro hfits
    obtain ⟨hinput, houtput, hreqs⟩ := hfits
    rw [getGlobalUsageToday, if_pos ⟨by omega, by omega, by omega⟩]
    exact (reports_iff _ _).mpr ⟨hinput, houtput, hreqs⟩

end Reading

section Recording

variable {a a' : Accounts} {row : UsageRow} {added : UsageFigures}

/-- Adding to the figures of one row adds to the sum of the counts. -/
theorem sum_map_update {rows : List UsageRow} (hnodup : rows.Nodup) (hmem : row ∈ rows)
    (figures : UsageRow → UsageFigures) (added : UsageFigures) :
    ((rows.map (Function.update figures row (figures row + added))).map
        UsageFigures.toUsageCounts).sum =
      ((rows.map figures).map UsageFigures.toUsageCounts).sum + added.toUsageCounts := by
  have hrest : (rows.erase row).map (Function.update figures row (figures row + added)) =
      (rows.erase row).map figures := by
    rw [(hnodup.erase row).map_update, if_neg hnodup.not_mem_erase]
  have hsplit : ∀ f : UsageRow → UsageFigures, ((rows.map f).map UsageFigures.toUsageCounts).sum =
      (f row).toUsageCounts + (((rows.erase row).map f).map UsageFigures.toUsageCounts).sum := by
    intro f
    rw [List.map_map, List.map_map, ← List.sum_map_erase _ hmem]
    rfl
  have hsum : (figures row + added).toUsageCounts =
      (figures row).toUsageCounts + added.toUsageCounts := rfl
  rw [hsplit, hsplit figures, hrest, Function.update_self, hsum, add_right_comm]

/-- What is recorded for a row of a day adds to the total of the day and to no other. -/
theorem upsertUsage_dayTotal (h : a.upsertUsage row added = .ok a') (day : String) :
    a'.dayTotal day = a.dayTotal day + if row.day = day then added.toUsageCounts else 0 := by
  have hnodup : (a.tables.tokenUsage.rows.filter fun r => r.day = day).Nodup :=
    a.tables.tokenUsage.distinct.filter _
  rw [upsertUsage] at h
  split at h
  · cases h
  · split at h
    · next hthere =>
      split at h
      · cases h
      · cases h
        simp only [dayTotal, dayFigures]
        by_cases hday : row.day = day
        · have hmem : row ∈ a.tables.tokenUsage.rows.filter fun r => r.day = day :=
            List.mem_filter.mpr ⟨hthere, decide_eq_true hday⟩
          rw [if_pos hday]
          exact sum_map_update hnodup hmem a.figures added
        · have hmem : row ∉ a.tables.tokenUsage.rows.filter fun r => r.day = day :=
            fun hmem => hday (of_decide_eq_true (List.mem_filter.mp hmem).2)
          rw [if_neg hday, add_zero, hnodup.map_update, if_neg hmem]
    · next hnew =>
      cases hinsert : a.tables.insertUsage row with
      | error e =>
        rw [hinsert] at h
        cases h
      | ok tables =>
        rw [hinsert] at h
        cases h
        obtain ⟨htable, -⟩ := Tables.insertUsage_eq_ok hinsert
        have hmem : row ∉ a.tables.tokenUsage.rows.filter fun r => r.day = day :=
          fun hmem => hnew (List.mem_filter.mp hmem).1
        simp only [dayTotal, dayFigures]
        rw [(Sql.Table.insert_eq_some htable).2, List.filter_append, List.map_append,
          List.map_append, List.sum_append, hnodup.map_update, if_neg hmem, List.filter_singleton]
        by_cases hday : row.day = day
        · rw [decide_eq_true hday, if_pos hday, cond_true, List.map_singleton,
            Function.update_self, List.map_singleton, List.sum_singleton]
        · rw [decide_eq_false hday, if_neg hday, cond_false]
          rfl

theorem recordUsage_eq (a : Accounts) (c : UsageCall) :
    a.recordUsage c.now c.userId c.inputTokens c.outputTokens c.costUsd =
      a.upsertUsage c.row c.figures := rfl

/-- Calls of a kind, each with its counts. -/
theorem sum_filter_cons (p : UsageCall → Bool) (c : UsageCall) (calls : List UsageCall) :
    (((c :: calls).filter p).map UsageCall.counts).sum =
      (if p c = true then c.counts else 0) + ((calls.filter p).map UsageCall.counts).sum := by
  rw [List.filter_cons]
  split
  · rw [List.map_cons, List.sum_cons]
  · rw [zero_add]

/-- What the calls add up to: row by row, and day by day. -/
theorem recordAll_spent (a : Accounts) (calls : List UsageCall) (row : UsageRow) :
    ((a.recordAll calls).1.spent row).toUsageCounts = (a.spent row).toUsageCounts +
      (((a.recordAll calls).2.filter fun c => c.row = row).map UsageCall.counts).sum := by
  induction calls generalizing a with
  | nil => exact (add_zero _).symm
  | cons c calls ih =>
    rw [recordAll, recordUsage_eq]
    cases hupsert : a.upsertUsage c.row c.figures with
    | error e => exact ih a
    | ok a' =>
      dsimp only
      have hcounts : (a'.spent row).toUsageCounts =
          (a.spent row).toUsageCounts + if row = c.row then c.counts else 0 := by
        rw [(upsertUsage_eq_ok hupsert).2 row]
        split <;> rfl
      rw [ih a', hcounts, sum_filter_cons, add_assoc]
      simp only [decide_eq_true_eq, @eq_comm _ c.row row]

theorem recordAll_dayTotal (a : Accounts) (calls : List UsageCall) (day : String) :
    (a.recordAll calls).1.dayTotal day = a.dayTotal day +
      (((a.recordAll calls).2.filter fun c => c.row.day = day).map UsageCall.counts).sum := by
  induction calls generalizing a with
  | nil => exact (add_zero _).symm
  | cons c calls ih =>
    rw [recordAll, recordUsage_eq]
    cases hupsert : a.upsertUsage c.row c.figures with
    | error e => exact ih a
    | ok a' =>
      dsimp only
      rw [ih a', upsertUsage_dayTotal hupsert day, sum_filter_cons, add_assoc]
      simp only [decide_eq_true_eq]
      rfl

end Recording

section Totals

variable {figures figures' : List UsageCounts}

/-- A part of some counts adds up to no more than all of them. -/
theorem sum_le_of_sublist (h : figures.Sublist figures') :
    figures.sum.inputTokens ≤ figures'.sum.inputTokens ∧
      figures.sum.outputTokens ≤ figures'.sum.outputTokens ∧
      figures.sum.requestCount ≤ figures'.sum.requestCount := by
  induction h with
  | slnil => exact ⟨le_rfl, le_rfl, le_rfl⟩
  | cons f _ ih =>
    obtain ⟨hinput, houtput, hreqs⟩ := ih
    rw [List.sum_cons]
    exact ⟨Nat.le_add_left_of_le hinput, Nat.le_add_left_of_le houtput,
      Nat.le_add_left_of_le hreqs⟩
  | cons_cons f _ ih =>
    obtain ⟨hinput, houtput, hreqs⟩ := ih
    rw [List.sum_cons, List.sum_cons]
    exact ⟨Nat.add_le_add_left hinput _, Nat.add_le_add_left houtput _,
      Nat.add_le_add_left hreqs _⟩

/-- Where the total of a day fits, so does that of every user. -/
theorem Fits.ofUser {now : Utc} {calls : List UsageCall} (h : Fits (ofDay now calls))
    (userId : String) : Fits (ofUser now calls userId) := by
  have hsublist : (calls.filter fun c => c.row = ⟨userId, dayText now⟩).Sublist
      (calls.filter fun c => c.row.day = dayText now) := by
    apply List.monotone_filter_right
    intro c hc
    rw [decide_eq_true_eq] at hc ⊢
    rw [hc]
  obtain ⟨hinput, houtput, hreqs⟩ := sum_le_of_sublist (hsublist.map UsageCall.counts)
  exact ⟨hinput.trans_lt h.input, houtput.trans_lt h.output, hreqs.trans_lt h.requests⟩

end Totals

/-- On a day that began without usage the totals of every user and of all of them are exact
exactly when the total of the day fits into 32 bits. -/
theorem usage_totals_exact_iff {a : Accounts} {now : Utc} (hfresh : a.Fresh now)
    (sumCosts : List Double → Double) (calls : List UsageCall) :
    ((∀ userId, Reports ((a.recordAll calls).1.getUsageToday now userId)
        (ofUser now (a.recordAll calls).2 userId)) ∧
      Reports ((a.recordAll calls).1.getGlobalUsageToday sumCosts now)
        (ofDay now (a.recordAll calls).2)) ↔
      Fits (ofDay now (a.recordAll calls).2) := by
  have husers : ∀ userId, ((a.recordAll calls).1.spent ⟨userId, dayText now⟩).toUsageCounts =
      ofUser now (a.recordAll calls).2 userId := by
    intro userId
    rw [recordAll_spent, spent, if_neg fun hthere => hfresh _ hthere rfl, ofUser]
    exact zero_add _
  have hday : (a.recordAll calls).1.dayTotal (dayText now) =
      ofDay now (a.recordAll calls).2 := by
    have hnone : a.tables.tokenUsage.rows.filter (fun r => r.day = dayText now) = [] := by
      rw [List.filter_eq_nil_iff]
      intro r hr
      rw [decide_eq_true_eq]
      exact hfresh r hr
    rw [recordAll_dayTotal, dayTotal, dayFigures, hnone, List.map_nil, List.map_nil, List.sum_nil,
      zero_add, ofDay]
  have hglobal := reports_global_iff sumCosts (a.recordAll calls).1 now
  rw [hday] at hglobal
  rw [hglobal]
  constructor
  · exact And.right
  · intro hfits
    refine ⟨?_, hfits⟩
    intro userId
    have huser := hfits.ofUser userId
    rw [getUsageToday_eq]
    rw [← husers] at huser ⊢
    exact (reports_iff _ _).mpr huser

/-- A user who has not used anything yet. -/
def sampleAccounts : Accounts := ofTables (Tables.run Tables.sampleStoreTools Tables.sampleOps)

/-- Two calls whose input tokens are one more than 32 bits hold. -/
def sampleCalls : List UsageCall :=
  [⟨Tables.sampleNow, "u1", 4294967295, 10, 0⟩, ⟨Tables.sampleNow, "u1", 1, 20, 0⟩]

theorem sampleAccounts_fresh : sampleAccounts.Fresh Tables.sampleNow := by
  intro r hr
  cases hr

theorem usage_totals_sample :
    ((∀ userId,
        Reports ((sampleAccounts.recordAll sampleCalls).1.getUsageToday Tables.sampleNow userId)
          (ofUser Tables.sampleNow (sampleAccounts.recordAll sampleCalls).2 userId)) ∧
      Reports ((sampleAccounts.recordAll sampleCalls).1.getGlobalUsageToday
          (fun costs => costs.foldl (· + ·) 0) Tables.sampleNow)
        (ofDay Tables.sampleNow (sampleAccounts.recordAll sampleCalls).2)) ↔
      Fits (ofDay Tables.sampleNow (sampleAccounts.recordAll sampleCalls).2) :=
  usage_totals_exact_iff sampleAccounts_fresh _ sampleCalls

/-- The total of the two calls is reported as none at all. -/
theorem usage_total_wraps :
    ¬ ∀ (a : Accounts) (now : Utc) (calls : List UsageCall) (userId : String), a.Fresh now →
      Reports ((a.recordAll calls).1.getUsageToday now userId)
        (ofUser now (a.recordAll calls).2 userId) := by
  intro hall
  have hfits := hall sampleAccounts Tables.sampleNow sampleCalls "u1" sampleAccounts_fresh
  exact absurd hfits.fits.input (by decide +kernel)

end Accounts

end TokenDealer
