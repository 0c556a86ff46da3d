import Mathlib.Logic.Function.Basic
import TokenDealer.Double
import TokenDealer.UserTables

set_option autoImplicit true

namespace TokenDealer

/-- The columns of a usage row that count. -/
@[ext]
structure UsageCounts where
  inputTokens : Nat := 0
  outputTokens : Nat := 0
  requestCount : Nat := 0
  deriving DecidableEq, Repr

namespace UsageCounts

def add (a b : UsageCounts) : UsageCounts where
  inputTokens := a.inputTokens + b.inputTokens
  outputTokens := a.outputTokens + b.outputTokens
  requestCount := a.requestCount + b.requestCount

instance : Add UsageCounts := ⟨add⟩

instance : Zero UsageCounts := ⟨{}⟩

theorem add_comm' (a b : UsageCounts) : a + b = b + a :=
  UsageCounts.ext (Nat.add_comm _ _) (Nat.add_comm _ _) (Nat.add_comm _ _)

theorem zero_add' (a : UsageCounts) : 0 + a = a :=
  UsageCounts.ext (Nat.zero_add _) (Nat.zero_add _) (Nat.zero_add _)

instance : AddCommMonoid UsageCounts where
  add_assoc _ _ _ :=
    UsageCounts.ext (Nat.add_assoc _ _ _) (Nat.add_assoc _ _ _) (Nat.add_assoc _ _ _)
  zero_add := zero_add'
  add_zero a := by rw [add_comm', zero_add']
  add_comm := add_comm'
  nsmul := nsmulRec

end UsageCounts

/-- The figures of a usage row. The sum of two costs is rounded. -/
structure UsageFigures extends UsageCounts where
  costUsd : Double := 0
  deriving DecidableEq, Repr

namespace UsageFigures

def add (a b : UsageFigures) : UsageFigures where
  toUsageCounts := a.toUsageCounts + b.toUsageCounts
  costUsd := a.costUsd + b.costUsd

instance : Add UsageFigures := ⟨add⟩

instance : Zero UsageFigures := ⟨{}⟩

@[simp] theorem add_costUsd (a b : UsageFigures) : (a + b).costUsd = a.costUsd + b.costUsd := rfl

theorem ext_counts {a b : UsageFigures} (hcounts : a.toUsageCounts = b.toUsageCounts)
    (hcost : a.costUsd = b.costUsd) : a = b := by
  cases a
  cases b
  cases hcounts
  cases hcost
  rfl

instance : AddZeroClass UsageFigures where
  zero_add a := ext_counts (zero_add a.toUsageCounts) (Double.zero_add a.costUsd)
  add_zero a := ext_counts (add_zero a.toUsageCounts) (Double.add_zero a.costUsd)

/-- One after the other the counts add up. -/
theorem foldl_counts (start : UsageFigures) (figures : List UsageFigures) :
    (figures.foldl (· + ·) start).toUsageCounts =
      start.toUsageCounts + (figures.map toUsageCounts).sum := by
  induction figures generalizing start with
  | nil => exact (add_zero _).symm
  | cons f figures ih =>
    rw [List.foldl_cons, ih, List.map_cons, List.sum_cons, ← add_assoc]
    rfl

/-- The costs are added in the same order. -/
theorem foldl_costUsd (start : UsageFigures) (figures : List UsageFigures) :
    (figures.foldl (· + ·) start).costUsd = (figures.map costUsd).foldl (· + ·) start.costUsd := by
  induction figures generalizing start with
  | nil => rfl
  | cons f figures ih =>
    rw [List.foldl_cons, ih, List.map_cons, List.foldl_cons]
    rfl

end UsageFigures

/-- A new usage row needs its user. -/
def Tables.insertUsage (t : Tables) (row : UsageRow) : Except StoreError Tables :=
  match h : t.tokenUsage.insert row with
  | none => .error .unique
  | some tokenUsage =>
    if howner : ∃ u ∈ t.users.rows, u.id = row.userId then
      .ok { t with
        tokenUsage := tokenUsage
        tokenUsage_user := fun r hr =>
          ((Sql.Table.mem_insert h).mp hr).elim (t.tokenUsage_user r) fun heq => heq ▸ howner }
    else .error .foreignKey

theorem Tables.insertUsage_eq_ok {t t' : Tables} (h : t.insertUsage row = .ok t') :
    t.tokenUsage.insert row = some t'.tokenUsage ∧ t'.users = t.users ∧
      ∃ u ∈ t.users.rows, u.id = row.userId := by
  rw [insertUsage] at h
  split at h
  · cases h
  · split at h
    · cases h
      exact ⟨‹_›, rfl, ‹_›⟩
    · cases h

/-- The tables of the users with the figures of the usage rows. A cost is never null. -/
structure Accounts where
  tables : Tables
  figures : UsageRow → UsageFigures
  cost_ne_nan : ∀ r, (figures r).costUsd ≠ .nan

namespace Accounts

def ofTables (tables : Tables) : Accounts := ⟨tables, fun _ => {}, fun _ => Double.ofRat_ne_nan _⟩

def nullCost : StoreError := .message "NOT NULL constraint failed: token_usage.cost_usd"

theorem update_ne_nan {figures : UsageRow → UsageFigures} (h : ∀ r, (figures r).costUsd ≠ .nan)
    (hnew : new.costUsd ≠ .nan) (row r : UsageRow) :
    (Function.update figures row new r).costUsd ≠ .nan := by
  by_cases hr : r = row
  · rw [hr, Function.update_self]
    exact hnew
  · rw [Function.update_of_ne hr]
    exact h r

/-- Add to a row, or insert it when it is not there. -/
def upsertUsage (a : Accounts) (row : UsageRow) (added : UsageFigures) :
    Except StoreError Accounts :=
  if hadded : added.costUsd = .nan then .error nullCost
  else if row ∈ a.tables.tokenUsage.rows then
    if hsum : (a.figures row + added).costUsd = .nan then .error nullCost
    else
      .ok ⟨a.tables, Function.update a.figures row (a.figures row + added),
        update_ne_nan a.cost_ne_nan hsum row⟩
  else
    match a.tables.insertUsage row with
    | .error e => .error e
    | .ok tables =>
      .ok ⟨tables, Function.update a.figures row added, update_ne_nan a.cost_ne_nan hadded row⟩

/-- The day of an instant, as the rows have it. -/
def dayText (now : Utc) : String := String.ofList (Calendar.dateText (Calendar.dayOf now))

def recordUsage (a : Accounts) (now : Utc) (userId : String) (inputTokens outputTokens : UInt32)
    (costUsd : Double) : Except StoreError Accounts :=
  a.upsertUsage ⟨userId, dayText now⟩
    { inputTokens := inputTokens.toNat
      outputTokens := outputTokens.toNat
      costUsd := costUsd
      requestCount := 1 }

/-- The figures of a row, all zero when it is not there. -/
def spent (a : Accounts) (row : UsageRow) : UsageFigures :=
  if row ∈ a.tables.tokenUsage.rows then a.figures row else 0

/-- The row that the spend of a caller is looked up in. -/
def budgetRow (now : Utc) (userId : Option String) : UsageRow := ⟨userId.getD "", dayText now⟩

def dailySpend (a : Accounts) (now : Utc) (userId : Option String) : Double :=
  (a.spent (budgetRow now userId)).costUsd

section Spec

variable {a a' : Accounts} {row : UsageRow} {added : UsageFigures}

/-- What is added to a row is added to its figures and to no others. -/
theorem upsertUsage_eq_ok (h : a.upsertUsage row added = .ok a') :
    a'.tables.users = a.tables.users ∧
      ∀ r, a'.spent r = a.spent r + if r = row then added else 0 := by
  rw [upsertUsage] at h
  split at h
  · cases h
  · split at h
    · rename_i hthere
      split at h
      · cases h
      · cases h
        refine ⟨rfl, ?_⟩
        intro r
        by_cases hr : r = row
        · subst hr
          simp only [spent, if_pos hthere, Function.update_self, if_true]
        · simp only [spent, Function.update_of_ne hr, if_neg hr, add_zero]
    · rename_i hnew
      cases hinsert : a.tables.insertUsage row with
      | error e =>
        rw [hinsert] at h
        cases h
      | ok tables =>
        rw [hinsert] at h
        cases h
        obtain ⟨htable, husers, -⟩ := Tables.insertUsage_eq_ok hinsert
        refine ⟨husers, ?_⟩
        intro r
        by_cases hr : r = row
        · subst hr
          have hthere : r ∈ tables.tokenUsage.rows := (Sql.Table.mem_insert htable).mpr (.inr rfl)
          simp only [spent, if_pos hthere, if_neg hnew, Function.update_self, if_true, zero_add]
        · have hsame : r ∈ tables.tokenUsage.rows ↔ r ∈ a.tables.tokenUsage.rows := by
            rw [Sql.Table.mem_insert htable, or_iff_left hr]
          simp only [spent, hsame, Function.update_of_ne hr, if_neg hr, add_zero]

/-- Usage of a user who is there is recorded, at a cost that is finite. -/
theorem upsertUsage_isOk (huser : ∃ u ∈ a.tables.users.rows, u.id = row.userId)
    (hcost : added.costUsd.isFinite = true) : ∃ a', a.upsertUsage row added = .ok a' := by
  have hadded : added.costUsd ≠ .nan := by
    intro hnan
    rw [hnan] at hcost
    cases hcost
  rw [upsertUsage, dif_neg hadded]
  by_cases hthere : row ∈ a.tables.tokenUsage.rows
  · have hsum : (a.figures row + added).costUsd ≠ .nan := by
      rw [UsageFigures.add_costUsd]
      exact Double.add_finite_ne_nan (a.cost_ne_nan row) hcost
    rw [if_pos hthere, dif_neg hsum]
    exact ⟨_, rfl⟩
  · have hinsert : ∃ tables, a.tables.insertUsage row = .ok tables := by
      rw [Tables.insertUsage]
      split
      · rename_i hclash
        have hfree : ∀ r ∈ a.tables.tokenUsage.rows, ¬ r = row :=
          fun r hr heq => hthere (heq ▸ hr)
        rw [Sql.Table.insert, dif_pos hfree] at hclash
        cases hclash
      · rw [dif_pos huser]
        exact ⟨_, rfl⟩
    obtain ⟨tables, htables⟩ := hinsert
    rw [if_neg hthere, htables]
    exact ⟨_, rfl⟩

/-- No usage is recorded but of a user who is there. -/
theorem upsertUsage_user (h : a.upsertUsage row added = .ok a') :
    ∃ u ∈ a.tables.users.rows, u.id = row.userId := by
  by_cases hthere : row ∈ a.tables.tokenUsage.rows
  · exact a.tables.tokenUsage_user row hthere
  · rw [upsertUsage] at h
    split at h
    · cases h
    · cases hinsert : a.tables.insertUsage row with
      | error e =>
        rw [hinsert] at h
        cases h
      | ok tables => exact (Tables.insertUsage_eq_ok hinsert).2.2

theorem spent_ne_nan (a : Accounts) (row : UsageRow) : (a.spent row).costUsd ≠ .nan := by
  rw [spent]
  split
  · exact a.cost_ne_nan row
  · exact Double.ofRat_ne_nan _

end Spec

end Accounts

end TokenDealer
