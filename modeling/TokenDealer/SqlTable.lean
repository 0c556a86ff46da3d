import Mathlib.Data.List.Pairwise
import Mathlib.Tactic.ByContra

set_option autoImplicit true

namespace Sql

inductive Value where
  | null
  | text (s : String)
  | integer (n : Int)
  deriving DecidableEq, Repr

inductive ColumnError where
  | invalidColumnIndex (i : Nat)
  | invalidColumnType (i : Nat)
  deriving DecidableEq, Repr

/-- A row as a statement returns it. -/
abbrev Row := List Value

def Value.ofOption : Option String → Value
  | some s => .text s
  | none => .null

namespace Row

def getText (row : Row) (i : Nat) : Except ColumnError String :=
  match row[i]? with
  | none => .error (.invalidColumnIndex i)
  | some (.text s) => .ok s
  | some _ => .error (.invalidColumnType i)

def getOptText (row : Row) (i : Nat) : Except ColumnError (Option String) :=
  match row[i]? with
  | none => .error (.invalidColumnIndex i)
  | some (.text s) => .ok (some s)
  | some .null => .ok none
  | some (.integer _) => .error (.invalidColumnType i)

def getInteger (row : Row) (i : Nat) : Except ColumnError Int :=
  match row[i]? with
  | none => .error (.invalidColumnIndex i)
  | some (.integer n) => .ok n
  | some _ => .error (.invalidColumnType i)

end Row

/-- Rows no two of which clash: what the uniqueness constraints of a table allow. -/
structure Table (ρ : Type) (clash : ρ → ρ → Prop) where
  rows : List ρ
  distinct : rows.Pairwise fun a b => ¬ clash a b

namespace Table

variable {ρ : Type} {clash : ρ → ρ → Prop} {t t' : Table ρ clash} {a b r : ρ}

def empty : Table ρ clash := ⟨[], .nil⟩

/-- A row that clashes with one that is there is refused. -/
def insert [DecidableRel clash] (t : Table ρ clash) (r : ρ) : Option (Table ρ clash) :=
  if h : ∀ a ∈ t.rows, ¬ clash a r then
    some ⟨t.rows ++ [r], List.pairwise_append.mpr
      ⟨t.distinct, List.pairwise_singleton _ _,
        fun a ha _ hb => List.mem_singleton.mp hb ▸ h a ha⟩⟩
  else none

def deleteWhere (t : Table ρ clash) (p : ρ → Bool) : Table ρ clash :=
  ⟨t.rows.filter fun a => !p a, t.distinct.filter _⟩

/-- Change rows one by one, in columns that make nothing clash. -/
def update (t : Table ρ clash) (f : ρ → ρ) (hf : ∀ a b, clash (f a) (f b) → clash a b) :
    Table ρ clash :=
  ⟨t.rows.map f, List.pairwise_map.mpr (t.distinct.imp fun h hclash => h (hf _ _ hclash))⟩

theorem mem_deleteWhere {p : ρ → Bool} :
    a ∈ (t.deleteWhere p).rows ↔ a ∈ t.rows ∧ p a = false := by
  rw [deleteWhere, List.mem_filter, Bool.not_eq_true']

theorem mem_update {f : ρ → ρ} {hf : ∀ a b, clash (f a) (f b) → clash a b} :
    b ∈ (t.update f hf).rows ↔ ∃ a ∈ t.rows, f a = b := List.mem_map

theorem insert_eq_some [DecidableRel clash] (h : t.insert r = some t') :
    (∀ a ∈ t.rows, ¬ clash a r) ∧ t'.rows = t.rows ++ [r] := by
  rw [insert] at h
  split at h
  · cases h
    exact ⟨‹_›, rfl⟩
  · cases h

theorem mem_insert [DecidableRel clash] (h : t.insert r = some t') :
    a ∈ t'.rows ↔ a ∈ t.rows ∨ a = r := by
  rw [(insert_eq_some h).2, List.mem_append, List.mem_singleton]

section

variable {P : ρ → Prop}

theorem exists_mem_insert [DecidableRel clash] (h : t.insert r = some t') :
    (∃ a ∈ t'.rows, P a) ↔ P r ∨ ∃ a ∈ t.rows, P a := by
  constructor
  · intro hthere
    obtain ⟨a, ha, hP⟩ := hthere
    rcases (mem_insert h).mp ha with hold | rfl
    · exact .inr ⟨a, hold, hP⟩
    · exact .inl hP
  · intro hthere
    rcases hthere with hP | ⟨a, ha, hP⟩
    · exact ⟨r, (mem_insert h).mpr (.inr rfl), hP⟩
    · exact ⟨a, (mem_insert h).mpr (.inl ha), hP⟩

/-- Where the deleted rows are all or none of those that are looked for. -/
theorem exists_mem_deleteWhere {p : ρ → Bool} {q : Prop} (hp : ∀ a, P a → (p a = true ↔ q)) :
    (∃ a ∈ (t.deleteWhere p).rows, P a) ↔ (∃ a ∈ t.rows, P a) ∧ ¬ q := by
  constructor
  · intro hleft
    obtain ⟨a, ha, hP⟩ := hleft
    obtain ⟨hold, hkept⟩ := mem_deleteWhere.mp ha
    refine ⟨⟨a, hold, hP⟩, ?_⟩
    intro hq
    rw [(hp a hP).mpr hq] at hkept
    cases hkept
  · intro hthere
    obtain ⟨⟨a, ha, hP⟩, hq⟩ := hthere
    have hkept : p a = false := Bool.eq_false_iff.mpr fun h => hq ((hp a hP).mp h)
    exact ⟨a, mem_deleteWhere.mpr ⟨ha, hkept⟩, hP⟩

end

/-- Two rows that clash are one. -/
theorem eq_of_clash [Std.Symm clash] (ha : a ∈ t.rows) (hb : b ∈ t.rows) (h : clash a b) :
    a = b := by
  have hsymm : Std.Symm fun a b => ¬ clash a b := ⟨fun _ _ hab hba => hab (symm hba)⟩
  by_contra hne
  exact t.distinct.forall ha hb hne h

end Table

/-- A table with a primary key. -/
structure KeyTable {ρ κ : Type} (key : ρ → κ) where
  table : Table ρ fun a b => key a = key b

namespace KeyTable

variable {ρ κ : Type} {key : ρ → κ} [DecidableEq κ] {t : KeyTable key} {r : ρ} {k : κ}

def empty : KeyTable key := ⟨.empty⟩

def find (t : KeyTable key) (k : κ) : Option ρ := t.table.rows.find? fun r => key r = k

/-- Add a row, or put it in the place of the row with its key. -/
def upsert (t : KeyTable key) (r : ρ) : KeyTable key :=
  match t.table.insert r with
  | some table => ⟨table⟩
  | none =>
    ⟨t.table.update (fun a => if key a = key r then r else a) (by
      intro a b h
      split at h <;> split at h
      · exact Eq.trans ‹_› (Eq.symm ‹_›)
      · exact Eq.trans ‹_› h
      · exact Eq.trans h (Eq.symm ‹_›)
      · exact h)⟩

theorem find?_cons_of_eq (h : key a = k) (rows : List ρ) :
    (a :: rows).find? (fun r => key r = k) = some a :=
  List.find?_cons_of_pos (p := fun r => key r = k) (decide_eq_true h)

theorem find?_cons_of_ne (h : key a ≠ k) (rows : List ρ) :
    (a :: rows).find? (fun r => key r = k) = rows.find? fun r => key r = k :=
  List.find?_cons_of_neg (p := fun r => key r = k) (by rwa [decide_eq_true_eq])

theorem find?_map_replace (rows : List ρ) (r : ρ) (k : κ) :
    (rows.map fun a => if key a = key r then r else a).find? (fun a => key a = k) =
      if key r = k then (rows.find? fun a => key a = k).map fun _ => r
      else rows.find? fun a => key a = k := by
  induction rows with
  | nil =>
    by_cases hk : key r = k
    · rw [if_pos hk]
      rfl
    · rw [if_neg hk]
      rfl
  | cons a rows ih =>
    rw [List.map_cons]
    by_cases ha : key a = key r
    · rw [if_pos ha]
      by_cases hk : key r = k
      · rw [if_pos hk, find?_cons_of_eq hk, find?_cons_of_eq (ha.trans hk), Option.map_some]
      · have hak : key a ≠ k := fun h => hk (ha.symm.trans h)
        rw [if_neg hk] at ih ⊢
        rw [find?_cons_of_ne hk, ih, find?_cons_of_ne hak]
    · rw [if_neg ha]
      by_cases hak : key a = k
      · have hk : key r ≠ k := fun h => ha (hak.trans h.symm)
        rw [if_neg hk, find?_cons_of_eq hak, find?_cons_of_eq hak]
      · rw [find?_cons_of_ne hak, ih, find?_cons_of_ne hak]

/-- A row is found under its key when it was the last one put there. -/
theorem find_upsert (t : KeyTable key) (r : ρ) (k : κ) :
    (t.upsert r).find k = if key r = k then some r else t.find k := by
  rw [upsert]
  split
  · rename_i table hinsert
    obtain ⟨hnew, hrows⟩ := Table.insert_eq_some hinsert
    rw [find, find, hrows, List.find?_append]
    by_cases hk : key r = k
    · have hnone : t.table.rows.find? (fun a => key a = k) = none := by
        rw [List.find?_eq_none]
        intro a ha
        rw [decide_eq_true_eq]
        exact fun h => hnew a ha (h.trans hk.symm)
      rw [hnone, if_pos hk, Option.none_or, find?_cons_of_eq hk]
    · rw [if_neg hk, find?_cons_of_ne hk, List.find?_nil, Option.or_none]
  · rename_i hinsert
    have hthere : ∃ a ∈ t.table.rows, key a = key r := by
      rw [Table.insert] at hinsert
      split at hinsert
      · cases hinsert
      · by_contra hnone
        exact absurd (fun a ha h => hnone ⟨a, ha, h⟩) ‹_›
    obtain ⟨a, ha, hak⟩ := hthere
    rw [find, find, Table.update, find?_map_replace]
    by_cases hk : key r = k
    · have hfound : (t.table.rows.find? fun a => key a = k).isSome := by
        rw [List.find?_isSome]
        exact ⟨a, ha, decide_eq_true (hak.trans hk)⟩
      obtain ⟨b, hb⟩ := Option.isSome_iff_exists.mp hfound
      rw [if_pos hk, if_pos hk, hb, Option.map_some]
    · rw [if_neg hk, if_neg hk]

end KeyTable

/-- The pairs of rows of two tables that a condition joins. -/
def join (left : List ρ) (right : List σ) (joins : ρ → σ → Bool) : List (ρ × σ) :=
  left.flatMap fun a => (right.filter (joins a)).map fun b => (a, b)

theorem mem_join : p ∈ join left right joins ↔
    p.1 ∈ left ∧ p.2 ∈ right ∧ joins p.1 p.2 = true := by
  obtain ⟨a, b⟩ := p
  rw [join, List.mem_flatMap]
  constructor
  · intro h
    obtain ⟨a', ha', hab⟩ := h
    obtain ⟨b', hb', hpair⟩ := List.mem_map.mp hab
    cases hpair
    exact ⟨ha', List.mem_filter.mp hb'⟩
  · intro h
    obtain ⟨ha, hb⟩ := h
    exact ⟨a, ha, List.mem_map.mpr ⟨b, List.mem_filter.mpr hb, rfl⟩⟩

/-- Where there is one row at most, the first row is any row. -/
theorem head?_eq_some_iff {rows : List ρ} (hone : ∀ a ∈ rows, ∀ b ∈ rows, a = b) :
    rows.head? = some a ↔ a ∈ rows := by
  constructor
  · exact List.mem_of_mem_head?
  · intro ha
    cases rows with
    | nil => exact absurd ha List.not_mem_nil
    | cons b rest =>
      rw [List.head?_cons, hone b List.mem_cons_self a ha]

end Sql
