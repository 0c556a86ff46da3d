import Mathlib.Data.List.Nodup
import Mathlib.Data.List.Perm.Basic

set_option autoImplicit true

namespace Outbox

/-- What a table holds and what is queued for it are what it held at first and the rows of all that
was done, in some order. -/
def Conserved (row : τ → Option ρ) (rows : α → List ρ) (start table : List ρ) (queue : List τ)
    (done : List α) : Prop :=
  (table ++ queue.filterMap row).Perm (start ++ done.flatMap rows)

variable {row : τ → Option ρ} {rows : α → List ρ} {start table table' : List ρ}
  {queue tasks : List τ} {done : List α}

/-- What is taken out of a list and the rest make up the list. -/
theorem cons_eraseIdx_perm {l : List α} (h : l[i]? = some a) : (a :: l.eraseIdx i).Perm l := by
  obtain ⟨hi, rfl⟩ := List.getElem?_eq_some_iff.mp h
  exact List.getElem_cons_eraseIdx_perm hi

theorem conserved_start (row : τ → Option ρ) (rows : α → List ρ) (start : List ρ) :
    Conserved row rows start start [] [] := .refl _

variable [DecidableEq κ] {key : α → κ} {tag : ρ → κ} {a : α}

/-- Where what is done has distinct keys, rows are told apart by them. -/
theorem filter_flatMap (hdistinct : (done.map key).Nodup)
    (htag : ∀ b ∈ done, ∀ r ∈ rows b, tag r = key b) (ha : a ∈ done) :
    (done.flatMap rows).filter (fun r => tag r = key a) = rows a := by
  induction done with
  | nil => exact absurd ha List.not_mem_nil
  | cons b done ih =>
    rw [List.map_cons, List.nodup_cons] at hdistinct
    obtain ⟨hb, hdone⟩ := hdistinct
    obtain ⟨hfirst, hrest⟩ := List.forall_mem_cons.mp htag
    rw [List.flatMap_cons, List.filter_append]
    by_cases hkey : key b = key a
    · have hothers : ∀ r ∈ done.flatMap rows, ¬ decide (tag r = key a) = true := by
        intro r hr
        obtain ⟨c, hc, hrc⟩ := List.mem_flatMap.mp hr
        rw [decide_eq_true_eq, ← hkey, hrest c hc r hrc]
        intro hcb
        exact hb (hcb ▸ List.mem_map_of_mem hc)
      have hown : ∀ r ∈ rows b, decide (tag r = key a) = true := by
        intro r hr
        rw [decide_eq_true_eq, hfirst r hr, hkey]
      have hab : a = b := by
        rcases List.mem_cons.mp ha with hab | hmem
        · exact hab
        · exact absurd (hkey ▸ List.mem_map_of_mem hmem) hb
      rw [List.filter_eq_self.mpr hown, List.filter_eq_nil_iff.mpr hothers, List.append_nil, hab]
    · have hmem : a ∈ done :=
        (List.mem_cons.mp ha).resolve_left fun hab => hkey (congrArg key hab.symm)
      have hnone : ∀ r ∈ rows b, ¬ decide (tag r = key a) = true := by
        intro r hr
        rwa [decide_eq_true_eq, hfirst r hr]
      rw [List.filter_eq_nil_iff.mpr hnone, List.nil_append]
      exact ih hdone hrest hmem

namespace Conserved

/-- The rows of what is done now are queued. -/
theorem enqueue (h : Conserved row rows start table queue done)
    (htasks : tasks.filterMap row = rows a) :
    Conserved row rows start table (queue ++ tasks) (done ++ [a]) := by
  rw [Conserved, List.filterMap_append, List.flatMap_append, List.flatMap_singleton, htasks,
    ← List.append_assoc, ← List.append_assoc]
  exact h.append_right _

/-- What has no rows leaves the queue as it was. -/
theorem skip (h : Conserved row rows start table queue done) (ha : rows a = []) :
    Conserved row rows start table queue (done ++ [a]) := by
  rw [Conserved, List.flatMap_append, List.flatMap_singleton, ha, List.append_nil]
  exact h

/-- A row that is put down now leaves the queue. -/
theorem deliver (h : Conserved row rows start table queue done) (ht : queue[i]? = some t)
    (htable : table' = table ++ (row t).toList) :
    Conserved row rows start table' (queue.eraseIdx i) done := by
  refine List.Perm.trans ?_ h
  have hrows : ((row t).toList ++ (queue.eraseIdx i).filterMap row).Perm
      (queue.filterMap row) := by
    have hperm := (cons_eraseIdx_perm ht).filterMap row
    rw [List.filterMap_cons] at hperm
    cases hrow : row t with
    | none => rwa [hrow] at hperm
    | some r => rwa [hrow] at hperm
  rw [htable, List.append_assoc]
  exact hrows.append_left table

/-- Once nothing of it is queued any more, the table holds the rows of what was done and no others
with its key. -/
theorem filter_table (h : Conserved row rows start table queue done)
    (hdistinct : (done.map key).Nodup) (htag : ∀ b ∈ done, ∀ r ∈ rows b, tag r = key b)
    (hstart : ∀ r ∈ start, tag r ≠ key a) (hqueue : ∀ r ∈ queue.filterMap row, tag r ≠ key a)
    (ha : a ∈ done) : (table.filter fun r => tag r = key a).Perm (rows a) := by
  have hfiltered := h.filter fun r => tag r = key a
  have hnotQueued : (queue.filterMap row).filter (fun r => tag r = key a) = [] := by
    rw [List.filter_eq_nil_iff]
    intro r hr
    rw [decide_eq_true_eq]
    exact hqueue r hr
  have hnotStart : start.filter (fun r => tag r = key a) = [] := by
    rw [List.filter_eq_nil_iff]
    intro r hr
    rw [decide_eq_true_eq]
    exact hstart r hr
  rwa [List.filter_append, List.filter_append, hnotQueued, hnotStart, List.append_nil,
    List.nil_append, filter_flatMap hdistinct htag ha] at hfiltered

end Conserved

end Outbox
