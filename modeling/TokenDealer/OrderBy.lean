import Mathlib.Data.List.Pairwise
import Mathlib.Tactic.ByContra

set_option autoImplicit true

namespace OrderBy

section

variable {α : Type} {le : α → α → Bool} {rows scan : List α} {k : Nat}

/-- An order that compares any two, of which several may come at the same place. -/
structure IsRanking (le : α → α → Bool) : Prop where
  trans : ∀ a b c, le a b = true → le b c = true → le a c = true
  total : ∀ a b, (le a b || le b a) = true

theorem isRanking_key (key : α → Nat) : IsRanking fun a b => decide (key a ≤ key b) where
  trans _ _ _ hab hbc :=
    decide_eq_true (Nat.le_trans (of_decide_eq_true hab) (of_decide_eq_true hbc))
  total a b := by
    rw [Bool.or_eq_true, decide_eq_true_eq, decide_eq_true_eq]
    exact Nat.le_total (key a) (key b)

/-- What comes first of some rows, so many at most and each as often as it is there. -/
structure IsWindow (le : α → α → Bool) (k : Nat) (rows listed : List α) : Prop where
  ordered : listed.Pairwise fun a b => le a b = true
  count : listed.length = min k rows.length
  first : ∃ rest, (listed ++ rest).Perm rows ∧ ∀ a ∈ listed, ∀ b ∈ rest, le a b = true

/-- A sort and a limit give it, in whatever order the rows are scanned. -/
theorem isWindow_take (h : IsRanking le) (k : Nat) (hscan : scan.Perm rows) :
    IsWindow le k rows ((scan.mergeSort le).take k) := by
  have hsorted := List.pairwise_mergeSort h.trans h.total scan
  have hperm : (scan.mergeSort le).Perm rows := (List.mergeSort_perm scan le).trans hscan
  rw [← List.take_append_drop k (scan.mergeSort le), List.pairwise_append] at hsorted
  obtain ⟨hfront, -, hacross⟩ := hsorted
  refine ⟨hfront, ?_, (scan.mergeSort le).drop k, ?_, hacross⟩
  · rw [List.length_take, hperm.length_eq]
  · rw [List.take_append_drop]
    exact hperm

namespace IsWindow

variable {listed : List α}

theorem mem (h : IsWindow le k rows listed) (ha : a ∈ listed) : a ∈ rows := by
  obtain ⟨rest, hperm, -⟩ := h.first
  exact hperm.mem_iff.mp (List.mem_append_left rest ha)

theorem nodup (h : IsWindow le k rows listed) (hrows : rows.Nodup) : listed.Nodup := by
  obtain ⟨rest, hperm, -⟩ := h.first
  exact (List.nodup_append.mp (hperm.nodup_iff.mpr hrows)).1

/-- What is left out comes behind everything that is listed. -/
theorem behind (h : IsWindow le k rows listed) (ha : a ∈ listed) (hb : b ∈ rows)
    (hout : b ∉ listed) : le a b = true := by
  obtain ⟨rest, hperm, hfirst⟩ := h.first
  rcases List.mem_append.mp (hperm.mem_iff.mpr hb) with hin | hrest
  · exact absurd hin hout
  · exact hfirst a ha b hrest

end IsWindow

/-- Two that come at the same place stay in the order in which they are scanned. -/
theorem mergeSort_tie (h : IsRanking le) (ha : a ∈ rows) (hb : b ∈ rows)
    (hne : a ≠ b) (hab : le a b = true) :
    ∃ scan : List α, scan.Perm rows ∧ [a, b].Sublist (scan.mergeSort le) := by
  classical
  have hb' : b ∈ rows.erase a := (List.mem_erase_of_ne hne.symm).mpr hb
  refine ⟨a :: b :: (rows.erase a).erase b, ?_, ?_⟩
  · exact ((List.perm_cons_erase hb').symm.cons a).trans (List.perm_cons_erase ha).symm
  · have hfront : [a, b].Sublist (a :: b :: (rows.erase a).erase b) :=
      ((List.nil_sublist _).cons_cons b).cons_cons a
    exact List.pair_sublist_mergeSort h.trans h.total hab hfront

/-- Of two that are in a list once each, only one comes before the other. -/
theorem not_sublist_swap {xs : List α} (hnodup : xs.Nodup) (hfront : [a, b].Sublist xs) :
    ¬ [b, a].Sublist xs := by
  induction xs with
  | nil => cases hfront
  | cons x xs ih =>
    obtain ⟨hx, hxs⟩ := List.nodup_cons.mp hnodup
    intro hback
    cases hfront with
    | cons _ hfront =>
      cases hback with
      | cons _ hback => exact ih hxs hfront hback
      | cons_cons _ hback => exact hx (hfront.subset (List.mem_cons_of_mem _ List.mem_cons_self))
    | cons_cons _ hfront =>
      cases hback with
      | cons _ hback => exact hx (hback.subset (List.mem_cons_of_mem _ List.mem_cons_self))
      | cons_cons _ hback => exact hx (hback.subset List.mem_cons_self)

/-- The order in which rows are scanned leaves no trace in a sort exactly if no two of them come at
the same place. -/
theorem mergeSort_settled_iff (h : IsRanking le) (hnodup : rows.Nodup) :
    (∀ scan : List α, scan.Perm rows → scan.mergeSort le = rows.mergeSort le) ↔
      ∀ a ∈ rows, ∀ b ∈ rows, le a b = true → le b a = true → a = b := by
  constructor
  · intro hsame a ha b hb hab hba
    by_contra hne
    obtain ⟨scan, hscan, hfront⟩ := mergeSort_tie h ha hb hne hab
    obtain ⟨scan', hscan', hback⟩ := mergeSort_tie h hb ha (Ne.symm hne) hba
    rw [hsame scan hscan] at hfront
    rw [hsame scan' hscan'] at hback
    have hnodup_sorted : (rows.mergeSort le).Nodup :=
      (List.mergeSort_perm rows le).nodup_iff.mpr hnodup
    exact not_sublist_swap hnodup_sorted hfront hback
  · intro hanti scan hscan
    have hperm := (List.mergeSort_perm scan le).trans
      (hscan.trans (List.mergeSort_perm rows le).symm)
    refine hperm.eq_of_pairwise ?_ (List.pairwise_mergeSort h.trans h.total scan)
      (List.pairwise_mergeSort h.trans h.total rows)
    intro a b ha hb
    exact hanti a (hscan.mem_iff.mp (List.mem_mergeSort.mp ha)) b (List.mem_mergeSort.mp hb)

end

end OrderBy
