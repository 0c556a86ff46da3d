import Mathlib.Algebra.Order.BigOperators.Group.List
import Mathlib.Algebra.Order.Ring.Nat

set_option autoImplicit true

namespace Tally

variable [DecidableEq κ]

/-- The count of one key goes up by a weight. -/
def add (counts : κ → Nat) (key : κ) (weight : Nat) : κ → Nat :=
  fun k => if k = key then counts k + weight else counts k

def addAll (counts : κ → Nat) (entries : List (κ × Nat)) : κ → Nat :=
  entries.foldl (fun counts e => add counts e.1 e.2) counts

/-- One addition after the other, as long as the counts stay below a limit. -/
def addChecked (limit : Nat) : (κ → Nat) → List (κ × Nat) → Option (κ → Nat)
  | counts, [] => some counts
  | counts, (key, weight) :: rest =>
    if counts key + weight < limit then addChecked limit (add counts key weight) rest else none

/-- What the entries of a key weigh together. -/
def total (key : κ) (entries : List (κ × Nat)) : Nat :=
  ((entries.filter fun e => e.1 = key).map Prod.snd).sum

theorem total_append (key : κ) (front back : List (κ × Nat)) :
    total key (front ++ back) = total key front + total key back := by
  rw [total, List.filter_append, List.map_append, List.sum_append, total, total]

theorem total_cons (key : κ) (e : κ × Nat) (entries : List (κ × Nat)) :
    total key (e :: entries) = (if e.1 = key then e.2 else 0) + total key entries := by
  rw [total, List.filter_cons]
  by_cases hkey : e.1 = key
  · rw [if_pos (decide_eq_true hkey), if_pos hkey, List.map_cons, List.sum_cons, total]
  · rw [if_neg fun h => hkey (of_decide_eq_true h), if_neg hkey, Nat.zero_add, total]

/-- The first entry has been added. -/
theorem add_total (counts : κ → Nat) (key : κ) (e : κ × Nat) (entries : List (κ × Nat)) :
    add counts e.1 e.2 key + total key entries = counts key + total key (e :: entries) := by
  rw [total_cons, add]
  by_cases hkey : key = e.1
  · rw [if_pos hkey, if_pos hkey.symm, Nat.add_assoc]
  · rw [if_neg hkey, if_neg (Ne.symm hkey), Nat.zero_add]

/-- In the end the count of a key is higher by all that its entries weigh. -/
theorem addAll_apply (counts : κ → Nat) (entries : List (κ × Nat)) (key : κ) :
    addAll counts entries key = counts key + total key entries := by
  induction entries generalizing counts with
  | nil => rfl
  | cons e rest ih =>
    calc addAll counts (e :: rest) key
        = addAll (add counts e.1 e.2) rest key := rfl
      _ = add counts e.1 e.2 key + total key rest := ih _
      _ = counts key + total key (e :: rest) := add_total counts key e rest

theorem addAll_append (counts : κ → Nat) (front back : List (κ × Nat)) :
    addAll counts (front ++ back) = addAll (addAll counts front) back :=
  List.foldl_append

/-- Counts only grow, so when the last ones are below the limit all are. -/
theorem addChecked_of_fits {counts : κ → Nat} {entries : List (κ × Nat)}
    (h : ∀ key, counts key + total key entries < limit) :
    addChecked limit counts entries = some (addAll counts entries) := by
  induction entries generalizing counts with
  | nil => rfl
  | cons e rest ih =>
    have hnext : ∀ key, add counts e.1 e.2 key + total key rest < limit := by
      intro key
      rw [add_total]
      exact h key
    have hnow : counts e.1 + e.2 < limit := by
      have hself := Nat.lt_of_le_of_lt (Nat.le_add_right _ _) (hnext e.1)
      rwa [add, if_pos rfl] at hself
    rw [addChecked, if_pos hnow, ih hnext]
    rfl

theorem addChecked_append (counts : κ → Nat) (front back : List (κ × Nat)) :
    addChecked limit counts (front ++ back) =
      (addChecked limit counts front).bind fun counts => addChecked limit counts back := by
  induction front generalizing counts with
  | nil => rfl
  | cons e rest ih =>
    rw [List.cons_append, addChecked, addChecked]
    split
    · exact ih _
    · rfl

theorem fits_of_addChecked {counts : κ → Nat} {entries : List (κ × Nat)}
    (hcounts : ∀ key, counts key < limit) (h : addChecked limit counts entries = some final)
    (key : κ) : counts key + total key entries < limit := by
  induction entries generalizing counts with
  | nil => exact hcounts key
  | cons e rest ih =>
    rw [addChecked] at h
    split at h
    · next hnow =>
      rw [← add_total]
      apply ih _ h
      intro k
      rw [add]
      split
      · next hk => exact hk ▸ hnow
      · exact hcounts k
    · cases h

theorem total_eq_zero_iff {key : κ} {entries : List (κ × Nat)} :
    total key entries = 0 ↔ ∀ e ∈ entries, e.1 = key → e.2 = 0 := by
  simp only [total, List.sum_eq_zero_iff, List.mem_map, List.mem_filter, decide_eq_true_eq]
  constructor
  · intro h e he hkey
    exact h e.2 ⟨e, ⟨he, hkey⟩, rfl⟩
  · rintro h n ⟨e, ⟨he, hkey⟩, rfl⟩
    exact h e he hkey

theorem le_total {e : κ × Nat} {entries : List (κ × Nat)} (h : e ∈ entries) :
    e.2 ≤ total e.1 entries :=
  List.single_le_sum (fun _ _ => Nat.zero_le _) _
    (List.mem_map_of_mem (List.mem_filter.mpr ⟨h, decide_eq_true rfl⟩))

/-- Some of the entries weigh no more than all of them. -/
theorem total_le_of_sublist {some all : List (κ × Nat)} (h : some.Sublist all) (key : κ) :
    total key some ≤ total key all :=
  ((h.filter _).map _).sum_le_sum fun _ _ => Nat.zero_le _

theorem total_flatMap_le {some all : α → List (κ × Nat)} (h : ∀ a, (some a).Sublist (all a))
    (key : κ) (items : List α) :
    total key (items.flatMap some) ≤ total key (items.flatMap all) := by
  induction items with
  | nil => exact Nat.le_refl _
  | cons a rest ih =>
    rw [List.flatMap_cons, List.flatMap_cons, total_append, total_append]
    exact Nat.add_le_add (total_le_of_sublist (h a) key) ih

end Tally
