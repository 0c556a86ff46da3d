import Mathlib.Data.List.Dedup
import Mathlib.Data.List.MinMax
import Mathlib.Logic.Function.Basic

set_option autoImplicit true

namespace Grouping

section FirstMinimum

variable [LinearOrder β] {f : α → β}

theorem argmin_append {front back : List α} {m : α} (hfront : ∀ a ∈ front, f m < f a)
    (hback : ∀ a ∈ back, f m ≤ f a) : (front ++ m :: back).argmin f = some m := by
  induction front with
  | nil =>
    rw [List.nil_append, List.argmin_cons]
    cases hmin : back.argmin f with
    | none => rfl
    | some c => exact if_neg (not_lt.mpr (hback c (List.argmin_mem hmin)))
  | cons x front ih =>
    obtain ⟨hx, hrest⟩ := List.forall_mem_cons.mp hfront
    rw [List.cons_append, List.argmin_cons, ih hrest]
    exact if_pos hx

/-- The least element that a search finds: nothing before it is as low, and nothing after it is
lower. -/
theorem argmin_eq_some_iff_append {l : List α} {m : α} :
    l.argmin f = some m ↔ ∃ front back, l = front ++ m :: back ∧ (∀ a ∈ front, f m < f a) ∧
      ∀ a ∈ back, f m ≤ f a := by
  constructor
  · intro hmin
    induction l with
    | nil => cases hmin
    | cons x l ih =>
      rw [List.argmin_cons] at hmin
      cases hrest : l.argmin f with
      | none =>
        rw [hrest] at hmin
        cases hmin
        rw [List.argmin_eq_none.mp hrest]
        exact ⟨[], [], rfl, nofun, nofun⟩
      | some c =>
        rw [hrest] at hmin
        dsimp only at hmin
        by_cases hlt : f c < f x
        · rw [if_pos hlt] at hmin
          cases hmin
          obtain ⟨front, back, rfl, hfront, hback⟩ := ih hrest
          exact ⟨x :: front, back, rfl, List.forall_mem_cons.mpr ⟨hlt, hfront⟩, hback⟩
        · rw [if_neg hlt] at hmin
          cases hmin
          refine ⟨[], l, rfl, nofun, ?_⟩
          intro a ha
          exact (not_lt.mp hlt).trans (List.le_of_mem_argmin ha hrest)
  · rintro ⟨front, back, rfl, hfront, hback⟩
    exact argmin_append hfront hback

end FirstMinimum

variable [DecidableEq κ]

/-- The values of each key, in the order in which they come. -/
def group (items : List (κ × β)) : κ → Option (List β) :=
  items.foldl (fun map x => Function.update map x.1 (some ((map x.1).getD [] ++ [x.2])))
    fun _ => none

/-- The entries of a map in some order. -/
structure Iterates (map : κ → Option (List β)) (entries : List (κ × List β)) : Prop where
  nodup : (entries.map Prod.fst).Nodup
  mem : ∀ k values, (k, values) ∈ entries ↔ map k = some values

/-- The values of one entry after the other, each with its key. -/
def flatten (entries : List (κ × List β)) : List (κ × β) :=
  entries.flatMap fun e => e.2.map fun v => (e.1, v)

variable {items : List (κ × β)} {entries : List (κ × List β)} {k : κ}

theorem group_concat (items : List (κ × β)) (x : κ × β) :
    group (items ++ [x]) =
      Function.update (group items) x.1 (some ((group items x.1).getD [] ++ [x.2])) := by
  rw [group, List.foldl_concat]
  rfl

theorem group_eq (items : List (κ × β)) (k : κ) :
    group items k =
      if k ∈ items.map Prod.fst then some ((items.filter fun x => x.1 = k).map Prod.snd)
      else none := by
  induction items using List.reverseRecOn with
  | nil => rfl
  | append_singleton items x ih =>
    rw [group_concat]
    by_cases hk : k = x.1
    · subst hk
      rw [Function.update_self, ih]
      by_cases hmem : x.1 ∈ items.map Prod.fst
      · rw [if_pos hmem]
        simp
      · have hnone : items.filter (fun y => y.1 = x.1) = [] := by
          rw [List.filter_eq_nil_iff]
          intro y hy heq
          exact hmem (List.mem_map.mpr ⟨y, hy, of_decide_eq_true heq⟩)
        rw [if_neg hmem]
        simp [hnone]
    · have hkeys : k ∈ (items ++ [x]).map Prod.fst ↔ k ∈ items.map Prod.fst := by
        simp only [List.map_append, List.map_singleton, List.mem_append, List.mem_singleton, hk,
          or_false]
      have hsame : (items ++ [x]).filter (fun y => y.1 = k) = items.filter fun y => y.1 = k := by
        rw [List.filter_append, List.filter_singleton, decide_eq_false (Ne.symm hk), cond_false,
          List.append_nil]
      rw [Function.update_of_ne hk, ih, hsame]
      simp only [hkeys]

/-- A walk over the entries of a grouping meets the items key by key. -/
theorem Iterates.flatten_eq (h : Iterates (group items) entries) :
    flatten entries = (entries.map Prod.fst).flatMap fun k => items.filter fun x => x.1 = k := by
  rw [flatten, List.flatMap_map]
  apply List.flatMap_congr
  rintro ⟨k, values⟩ he
  have hgroup := (h.mem k values).mp he
  rw [group_eq] at hgroup
  split at hgroup
  · cases hgroup
    rw [List.map_map]
    conv_rhs => rw [← List.map_id (items.filter fun x => x.1 = k)]
    apply List.map_congr_left
    intro x hx
    exact Prod.ext (of_decide_eq_true (List.mem_filter.mp hx).2).symm rfl
  · cases hgroup

theorem Iterates.mem_keys_iff (h : Iterates (group items) entries) :
    k ∈ entries.map Prod.fst ↔ k ∈ items.map Prod.fst := by
  constructor
  · intro hk
    obtain ⟨⟨k, values⟩, he, rfl⟩ := List.mem_map.mp hk
    have hgroup := (h.mem k values).mp he
    rw [group_eq] at hgroup
    split at hgroup
    · assumption
    · cases hgroup
  · intro hk
    have hgroup := (h.mem k _).mpr ((group_eq items k).trans (if_pos hk))
    exact List.mem_map.mpr ⟨_, hgroup, rfl⟩

theorem Iterates.mem_flatten_iff (h : Iterates (group items) entries) {x : κ × β} :
    x ∈ flatten entries ↔ x ∈ items := by
  rw [h.flatten_eq, List.mem_flatMap]
  constructor
  · rintro ⟨k, -, hx⟩
    exact (List.mem_filter.mp hx).1
  · intro hx
    refine ⟨x.1, h.mem_keys_iff.mpr (List.mem_map.mpr ⟨x, hx, rfl⟩), ?_⟩
    exact List.mem_filter.mpr ⟨hx, decide_eq_true rfl⟩

/-- Items of one key are met in the order in which they come. -/
theorem Iterates.pairwise {R : κ × β → κ × β → Prop} (h : Iterates (group items) entries)
    (hR : items.Pairwise R) : (flatten entries).Pairwise fun x y => x.1 = y.1 → R x y := by
  rw [h.flatten_eq, List.pairwise_flatMap]
  constructor
  · intro k _
    refine (hR.filter fun x => x.1 = k).imp ?_
    intro x y hxy _
    exact hxy
  · refine h.nodup.imp ?_
    intro k k' hne x hx y hy heq
    have hxk := of_decide_eq_true (List.mem_filter.mp hx).2
    have hyk := of_decide_eq_true (List.mem_filter.mp hy).2
    exact absurd (hxk.symm.trans (heq.trans hyk)) hne

theorem iterates_of_keys {keys : List κ} (hnodup : keys.Nodup)
    (hmem : ∀ k, k ∈ keys ↔ k ∈ items.map Prod.fst) :
    Iterates (group items)
      (keys.map fun k => (k, (items.filter fun x => x.1 = k).map Prod.snd)) where
  nodup := by
    rw [List.map_map]
    exact (List.map_id'' (fun _ => rfl) keys).symm ▸ hnodup
  mem k values := by
    rw [group_eq]
    constructor
    · intro he
      obtain ⟨j, hj, heq⟩ := List.mem_map.mp he
      cases heq
      rw [if_pos ((hmem k).mp hj)]
    · intro hgroup
      by_cases hk : k ∈ items.map Prod.fst
      · rw [if_pos hk] at hgroup
        cases hgroup
        exact List.mem_map.mpr ⟨k, (hmem k).mpr hk, rfl⟩
      · rw [if_neg hk] at hgroup
        cases hgroup

/-- The walk may begin with any key that there is. -/
theorem exists_iterates_front (hk : k ∈ items.map Prod.fst) :
    ∃ entries rest, Iterates (group items) entries ∧
      flatten entries = (items.filter fun x => x.1 = k) ++ rest := by
  have hperm := List.perm_cons_erase (List.mem_dedup.mpr hk)
  have hmem : ∀ j, j ∈ k :: (items.map Prod.fst).dedup.erase k ↔ j ∈ items.map Prod.fst := by
    intro j
    rw [← hperm.mem_iff, List.mem_dedup]
  have h := iterates_of_keys (hperm.nodup_iff.mp (List.nodup_dedup _)) hmem
  refine ⟨_, ((items.map Prod.fst).dedup.erase k).flatMap fun j => items.filter fun x => x.1 = j,
    h, ?_⟩
  rw [h.flatten_eq, List.map_map]
  exact congrArg (List.flatMap _) (List.map_id'' (fun _ => rfl) _)

theorem exists_iterates (items : List (κ × β)) : ∃ entries, Iterates (group items) entries :=
  ⟨_, iterates_of_keys (List.nodup_dedup (items.map Prod.fst)) fun _ => List.mem_dedup⟩

end Grouping
