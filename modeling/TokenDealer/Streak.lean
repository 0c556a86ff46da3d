import Mathlib.Data.List.DropRight

set_option autoImplicit true

namespace Streak

variable {ε κ : Type} [DecidableEq κ] (key : ε → κ) (ok : ε → Bool)

/-- What one key has seen since its last good event, or since the beginning. -/
def sinceOk (k : κ) (history : List ε) : List ε :=
  (history.filter fun e => key e = k).rtakeWhile fun e => !ok e

@[simp] theorem sinceOk_nil (k : κ) : sinceOk key ok k [] = [] := rfl

theorem sinceOk_concat_other (h : key e ≠ k) (history : List ε) :
    sinceOk key ok k (history ++ [e]) = sinceOk key ok k history := by
  simp only [sinceOk, List.filter_append, List.filter_cons, decide_eq_true_eq, if_neg h,
    List.filter_nil, List.append_nil]

theorem sinceOk_concat_ok (h : key e = k) (hok : ok e = true) (history : List ε) :
    sinceOk key ok k (history ++ [e]) = [] := by
  simp only [sinceOk, List.filter_append, List.filter_cons, decide_eq_true_eq, if_pos h,
    List.filter_nil]
  apply List.rtakeWhile_concat_neg
  simp only [hok, Bool.not_true, Bool.false_eq_true, not_false_eq_true]

theorem sinceOk_concat_bad (h : key e = k) (hok : ok e = false) (history : List ε) :
    sinceOk key ok k (history ++ [e]) = sinceOk key ok k history ++ [e] := by
  simp only [sinceOk, List.filter_append, List.filter_cons, decide_eq_true_eq, if_pos h,
    List.filter_nil]
  apply List.rtakeWhile_concat_pos
  simp only [hok, Bool.not_false]

theorem mem_sinceOk (h : e ∈ sinceOk key ok k history) :
    e ∈ history ∧ key e = k ∧ ok e = false := by
  have hm := (List.rtakeWhile_suffix _ _).subset h
  have hb := List.mem_rtakeWhile_imp h
  rw [List.mem_filter, decide_eq_true_eq] at hm
  exact ⟨hm.1, hm.2, by simpa only [Bool.not_eq_eq_eq_not, Bool.not_true] using hb⟩

theorem sinceOk_length_le (k : κ) (history : List ε) :
    (sinceOk key ok k history).length ≤ history.countP fun e => !ok e := by
  have hall : (sinceOk key ok k history).countP (fun e => !ok e) =
      (sinceOk key ok k history).length :=
    List.countP_eq_length.mpr fun e he => List.mem_rtakeWhile_imp (p := fun e => !ok e) he
  rw [← hall]
  exact ((List.rtakeWhile_suffix _ _).sublist.trans List.filter_sublist).countP_le

/-- A laxer notion of a good event gives a shorter streak, and the same one exactly when no
event of the streak is good in the lax sense only. -/
theorem sinceOk_lax {lax : ε → Bool} (hlax : ∀ e, ok e = true → lax e = true) (k : κ)
    (history : List ε) :
    (sinceOk key lax k history).length ≤ (sinceOk key ok k history).length ∧
      ((sinceOk key lax k history).length = (sinceOk key ok k history).length ↔
        ∀ e ∈ sinceOk key ok k history, lax e = false) := by
  induction history using List.reverseRecOn with
  | nil => simp only [sinceOk_nil, List.length_nil, Nat.le_refl, List.not_mem_nil, false_implies,
      implies_true, and_self]
  | append_singleton history e ih =>
    by_cases hk : key e = k
    · cases hok : ok e with
      | true =>
        simp only [sinceOk_concat_ok key ok hk hok, sinceOk_concat_ok key lax hk (hlax e hok),
          List.length_nil, Nat.le_refl, List.not_mem_nil, false_implies, implies_true, and_self]
      | false =>
        rw [sinceOk_concat_bad key ok hk hok]
        cases hl : lax e with
        | true =>
          rw [sinceOk_concat_ok key lax hk hl, List.length_append, List.length_singleton]
          refine ⟨Nat.zero_le _, fun h => by simp only [List.length_nil] at h; omega, ?_⟩
          intro h
          have he := h e (List.mem_append_right _ (List.mem_singleton_self e))
          rw [hl] at he
          cases he
        | false =>
          rw [sinceOk_concat_bad key lax hk hl, List.length_append, List.length_append]
          refine ⟨Nat.add_le_add_right ih.1 _, ?_⟩
          rw [Nat.add_right_cancel_iff, ih.2]
          constructor
          · intro h x hx
            rcases List.mem_append.mp hx with hx | hx
            · exact h x hx
            · rw [List.mem_singleton.mp hx]
              exact hl
          · exact fun h x hx => h x (List.mem_append_left _ hx)
    · rw [sinceOk_concat_other key ok hk, sinceOk_concat_other key lax hk]
      exact ih

end Streak
