import Mathlib.Algebra.Order.Ring.Defs
import Mathlib.Tactic.Linarith
import Mathlib.Tactic.Ring

set_option autoImplicit true

namespace Allowance

/-- A request for one unit of a supply, granted or refused. -/
structure Draw (K : Type u) where
  time : K
  granted : Bool

def Draw.cost [Zero K] [One K] (d : Draw K) : K := if d.granted then 1 else 0

/-- Draws one after the other from a supply that holds `level` at `time`. Each finds no more than
what the rate has added since the one before, up to the cap, and leaves no less than nothing. -/
inductive Draws [Ring K] [LinearOrder K] (rate cap : K) : K → K → List (Draw K) → Prop
  | nil (time level : K) : Draws rate cap time level []
  | cons {time level left : K} {d : Draw K} {rest : List (Draw K)}
      (htime : time ≤ d.time) (hleft : 0 ≤ left)
      (hfound : left + d.cost ≤ min (level + (d.time - time) * rate) cap)
      (hrest : Draws rate cap d.time left rest) : Draws rate cap time level (d :: rest)

/-- How many draws are granted in a window of time, its ends included. -/
def grantedIn [LinearOrder K] (s t : K) (draws : List (Draw K)) : Nat :=
  draws.countP fun d => d.granted ∧ s ≤ d.time ∧ d.time ≤ t

theorem grantedIn_cons_of_mem [Ring K] [LinearOrder K] {d : Draw K}
    (hs : s ≤ d.time) (ht : d.time ≤ t)
    (rest : List (Draw K)) :
    (grantedIn s t (d :: rest) : K) = d.cost + grantedIn s t rest := by
  rw [grantedIn, List.countP_cons, Draw.cost]
  cases hd : d.granted with
  | true =>
    simp only [hs, ht, and_self, decide_true, if_true, Nat.cast_add, Nat.cast_one, grantedIn]
    exact add_comm _ _
  | false =>
    simp only [Bool.false_eq_true, false_and, decide_false, if_false, Nat.add_zero, grantedIn,
      zero_add]

theorem grantedIn_cons_of_not_mem [LinearOrder K] {d : Draw K}
    (h : ¬ (s ≤ d.time ∧ d.time ≤ t)) (rest : List (Draw K)) :
    grantedIn s t (d :: rest) = grantedIn s t rest := by
  rw [grantedIn, List.countP_cons_of_neg, grantedIn]
  rw [decide_eq_true_eq]
  exact fun hd => h hd.2

theorem Draw.cost_nonneg [Ring K] [LinearOrder K] [IsStrictOrderedRing K] (d : Draw K) :
    0 ≤ d.cost := by
  rw [Draw.cost]
  split
  · exact zero_le_one
  · exact le_refl 0

namespace Draws

/-- No draw is earlier than the supply it is made from. -/
theorem grantedIn_eq_zero [Ring K] [LinearOrder K] {rate cap time level : K}
    (h : Draws rate cap time level draws) (ht : t < time) :
    grantedIn s t draws = 0 := by
  induction h with
  | nil => rfl
  | cons htime _ _ _ ih =>
    have hlate := ht.trans_le htime
    rw [grantedIn_cons_of_not_mem fun hd => absurd hd.2 (not_le.mpr hlate)]
    exact ih hlate

variable [CommRing K] [LinearOrder K] [IsStrictOrderedRing K] {rate cap time level : K}

/-- What has been granted by a time is covered by the level at the start and what the rate has
added since: the level is the potential that pays for the draws. -/
theorem grantedIn_le_level (hrate : 0 ≤ rate) (h : Draws rate cap time level draws)
    (hlevel : 0 ≤ level) (ht : time ≤ t) :
    (grantedIn s t draws : K) ≤ level + (t - time) * rate := by
  induction h with
  | nil time level =>
    have hadded : 0 ≤ (t - time) * rate := mul_nonneg (sub_nonneg.mpr ht) hrate
    simpa only [grantedIn, List.countP_nil, Nat.cast_zero] using add_nonneg hlevel hadded
  | @cons time level left d rest htime hleft hfound hrest ih =>
    by_cases hlate : t < d.time
    · rw [grantedIn_cons_of_not_mem fun hd => absurd hd.2 (not_le.mpr hlate),
        hrest.grantedIn_eq_zero hlate, Nat.cast_zero]
      exact add_nonneg hlevel (mul_nonneg (sub_nonneg.mpr ht) hrate)
    · have hdt : d.time ≤ t := not_lt.mp hlate
      have hcovered : (grantedIn s t rest : K) ≤ left + (t - d.time) * rate := ih hleft hdt
      have hcost : left + d.cost ≤ level + (d.time - time) * rate := hfound.trans (min_le_left _ _)
      have hadded : (d.time - time) * rate + (t - d.time) * rate = (t - time) * rate := by ring
      by_cases hs : s ≤ d.time
      · rw [grantedIn_cons_of_mem hs hdt]
        linarith
      · have hpaid := d.cost_nonneg
        rw [grantedIn_cons_of_not_mem fun hd => hs hd.1]
        linarith

/-- In every window the draws granted are bounded by the cap and what the rate adds meanwhile. -/
theorem grantedIn_le (hrate : 0 ≤ rate) (hcap : 0 ≤ cap) (h : Draws rate cap time level draws)
    (hst : s ≤ t) : (grantedIn s t draws : K) ≤ cap + rate * (t - s) := by
  have hwindow : 0 ≤ rate * (t - s) := mul_nonneg hrate (sub_nonneg.mpr hst)
  induction h with
  | nil => simpa only [grantedIn, List.countP_nil, Nat.cast_zero] using add_nonneg hcap hwindow
  | @cons time level left d rest htime hleft hfound hrest ih =>
    by_cases hmem : s ≤ d.time ∧ d.time ≤ t
    · -- the first draw of the window finds at most the cap, and pays for the rest of it
      obtain ⟨hs, hdt⟩ := hmem
      have hcovered : (grantedIn s t rest : K) ≤ left + (t - d.time) * rate :=
        hrest.grantedIn_le_level hrate hleft hdt
      have hcost : left + d.cost ≤ cap := hfound.trans (min_le_right _ _)
      have hlater : (t - d.time) * rate ≤ rate * (t - s) := by
        rw [mul_comm]
        exact mul_le_mul_of_nonneg_left (sub_le_sub_left hs t) hrate
      rw [grantedIn_cons_of_mem hs hdt]
      linarith
    · rw [grantedIn_cons_of_not_mem hmem]
      exact ih

end Draws

end Allowance
