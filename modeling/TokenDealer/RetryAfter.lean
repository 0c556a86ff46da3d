import TokenDealer.RateLimit

set_option autoImplicit true

namespace TokenDealer

namespace Bucket

/-- Calls that are refused, one after the other, up to a time: the bucket before and after them. -/
inductive Refusals (rate burst : ℚ) (t : Instant) : Bucket → Bucket → Prop
  | nil (ht : bucket.lastRefill ≤ t) : Refusals rate burst t bucket bucket
  | cons {bucket bucket' : Bucket} {now : Instant} {n : Nat} (hnow : bucket.lastRefill ≤ now)
      (hrefused : (bucket.tryConsume .exact rate burst now).1 = .error n)
      (hrest : Refusals rate burst t (bucket.tryConsume .exact rate burst now).2 bucket') :
      Refusals rate burst t bucket bucket'

section

variable {bucket : Bucket} {rate burst : ℚ}

theorem accepted_iff :
    (bucket.tryConsume .exact rate burst now).1 = .ok () ↔
      1 ≤ level .exact bucket rate burst now := by
  by_cases hone : 1 ≤ level .exact bucket rate burst now
  · rw [tryConsume_of_le hone]
    exact iff_of_true rfl hone
  · rw [tryConsume_of_lt hone]
    exact iff_of_false (fun h => by cases h) hone

theorem refused_iff :
    (∃ n, (bucket.tryConsume .exact rate burst now).1 = .error n) ↔
      level .exact bucket rate burst now < 1 := by
  by_cases hone : 1 ≤ level .exact bucket rate burst now
  · rw [tryConsume_of_le hone]
    refine iff_of_false ?_ (not_lt.mpr hone)
    rintro ⟨n, h⟩
    cases h
  · rw [tryConsume_of_lt hone]
    exact iff_of_true ⟨_, rfl⟩ (not_le.mp hone)

/-- A refused call is answered with the wait for what is missing, and leaves what it has found. -/
theorem refused_spec (h : (bucket.tryConsume .exact rate burst now).1 = .error n) :
    n = max (secsUntil .exact (1 - level .exact bucket rate burst now) rate) 1 ∧
      (bucket.tryConsume .exact rate burst now).2 = ⟨level .exact bucket rate burst now, now⟩ := by
  have hone : ¬ 1 ≤ level .exact bucket rate burst now := not_le.mpr (refused_iff.mp ⟨n, h⟩)
  rw [tryConsume_of_lt hone] at h ⊢
  cases h
  exact ⟨rfl, rfl⟩

theorem elapsed_add (hst : s ≤ t) (hrs : r ≤ s) :
    elapsed .exact t r = elapsed .exact s r + elapsed .exact t s := by
  rw [elapsed_eq_sub (hrs.trans hst), elapsed_eq_sub hrs, elapsed_eq_sub hst]
  ring

theorem elapsed_fromSecs (now : Instant) (n : Nat) : elapsed .exact (now + fromSecs n) now = n := by
  rw [elapsed_exact, Nat.add_sub_cancel_left, secs, fromSecs, Nat.cast_mul]
  exact mul_div_cancel_right₀ _ (by norm_num)

theorem Refusals.le (h : Refusals rate burst t bucket bucket') : bucket.lastRefill ≤ t := by
  induction h with
  | nil ht => exact ht
  | cons hnow hrefused hrest ih =>
    rw [(refused_spec hrefused).2] at ih
    exact hnow.trans ih

/-- What is refused leaves no trace: the refill up to a refused call is not clamped, since the
level stays below one, and the rest of it follows later. -/
theorem Refusals.level_eq (hburst : 1 ≤ burst) (h : Refusals rate burst t bucket bucket') :
    level .exact bucket' rate burst t = level .exact bucket rate burst t := by
  induction h with
  | nil => rfl
  | @cons bucket bucket' now n hnow hrefused hrest ih =>
    have hspec := (refused_spec hrefused).2
    have hle := hrest.le
    rw [hspec] at ih hle
    have hlow : level .exact bucket rate burst now < 1 := refused_iff.mp ⟨n, hrefused⟩
    have hfound : level .exact bucket rate burst now =
        bucket.tokens + elapsed .exact now bucket.lastRefill * rate := by
      rw [level_exact, min_eq_left_iff]
      by_contra hfull
      rw [level_exact, min_eq_right (not_le.mp hfull).le] at hlow
      exact absurd hburst (not_le.mpr hlow)
    rw [ih, level_exact, hfound, level_exact, elapsed_add hle hnow, add_mul, add_assoc]

/-- The longest wait that the answer has room for. -/
def maxWait : ℚ := (UInt64.size - 1 : Nat)

theorem le_secsUntil (hrate : 0 < rate) (hfits : need / rate ≤ maxWait) :
    need / rate ≤ secsUntil .exact need rate := by
  have hceil : need / rate ≤ (⌈need / rate⌉.toNat : ℚ) := by
    have hnat : (⌈need / rate⌉ : ℚ) ≤ (⌈need / rate⌉.toNat : ℚ) := by
      exact_mod_cast Int.self_le_toNat _
    exact (Int.le_ceil _).trans hnat
  rw [secsUntil, if_neg hrate.ne', Rounding.exact_round, Nat.cast_min]
  exact le_min hceil hfits

theorem secsUntil_lt (hrate : 0 < rate) (hneed : 0 < need) :
    (secsUntil .exact need rate : ℚ) < need / rate + 1 := by
  have hpos : 0 < need / rate := div_pos hneed hrate
  have hceil : ((⌈need / rate⌉.toNat : ℤ) : ℚ) = ⌈need / rate⌉ := by
    rw [Int.toNat_of_nonneg (Int.ceil_nonneg hpos.le)]
  rw [secsUntil, if_neg hrate.ne', Rounding.exact_round, Nat.cast_min]
  refine (min_le_left _ _).trans_lt ?_
  rw [← Int.cast_natCast, hceil]
  exact Int.ceil_lt_add_one _

/-- After a refusal there is one token again when what was missing has been refilled. -/
theorem one_le_level_iff (hrate : 0 < rate) (hburst : 1 ≤ burst)
    (hrefused : (bucket.tryConsume .exact rate burst now).1 = .error n)
    (hwait : Refusals rate burst (now + fromSecs k) (bucket.tryConsume .exact rate burst now).2
      bucket') :
    1 ≤ level .exact bucket' rate burst (now + fromSecs k) ↔
      (1 - level .exact bucket rate burst now) / rate ≤ k := by
  rw [hwait.level_eq hburst, (refused_spec hrefused).2, level_exact, elapsed_fromSecs, le_min_iff,
    and_iff_left hburst, div_le_iff₀ hrate, sub_le_iff_le_add']

/-- Without rounding a refused call says exactly how many seconds are to be waited, as long as their
number fits into the answer. -/
theorem retry_after_exact (hrate : 0 < rate) (hburst : 1 ≤ burst)
    (hrefused : (bucket.tryConsume .exact rate burst now).1 = .error n)
    (hfits : (1 - level .exact bucket rate burst now) / rate ≤ maxWait) :
    (∀ waited,
      Refusals rate burst (now + fromSecs n) (bucket.tryConsume .exact rate burst now).2 waited →
      (waited.tryConsume .exact rate burst (now + fromSecs n)).1 = .ok ()) ∧
    (1 < n → ∀ waited,
      Refusals rate burst (now + fromSecs (n - 1)) (bucket.tryConsume .exact rate burst now).2
        waited →
      ∃ m, (waited.tryConsume .exact rate burst (now + fromSecs (n - 1))).1 = .error m) := by
  have hanswer := (refused_spec hrefused).1
  have hneed : 0 < 1 - level .exact bucket rate burst now :=
    sub_pos.mpr (refused_iff.mp ⟨n, hrefused⟩)
  constructor
  · intro waited hwait
    rw [accepted_iff, one_le_level_iff hrate hburst hrefused hwait, hanswer, Nat.cast_max]
    exact le_max_of_le_left (le_secsUntil hrate hfits)
  · intro hn waited hwait
    rw [refused_iff, ← not_le, one_le_level_iff hrate hburst hrefused hwait, not_le]
    have hceil : n = secsUntil .exact (1 - level .exact bucket rate burst now) rate := by
      rcases max_cases (secsUntil .exact (1 - level .exact bucket rate burst now) rate) 1 with h | h
      · exact hanswer.trans h.1
      · exact absurd (hanswer.trans h.1) hn.ne'
    have hlt := secsUntil_lt hrate hneed
    rw [← hceil] at hlt
    rw [Nat.cast_sub hn.le, Nat.cast_one]
    linarith

/-- An empty bucket of six requests a minute: the wait is ten seconds, with a call in between. -/
theorem retry_after_exact_sample :
    (∀ waited,
      Refusals (1 / 10) 1 (0 + fromSecs 10) (tryConsume .exact ⟨0, 0⟩ (1 / 10) 1 0).2 waited →
      (waited.tryConsume .exact (1 / 10) 1 (0 + fromSecs 10)).1 = .ok ()) ∧
    (1 < 10 → ∀ waited,
      Refusals (1 / 10) 1 (0 + fromSecs (10 - 1)) (tryConsume .exact ⟨0, 0⟩ (1 / 10) 1 0).2
        waited →
      ∃ m, (waited.tryConsume .exact (1 / 10) 1 (0 + fromSecs (10 - 1))).1 = .error m) :=
  retry_after_exact (by norm_num) le_rfl (by decide +kernel) (by decide +kernel)

/-- At a rate that takes more seconds for a token than a 64-bit number has room for, the answer is
too short. -/
theorem retry_after_saturates :
    ∃ rate : ℚ, 0 < rate ∧
      (tryConsume .exact ⟨0, 0⟩ rate 1 0).1 = .error (UInt64.size - 1) ∧
      Refusals rate 1 (0 + fromSecs (UInt64.size - 1)) (tryConsume .exact ⟨0, 0⟩ rate 1 0).2
        ⟨0, 0⟩ ∧
      ∃ m, (tryConsume .exact ⟨0, 0⟩ rate 1 (0 + fromSecs (UInt64.size - 1))).1 = .error m := by
  refine ⟨1 / 2 ^ 65, by norm_num, by decide +kernel, ?_, refused_iff.mpr (by decide +kernel)⟩
  have hafter : (tryConsume .exact ⟨0, 0⟩ (1 / 2 ^ 65) 1 0).2 = ⟨0, 0⟩ := by decide +kernel
  rw [hafter]
  exact .nil (Nat.zero_le _)

/-- With one request a minute or more, no wait is longer than a minute. -/
theorem wait_le_minute (hrate : 1 / 60 ≤ rate) (hburst : 0 ≤ burst) (htokens : 0 ≤ bucket.tokens) :
    (1 - level .exact bucket rate burst now) / rate ≤ 60 := by
  have hpos : 0 < rate := lt_of_lt_of_le (by norm_num) hrate
  have hlevel : 0 ≤ level .exact bucket rate burst now :=
    level_nonneg hpos.le hburst htokens now
  rw [div_le_iff₀ hpos]
  linarith

end

end Bucket

end TokenDealer
