import Mathlib.Algebra.Order.Field.Rat
import Mathlib.Data.Int.Log
import Mathlib.Data.Rat.Floor
import Mathlib.Tactic.Linarith
import Mathlib.Tactic.Ring

set_option autoImplicit true

/-- A way to take every rational number to one that a number format has, which keeps the order
and every whole number with at most so many binary digits. -/
structure Rounding (digits : Nat) where
  round : ℚ → ℚ
  monotone : Monotone round
  idempotent : ∀ q, round (round q) = round q
  natCast : ∀ n : Nat, n ≤ 2 ^ digits → round n = n

namespace Rounding

/-- Nothing is rounded. -/
def exact : Rounding digits where
  round := id
  monotone := monotone_id
  idempotent _ := rfl
  natCast _ _ := rfl

@[simp] theorem exact_round (q : ℚ) : (exact : Rounding digits).round q = q := rfl

section Properties

variable (fl : Rounding digits)

/-- What the format has. -/
def Fixed (q : ℚ) : Prop := fl.round q = q

instance : DecidablePred fl.Fixed := fun _ => inferInstanceAs (Decidable (_ = _))

theorem exact_fixed (q : ℚ) : (exact : Rounding digits).Fixed q := rfl

theorem fixed_round (q : ℚ) : fl.Fixed (fl.round q) := fl.idempotent q

@[simp] theorem round_zero : fl.round 0 = 0 := by
  simpa using fl.natCast 0 (Nat.zero_le _)

@[simp] theorem round_one : fl.round 1 = 1 := by
  simpa using fl.natCast 1 Nat.one_le_two_pow

theorem fixed_two_pow : fl.Fixed (2 ^ digits) := by
  have h := fl.natCast (2 ^ digits) (Nat.le_refl _)
  rwa [Nat.cast_pow, Nat.cast_ofNat] at h

variable {fl} {p q : ℚ}

theorem le_round (hp : fl.Fixed p) (h : p ≤ q) : p ≤ fl.round q := by
  have hround := fl.monotone h
  rwa [hp] at hround

theorem round_le (hp : fl.Fixed p) (h : q ≤ p) : fl.round q ≤ p := by
  have hround := fl.monotone h
  rwa [hp] at hround

theorem round_nonneg (h : 0 ≤ q) : 0 ≤ fl.round q := le_round fl.round_zero h

theorem round_nonpos (h : q ≤ 0) : fl.round q ≤ 0 := round_le fl.round_zero h

theorem round_add_nonneg (hp : fl.Fixed p) (hq : 0 ≤ q) : p ≤ fl.round (p + q) :=
  le_round hp (le_add_of_nonneg_right hq)

/-- The predecessor of a number from one on is rounded to something below it: to its whole part
at the most, and a whole number keeps its predecessor. -/
theorem round_sub_one_lt (hone : 1 ≤ q) (htop : q ≤ 2 ^ digits) : fl.round (q - 1) < q := by
  have hfloor : ((⌊q⌋₊ : Nat) : ℚ) ≤ q := Nat.floor_le (zero_le_one.trans hone)
  have hlow : q - 1 < ⌊q⌋₊ := by
    have hnext := Nat.lt_floor_add_one q
    linarith
  have hfits : ⌊q⌋₊ ≤ 2 ^ digits := by
    have hcast : ((⌊q⌋₊ : Nat) : ℚ) ≤ ((2 ^ digits : Nat) : ℚ) := by
      push_cast
      exact hfloor.trans htop
    exact_mod_cast hcast
  have hround : fl.round (q - 1) ≤ ⌊q⌋₊ := round_le (fl.natCast _ hfits) hlow.le
  rcases hfloor.lt_or_eq with hlt | heq
  · exact hround.trans_lt hlt
  · obtain ⟨n, hn⟩ : ∃ n, ⌊q⌋₊ = n + 1 := by
      apply Nat.exists_eq_succ_of_ne_zero
      have hpos : 1 ≤ ⌊q⌋₊ := Nat.le_floor (by simpa using hone)
      omega
    have hpred : q - 1 = n := by
      rw [← heq, hn]
      push_cast
      ring
    rw [hpred, fl.natCast n (by omega), ← heq, hn]
    exact_mod_cast Nat.lt_succ_self n

theorem round_natCast_sub_one {n : Nat} (h : n + 1 ≤ 2 ^ digits) :
    fl.round ((n + 1 : Nat) - 1) = n := by
  rw [Nat.cast_add, Nat.cast_one, add_sub_cancel_right]
  exact fl.natCast n ((Nat.le_succ n).trans h)

end Properties

/-- The nearest whole number, of two that are as near the even one. -/
def nearestEven (q : ℚ) : ℤ :=
  if q - ⌊q⌋ < 1 / 2 ∨ (q - ⌊q⌋ = 1 / 2 ∧ ⌊q⌋ % 2 = 0) then ⌊q⌋ else ⌊q⌋ + 1

theorem nearestEven_intCast (m : ℤ) : nearestEven m = m := by
  rw [nearestEven, Int.floor_intCast, if_pos]
  left
  rw [sub_self]
  exact one_half_pos

theorem nearestEven_mem (q : ℚ) : nearestEven q = ⌊q⌋ ∨ nearestEven q = ⌊q⌋ + 1 := by
  rw [nearestEven]
  split
  · exact .inl rfl
  · exact .inr rfl

theorem nearestEven_mono {p q : ℚ} (h : p ≤ q) : nearestEven p ≤ nearestEven q := by
  have hfloor : ⌊p⌋ ≤ ⌊q⌋ := Int.floor_le_floor h
  rcases hfloor.lt_or_eq with hlt | heq
  · have hp := nearestEven_mem p
    have hq := nearestEven_mem q
    omega
  · rw [nearestEven, nearestEven, heq]
    split
    · split
      · exact le_refl _
      · exact Int.le_add_one (le_refl _)
    · next hup =>
      rw [if_neg]
      rw [not_or, not_and_or, not_lt] at hup ⊢
      -- the larger rest is rounded up too
      have hrest : p - ⌊q⌋ ≤ q - ⌊q⌋ := sub_le_sub_right h _
      refine ⟨hup.1.trans hrest, ?_⟩
      rcases hup.2 with hne | hodd
      · left
        exact ne_of_gt ((lt_of_le_of_ne hup.1 (Ne.symm hne)).trans_le hrest)
      · exact .inr hodd

theorem nearestEven_le {q : ℚ} {m : ℤ} (h : q ≤ (m : ℚ)) : nearestEven q ≤ m := by
  have hmono := nearestEven_mono h
  rwa [nearestEven_intCast] at hmono

theorem le_nearestEven {q : ℚ} {m : ℤ} (h : (m : ℚ) ≤ q) : m ≤ nearestEven q := by
  have hmono := nearestEven_mono h
  rwa [nearestEven_intCast] at hmono

end Rounding

/-- A binary format: how many digits its numbers have, and the least place of a last digit. -/
structure BinaryFormat where
  digits : Nat
  least : ℤ
  digits_pos : 0 < digits
  least_nonpos : least ≤ 0

namespace BinaryFormat

open Rounding

/-- The place of the last digit of numbers of this size. -/
def lastPlace (f : BinaryFormat) (q : ℚ) : ℤ := max (Int.log 2 |q| + 1 - f.digits) f.least

/-- To the nearest number of the format, of two that are as near the one with an even last digit.
There is no largest one here. -/
def nearest (f : BinaryFormat) (q : ℚ) : ℚ :=
  nearestEven (q / 2 ^ f.lastPlace q) * 2 ^ f.lastPlace q

/-- A number that the format can write. -/
def Holds (f : BinaryFormat) (q : ℚ) : Prop :=
  ∃ m k : ℤ, |m| ≤ 2 ^ f.digits ∧ f.least ≤ k ∧ q = m * 2 ^ k

variable {f : BinaryFormat} {p q : ℚ} {m k e : ℤ}

theorem two_zpow_pos (k : ℤ) : (0 : ℚ) < 2 ^ k := zpow_pos two_pos k

/-- A multiple of a place is one of every lower place. -/
theorem exists_multiple (m : ℤ) (h : e ≤ k) : ∃ n : ℤ, (m : ℚ) * 2 ^ k = n * 2 ^ e := by
  obtain ⟨d, rfl⟩ := Int.le.dest h
  refine ⟨m * 2 ^ d, ?_⟩
  rw [zpow_add₀ two_ne_zero, zpow_natCast]
  push_cast
  ring

theorem nearest_le_multiple (h : q ≤ (m : ℚ) * 2 ^ k) (hk : f.lastPlace q ≤ k) :
    f.nearest q ≤ (m : ℚ) * 2 ^ k := by
  obtain ⟨n, hn⟩ := exists_multiple m hk
  rw [hn] at h ⊢
  have hpos := two_zpow_pos (f.lastPlace q)
  have hround : nearestEven (q / 2 ^ f.lastPlace q) ≤ n :=
    nearestEven_le ((div_le_iff₀ hpos).mpr h)
  exact mul_le_mul_of_nonneg_right (Int.cast_le.mpr hround) hpos.le

theorem multiple_le_nearest (h : (m : ℚ) * 2 ^ k ≤ q) (hk : f.lastPlace q ≤ k) :
    (m : ℚ) * 2 ^ k ≤ f.nearest q := by
  obtain ⟨n, hn⟩ := exists_multiple m hk
  rw [hn] at h ⊢
  have hpos := two_zpow_pos (f.lastPlace q)
  have hround : n ≤ nearestEven (q / 2 ^ f.lastPlace q) :=
    le_nearestEven ((le_div_iff₀ hpos).mpr h)
  exact mul_le_mul_of_nonneg_right (Int.cast_le.mpr hround) hpos.le

/-- A multiple of its own last place stays. -/
theorem nearest_multiple (h : q = (m : ℚ) * 2 ^ k) (hk : f.lastPlace q ≤ k) :
    f.nearest q = q := by
  apply le_antisymm
  · nth_rewrite 2 [h]
    exact nearest_le_multiple h.le hk
  · nth_rewrite 1 [h]
    exact multiple_le_nearest h.ge hk

@[simp] theorem nearest_zero (f : BinaryFormat) : f.nearest 0 = 0 := by
  rw [nearest, zero_div]
  have hzero : nearestEven 0 = 0 := by simpa using nearestEven_intCast 0
  rw [hzero, Int.cast_zero, zero_mul]

theorem abs_lt_zpow_succ_log (q : ℚ) : |q| < (2 : ℚ) ^ (Int.log 2 |q| + 1) := by
  have h := Int.lt_zpow_succ_log_self Nat.one_lt_two |q|
  rwa [Nat.cast_ofNat] at h

theorem zpow_log_le_abs (hq : q ≠ 0) : (2 : ℚ) ^ Int.log 2 |q| ≤ |q| := by
  have h := Int.zpow_log_le_self Nat.one_lt_two (abs_pos.mpr hq)
  rwa [Nat.cast_ofNat] at h

theorem log_lt_of_abs_lt (hq : q ≠ 0) (h : |q| < (2 : ℚ) ^ k) : Int.log 2 |q| < k := by
  apply (Int.lt_zpow_iff_log_lt Nat.one_lt_two (abs_pos.mpr hq)).mp
  rwa [Nat.cast_ofNat]

/-- What fewer digits write from a place on has its last place no higher. -/
theorem lastPlace_le (hm : |m| < 2 ^ f.digits) (hk : f.least ≤ k)
    (hzero : (m : ℚ) * 2 ^ k ≠ 0) : f.lastPlace ((m : ℚ) * 2 ^ k) ≤ k := by
  apply max_le _ hk
  have hcast : ((|m| : ℤ) : ℚ) < 2 ^ f.digits := by exact_mod_cast hm
  have hsize : |(m : ℚ) * 2 ^ k| < (2 : ℚ) ^ (k + f.digits) := by
    rw [abs_mul, abs_of_pos (two_zpow_pos k), zpow_add₀ two_ne_zero, mul_comm, zpow_natCast,
      ← Int.cast_abs]
    exact mul_lt_mul_of_pos_left hcast (two_zpow_pos k)
  have hlog := log_lt_of_abs_lt hzero hsize
  omega

/-- What the format can write stays. -/
theorem Holds.nearest_eq (h : f.Holds q) : f.nearest q = q := by
  obtain ⟨m, k, hm, hk, rfl⟩ := h
  by_cases hzero : (m : ℚ) * 2 ^ k = 0
  · rw [hzero, nearest_zero]
  · rcases hm.lt_or_eq with hlt | heq
    · exact nearest_multiple rfl (lastPlace_le hlt hk hzero)
    · -- one digit more, the last of them zero
      obtain ⟨d, hd⟩ := Nat.exists_eq_succ_of_ne_zero (Nat.ne_of_gt f.digits_pos)
      obtain ⟨n, hn⟩ : ∃ n, m = 2 * n := by
        have hpow : (2 : ℤ) ∣ 2 ^ f.digits := by
          rw [hd]
          exact Dvd.intro_left (2 ^ d) rfl
        exact (dvd_abs 2 m).mp (heq ▸ hpow)
      have hnext : (m : ℚ) * 2 ^ k = (n : ℚ) * 2 ^ (k + 1) := by
        rw [hn, zpow_add₀ two_ne_zero, zpow_one]
        push_cast
        ring
      have hsize : |n| < 2 ^ f.digits := by
        have hpos : (0 : ℤ) < 2 ^ f.digits := Int.pow_pos two_pos
        rw [hn, abs_mul, abs_two] at heq
        omega
      rw [hnext] at hzero ⊢
      exact nearest_multiple rfl (lastPlace_le hsize (hk.trans (Int.le_add_one le_rfl)) hzero)

/-- The nearest number is one of the format. -/
theorem holds_nearest (f : BinaryFormat) (q : ℚ) : f.Holds (f.nearest q) := by
  refine ⟨nearestEven (q / 2 ^ f.lastPlace q), f.lastPlace q, ?_, le_max_right _ _, rfl⟩
  have hpos := two_zpow_pos (f.lastPlace q)
  have hsize : |q / 2 ^ f.lastPlace q| ≤ ((2 ^ f.digits : ℤ) : ℚ) := by
    have hlog : Int.log 2 |q| + 1 ≤ f.digits + f.lastPlace q := by
      have hmax := le_max_left (Int.log 2 |q| + 1 - f.digits) f.least
      rw [lastPlace]
      omega
    rw [abs_div, abs_of_pos hpos, div_le_iff₀ hpos, Int.cast_pow, Int.cast_ofNat, ← zpow_natCast,
      ← zpow_add₀ two_ne_zero]
    exact (abs_lt_zpow_succ_log q).le.trans (zpow_le_zpow_right₀ one_le_two hlog)
  rw [abs_le] at hsize ⊢
  rw [← Int.cast_neg] at hsize
  exact ⟨le_nearestEven hsize.1, nearestEven_le hsize.2⟩

theorem lastPlace_mono (hp : p ≠ 0) (h : |p| ≤ |q|) : f.lastPlace p ≤ f.lastPlace q := by
  have hlog : Int.log 2 |p| ≤ Int.log 2 |q| := Int.log_mono_right (abs_pos.mpr hp) h
  rw [lastPlace, lastPlace]
  omega

@[simp] theorem lastPlace_neg (f : BinaryFormat) (q : ℚ) : f.lastPlace (-q) = f.lastPlace q := by
  rw [lastPlace, abs_neg, lastPlace]

/-- The power of two at the front of the larger number is one of the format, and lies between. -/
theorem exists_between_of_pos (hp : 0 < p) (h : p ≤ q) (hne : f.lastPlace p ≠ f.lastPlace q) :
    ∃ m k : ℤ, f.lastPlace p ≤ k ∧ f.lastPlace q ≤ k ∧ p ≤ (m : ℚ) * 2 ^ k ∧
      (m : ℚ) * 2 ^ k ≤ q := by
  have hq : 0 < q := hp.trans_le h
  have hlt : f.lastPlace p < f.lastPlace q := by
    apply lt_of_le_of_ne _ hne
    apply lastPlace_mono (ne_of_gt hp)
    rwa [abs_of_pos hp, abs_of_pos hq]
  have hplace : f.lastPlace q = Int.log 2 |q| + 1 - f.digits := by
    have hleast : f.least < f.lastPlace q := (le_max_right _ _).trans_lt hlt
    rw [lastPlace] at hleast ⊢
    omega
  have hlog : Int.log 2 |p| < Int.log 2 |q| := by
    have hmax := le_max_left (Int.log 2 |p| + 1 - f.digits) f.least
    rw [lastPlace] at hlt
    omega
  have hdigits := f.digits_pos
  refine ⟨1, Int.log 2 |q|, by omega, by omega, ?_, ?_⟩
  · rw [Int.cast_one, one_mul]
    calc p ≤ |p| := le_abs_self p
      _ ≤ (2 : ℚ) ^ (Int.log 2 |p| + 1) := (abs_lt_zpow_succ_log p).le
      _ ≤ (2 : ℚ) ^ Int.log 2 |q| := zpow_le_zpow_right₀ one_le_two hlog
  · rw [Int.cast_one, one_mul]
    nth_rewrite 2 [← abs_of_pos hq]
    exact zpow_log_le_abs (ne_of_gt hq)

/-- Between numbers with different last places lies a multiple of both. -/
theorem exists_between (h : p ≤ q) (hne : f.lastPlace p ≠ f.lastPlace q) :
    ∃ m k : ℤ, f.lastPlace p ≤ k ∧ f.lastPlace q ≤ k ∧ p ≤ (m : ℚ) * 2 ^ k ∧
      (m : ℚ) * 2 ^ k ≤ q := by
  rcases lt_or_ge 0 p with hp | hp
  · exact exists_between_of_pos hp h hne
  · rcases lt_or_ge q 0 with hq | hq
    · have hneg : f.lastPlace (-q) ≠ f.lastPlace (-p) := by
        rw [lastPlace_neg, lastPlace_neg]
        exact Ne.symm hne
      obtain ⟨m, k, hkq, hkp, hlow, hhigh⟩ :=
        exists_between_of_pos (neg_pos.mpr hq) (neg_le_neg h) hneg
      rw [lastPlace_neg] at hkp hkq
      refine ⟨-m, k, hkp, hkq, ?_, ?_⟩
      · rw [Int.cast_neg, neg_mul]
        exact le_neg_of_le_neg hhigh
      · rw [Int.cast_neg, neg_mul]
        exact neg_le_of_neg_le hlow
    · refine ⟨0, max (f.lastPlace p) (f.lastPlace q), le_max_left _ _, le_max_right _ _, ?_, ?_⟩
      · rwa [Int.cast_zero, zero_mul]
      · rwa [Int.cast_zero, zero_mul]

theorem nearest_mono (f : BinaryFormat) : Monotone f.nearest := by
  intro p q h
  by_cases heq : f.lastPlace p = f.lastPlace q
  · have hpos := two_zpow_pos (f.lastPlace q)
    rw [nearest, nearest, heq]
    apply mul_le_mul_of_nonneg_right _ hpos.le
    exact Int.cast_le.mpr (nearestEven_mono (div_le_div_of_nonneg_right h hpos.le))
  · obtain ⟨m, k, hkp, hkq, hlow, hhigh⟩ := exists_between h heq
    exact (nearest_le_multiple hlow hkp).trans (multiple_le_nearest hhigh hkq)

theorem holds_natCast {n : Nat} (h : n ≤ 2 ^ f.digits) : f.Holds n := by
  refine ⟨n, 0, ?_, f.least_nonpos, ?_⟩
  · rw [Nat.abs_cast]
    exact_mod_cast h
  · rw [zpow_zero, mul_one, Int.cast_natCast]

/-- To the nearest number of the format is a way to round. -/
def rounding (f : BinaryFormat) : Rounding f.digits where
  round := f.nearest
  monotone := f.nearest_mono
  idempotent q := (f.holds_nearest q).nearest_eq
  natCast _ h := (holds_natCast h).nearest_eq

/-- The double-precision numbers, of every size. -/
def binary64 : BinaryFormat where
  digits := 53
  least := -1074
  digits_pos := by decide
  least_nonpos := by decide

end BinaryFormat

/-- A double-precision operation keeps the nearest number to its exact result. -/
@[irreducible] def Rounding.binary64 : Rounding 53 := BinaryFormat.binary64.rounding

example : Rounding.binary64.round (1 / 10) = 3602879701896397 / 2 ^ 55 ∧
    Rounding.binary64.round (1 / 2 ^ 1075) = 0 ∧
    Rounding.binary64.round (2 ^ 53 + 1) = 2 ^ 53 := by
  decide +kernel
