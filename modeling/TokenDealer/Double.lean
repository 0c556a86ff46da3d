import TokenDealer.F64
import TokenDealer.Rounding
import TokenDealer.Str

set_option autoImplicit true

/-- The least number that is too large for a double. -/
@[irreducible] def Double.limit : ℚ := 2 ^ 1024

/-- A number of the format that is in its range. -/
def Double.Fits (q : ℚ) : Prop := Rounding.binary64.Fixed q ∧ |q| < Double.limit

instance : DecidablePred Double.Fits := fun _ => inferInstanceAs (Decidable (_ ∧ _))

/-- A double-precision number. The sign of a zero is left out. -/
inductive Double where
  | finite (q : ℚ) (fits : Double.Fits q)
  | infinite (negative : Bool)
  | nan
  deriving DecidableEq, Repr

namespace Double

/-- The nearest double, infinite beyond the range. -/
@[irreducible] def ofRat (q : ℚ) : Double :=
  if h : |Rounding.binary64.round q| < limit then
    finite (Rounding.binary64.round q) ⟨Rounding.binary64.fixed_round q, h⟩
  else infinite (decide (q < 0))

def ofNat (n : Nat) : Double := ofRat n

instance : OfNat Double n := ⟨ofNat n⟩

/-- Literals are read as the source has them. -/
instance : OfScientific Double := ⟨fun mantissa negative exponent =>
  ofRat (OfScientific.ofScientific mantissa negative exponent)⟩

def isFinite : Double → Bool
  | finite .. => true
  | infinite _ | nan => false

/-- The number that a finite one stands for. -/
def toRat : Double → ℚ
  | finite q _ => q
  | infinite _ | nan => 0

def add : Double → Double → Double
  | finite a _, finite b _ => ofRat (a + b)
  | finite .., infinite n => infinite n
  | infinite n, finite .. => infinite n
  | infinite m, infinite n => if m = n then infinite m else nan
  | nan, _ => nan
  | _, nan => nan

/-- An infinity taken so many times. -/
def scaled (q : ℚ) (negative : Bool) : Double :=
  if q = 0 then nan else infinite (negative ^^ decide (q < 0))

def mul : Double → Double → Double
  | finite a _, finite b _ => ofRat (a * b)
  | finite a _, infinite n => scaled a n
  | infinite n, finite a _ => scaled a n
  | infinite m, infinite n => infinite (m ^^ n)
  | nan, _ => nan
  | _, nan => nan

def div : Double → Double → Double
  | finite a _, finite b _ =>
    if b ≠ 0 then ofRat (a / b) else if a = 0 then nan else infinite (decide (a < 0))
  | finite .., infinite _ => 0
  | infinite n, finite b _ => infinite (n ^^ decide (b < 0))
  | infinite _, infinite _ => nan
  | nan, _ => nan
  | _, nan => nan

/-- No comparison with what is no number holds. -/
def lt : Double → Double → Bool
  | finite a _, finite b _ => a < b
  | finite .., infinite n => !n
  | infinite n, finite .. => n
  | infinite m, infinite n => m && !n
  | nan, _ => false
  | _, nan => false

def le : Double → Double → Bool
  | finite a _, finite b _ => a ≤ b
  | finite .., infinite n => !n
  | infinite n, finite .. => n
  | infinite m, infinite n => m || !n
  | nan, _ => false
  | _, nan => false

/-- Is the rational number above it? -/
def ltRat : Double → ℚ → Bool
  | finite a _, q => a < q
  | infinite n, _ => n
  | nan, _ => false

instance : Add Double := ⟨add⟩

instance : Mul Double := ⟨mul⟩

instance : Div Double := ⟨div⟩

example : (0.1 + 0.2 : Double) ≠ 0.3 ∧ (1e303 * 1000000 : Double) = infinite false ∧
    (1 + 1e-17 : Double) = 1 := by
  decide +kernel

section Text

/-- The number that decimal digits write. -/
def ofDigits (digits : List Char) : Nat :=
  digits.foldl (fun n d => n * 10 + (d.toNat - '0'.toNat)) 0

def wholeDigits (cs : List Char) : Option Nat :=
  if cs ≠ [] ∧ cs.all Char.isDigit then some (ofDigits cs) else none

/-- A sign at the front, if there is one, and whether it is a minus. -/
def sign : List Char → Bool × List Char
  | '-' :: cs => (true, cs)
  | '+' :: cs => (false, cs)
  | cs => (false, cs)

def exponent : List Char → Option Int
  | [] => some 0
  | c :: cs =>
    if c = 'e' ∨ c = 'E' then
      (wholeDigits (sign cs).2).map fun n => if (sign cs).1 then -(n : Int) else n
    else none

def shifted (n : Nat) (e : Int) : ℚ :=
  if 0 ≤ e then (n : ℚ) * 10 ^ e.toNat else (n : ℚ) / 10 ^ (-e).toNat

/-- Digits with a point before, among or after them, then an exponent. -/
def decimal (cs : List Char) : Option ℚ :=
  let (whole, rest) := cs.span Char.isDigit
  let (fraction, rest) :=
    match rest with
    | '.' :: rest => rest.span Char.isDigit
    | rest => ([], rest)
  if whole ++ fraction = [] then none
  else (exponent rest).map fun e => shifted (ofDigits (whole ++ fraction)) (e - fraction.length)

/-- The number that a text is read as. -/
def parse (s : String) : Option Double :=
  let (negative, cs) := sign s.toList
  let word := Str.toAsciiLowercase (String.ofList cs)
  if word = "inf" ∨ word = "infinity" then some (infinite negative)
  else if word = "nan" then some nan
  else (decimal cs).map fun q => ofRat (if negative then -q else q)

example : parse "-1.5e-3" = some (ofRat (-3 / 2000)) ∧ parse ".5" = some 0.5 ∧
    parse "1e" = none ∧ parse "." = none ∧ parse "-INF" = some (infinite true) ∧
    parse "1e309" = some (infinite false) := by
  decide +kernel

/-- The whole number next to a quotient, of two that are as near the even one. -/
def roundedQuotient (n d : Nat) : Nat :=
  let rest := n % d
  if d < 2 * rest ∨ (d = 2 * rest ∧ n / d % 2 = 1) then n / d + 1 else n / d

/-- With four digits behind the point. -/
def fixed4 : Double → String
  | finite q _ =>
    let units := roundedQuotient (q.num.natAbs * 10000) q.den
    let digits := Nat.toDigits 10 (units % 10000)
    (if q < 0 then "-" else "") ++ toString (units / 10000) ++ "." ++
      String.ofList (List.replicate (4 - digits.length) '0' ++ digits)
  | infinite negative => if negative then "-inf" else "inf"
  | nan => "NaN"

example : fixed4 (ofRat (-12345 / 100000)) = "-0.1235" ∧ fixed4 2 = "2.0000" := by
  decide +kernel

end Text

/-- The number that the bits stand for. -/
def ofBits (x : F64) : Double :=
  let exponent : Nat := F64.magnitude x / 2 ^ 52
  let fraction : Nat := F64.magnitude x % 2 ^ 52
  let negative : Bool := F64.signBit ≤ x.toNat
  if exponent = 2047 then (if fraction = 0 then infinite negative else nan)
  else
    let q : ℚ :=
      if exponent = 0 then (fraction : ℚ) / 2 ^ 1074
      else ((2 ^ 52 + fraction : Nat) : ℚ) * 2 ^ exponent / 2 ^ 1075
    ofRat (if negative then -q else q)

example : ofBits F64.one = 1 ∧ ofBits 0xC008000000000000 = ofRat (-3) ∧
    ofBits 0x7FF0000000000000 = infinite false := by
  decide +kernel

section Arithmetic

variable {a b p q : ℚ} {x y z : Double}

theorem lt_limit (h : q ≤ 2 ^ 53) : q < limit := by
  rw [limit]
  exact h.trans_lt (pow_lt_pow_right₀ one_lt_two (by norm_num))

theorem limit_pos : 0 < limit := lt_limit (by norm_num)

theorem fits_natCast {n : Nat} (h : n ≤ 2 ^ 53) : Fits n := by
  refine ⟨Rounding.binary64.natCast n h, ?_⟩
  have hn : (n : ℚ) ≤ 2 ^ 53 := by exact_mod_cast h
  rw [Nat.abs_cast]
  exact lt_limit hn

theorem fits_zero : Fits 0 := by simpa using fits_natCast (Nat.zero_le _)

theorem ofRat_of_fits (h : Fits q) : ofRat q = finite q h := by
  obtain ⟨hfixed, hrange⟩ := h
  have hround : Rounding.binary64.round q = q := hfixed
  unfold ofRat
  simp only [hround, hrange, dif_pos]

theorem zero_def : (0 : Double) = finite 0 fits_zero := by
  rw [← ofRat_of_fits]
  exact congrArg ofRat Nat.cast_zero

theorem ofRat_zero : ofRat 0 = 0 := congrArg ofRat Nat.cast_zero.symm

theorem ofNat_eq {n : Nat} (h : n ≤ 2 ^ 53) : ofNat n = finite n (fits_natCast h) :=
  ofRat_of_fits _

theorem ofRat_ne_nan (q : ℚ) : ofRat q ≠ nan := by
  unfold ofRat
  split <;> exact Double.noConfusion

theorem eq_finite (h : x.isFinite = true) : ∃ hfits, x = finite x.toRat hfits := by
  cases x with
  | finite q hfits => exact ⟨hfits, rfl⟩
  | infinite n => cases h
  | nan => cases h

theorem finite_add (ha : Fits a) (hb : Fits b) :
    finite a ha + finite b hb = ofRat (a + b) := rfl

theorem finite_mul (ha : Fits a) (hb : Fits b) :
    finite a ha * finite b hb = ofRat (a * b) := rfl

@[simp] theorem nan_add (x : Double) : nan + x = nan := by
  cases x <;> rfl

@[simp] theorem add_nan (x : Double) : x + nan = nan := by
  cases x <;> rfl

@[simp] theorem mul_nan (x : Double) : x * nan = nan := by
  cases x <;> rfl

@[simp] protected theorem add_zero (x : Double) : x + 0 = x := by
  rw [zero_def]
  cases x with
  | finite a ha => rw [finite_add, add_zero, ofRat_of_fits ha]
  | infinite n => rfl
  | nan => rfl

@[simp] protected theorem zero_add (x : Double) : 0 + x = x := by
  rw [zero_def]
  cases x with
  | finite a ha => rw [finite_add, zero_add, ofRat_of_fits ha]
  | infinite n => rfl
  | nan => rfl

/-- Zero times a number is zero, and times what is none, or infinite, it is no number. -/
theorem zero_mul_cases (x : Double) : x.isFinite = true ∧ 0 * x = 0 ∨ 0 * x = nan := by
  rw [zero_def]
  cases x with
  | finite a ha =>
    left
    rw [finite_mul, zero_mul, ofRat_zero, ← zero_def]
    exact ⟨rfl, rfl⟩
  | infinite n => exact .inr rfl
  | nan => exact .inr rfl

protected theorem zero_mul (h : x.isFinite = true) : 0 * x = 0 := by
  obtain ⟨hfits, hx⟩ := eq_finite h
  rw [hx, zero_def, finite_mul, zero_mul, ofRat_zero, zero_def]

protected theorem one_mul (h : x.isFinite = true) : 1 * x = x := by
  obtain ⟨hfits, hx⟩ := eq_finite h
  have hone : (1 : Double) = finite (1 : Nat) (fits_natCast Nat.one_le_two_pow) :=
    ofNat_eq Nat.one_le_two_pow
  rw [hx, hone, finite_mul, Nat.cast_one, one_mul, ofRat_of_fits hfits]

theorem add_finite_ne_nan (hx : x ≠ nan) (hy : y.isFinite = true) : x + y ≠ nan := by
  obtain ⟨hfits, hy⟩ := eq_finite hy
  rw [hy]
  cases x with
  | finite a ha => exact ofRat_ne_nan _
  | infinite n => exact Double.noConfusion
  | nan => exact absurd rfl hx

theorem div_ofNat (ha : Fits a) (hpos : 0 < k) (hk : k ≤ 2 ^ 53) :
    finite a ha / ofNat k = ofRat (a / k) := by
  rw [ofNat_eq hk]
  exact if_pos (Nat.cast_ne_zero.mpr (Nat.ne_of_gt hpos))

theorem div_ofNat_ne_nan (hx : x.isFinite = true) (hpos : 0 < k) (hk : k ≤ 2 ^ 53) :
    x / ofNat k ≠ nan := by
  obtain ⟨hfits, hx⟩ := eq_finite hx
  rw [hx, div_ofNat hfits hpos hk]
  exact ofRat_ne_nan _

theorem eq_nan_of_mul_ofNat (hpos : 0 < k) (hk : k ≤ 2 ^ 53) (h : x * ofNat k = nan) :
    x = nan := by
  rw [ofNat_eq hk] at h
  cases x with
  | finite a ha => exact absurd h (ofRat_ne_nan _)
  | infinite n =>
    change scaled k n = nan at h
    rw [scaled, if_neg (Nat.cast_ne_zero.mpr (Nat.ne_of_gt hpos))] at h
    cases h
  | nan => rfl

end Arithmetic

section Order

variable {a b p q : ℚ} {x y z : Double}

@[simp] theorem finite_lt_finite {ha : Fits a} {hb : Fits b} :
    lt (finite a ha) (finite b hb) = true ↔ a < b := decide_eq_true_iff

@[simp] theorem finite_le_finite {ha : Fits a} {hb : Fits b} :
    le (finite a ha) (finite b hb) = true ↔ a ≤ b := decide_eq_true_iff

theorem le_refl (h : x ≠ nan) : le x x = true := by
  cases x with
  | finite a => exact finite_le_finite.mpr (Preorder.le_refl a)
  | infinite n => cases n <;> rfl
  | nan => exact absurd rfl h

/-- What is below something and is some number is not above it. -/
theorem not_lt_of_le (h : le x y = true) : lt y x = false := by
  cases x with
  | finite a =>
    cases y with
    | finite b => exact decide_eq_false (not_lt_of_ge (finite_le_finite.mp h))
    | infinite n =>
      cases n with
      | false => rfl
      | true => cases h
    | nan => rfl
  | infinite m =>
    cases y with
    | finite b =>
      cases m with
      | false => cases h
      | true => rfl
    | infinite n => cases m <;> cases n <;> first | rfl | cases h
    | nan => rfl
  | nan => cases h

theorem le_of_lt (h : lt x y = true) : le x y = true := by
  cases x with
  | finite a =>
    cases y with
    | finite b =>
      have hab : a < b := finite_lt_finite.mp h
      exact finite_le_finite.mpr (Std.le_of_lt hab)
    | infinite n => exact h
    | nan => cases h
  | infinite m =>
    cases y with
    | finite b => exact h
    | infinite n => cases m <;> cases n <;> first | rfl | cases h
    | nan => cases h
  | nan => cases h

theorem lt_nan (x : Double) : lt x nan = false := by
  cases x <;> rfl

theorem le_trans (hxy : le x y = true) (hyz : le y z = true) : le x z = true := by
  cases x with
  | finite a =>
    cases y with
    | finite b =>
      cases z with
      | finite c =>
        exact finite_le_finite.mpr
          (Preorder.le_trans a b c (finite_le_finite.mp hxy) (finite_le_finite.mp hyz))
      | infinite n => exact hyz
      | nan => cases hyz
    | infinite m =>
      cases z with
      | finite c =>
        cases m with
        | false => exact absurd hyz Bool.false_ne_true
        | true => exact absurd hxy Bool.false_ne_true
      | infinite n =>
        cases m with
        | false => exact hyz
        | true => exact absurd hxy Bool.false_ne_true
      | nan => cases hyz
    | nan => cases hxy
  | infinite l =>
    cases l with
    | false =>
      cases y with
      | finite b => cases hxy
      | infinite m =>
        cases m with
        | false => exact hyz
        | true => cases hxy
      | nan => cases hxy
    | true =>
      cases z with
      | finite c => rfl
      | infinite n => rfl
      | nan => cases y <;> cases hyz
  | nan => cases hxy

/-- Rounding keeps the order, also beyond the range. -/
theorem ofRat_mono (h : p ≤ q) : le (ofRat p) (ofRat q) = true := by
  have hround := Rounding.binary64.monotone h
  unfold ofRat
  split
  · next hp =>
    split
    · exact finite_le_finite.mpr hround
    · next hq =>
      rw [abs_lt, not_and_or, not_lt, not_lt] at hq
      rw [abs_lt] at hp
      have hpos : ¬ q < 0 := by
        intro hneg
        have hnonpos : Rounding.binary64.round q ≤ 0 := Rounding.round_nonpos hneg.le
        rcases hq with hlow | hhigh
        · exact not_le.mpr hp.1 (hround.trans hlow)
        · exact not_le.mpr limit_pos (hhigh.trans hnonpos)
      simp only [le, decide_eq_false hpos, Bool.not_false]
  · next hp =>
    rw [abs_lt, not_and_or, not_lt, not_lt] at hp
    split
    · next hq =>
      rw [abs_lt] at hq
      have hneg : p < 0 := by
        by_contra hpos
        have hnonneg : 0 ≤ Rounding.binary64.round p := Rounding.round_nonneg (not_lt.mp hpos)
        rcases hp with hlow | hhigh
        · exact not_le.mpr limit_pos (neg_nonneg.mp (hnonneg.trans hlow))
        · exact not_le.mpr hq.2 (hhigh.trans hround)
      exact decide_eq_true hneg
    · simp only [le, Bool.or_eq_true, decide_eq_true_eq, Bool.not_eq_true', decide_eq_false_iff_not]
      exact (lt_or_ge p 0).imp_right fun hpos => not_lt.mpr (hpos.trans h)

theorem zero_le_ofRat (h : 0 ≤ q) : le 0 (ofRat q) = true := by
  have hmono := ofRat_mono h
  rwa [ofRat_zero] at hmono

theorem ofRat_le_zero (h : q ≤ 0) : le (ofRat q) 0 = true := by
  have hmono := ofRat_mono h
  rwa [ofRat_zero] at hmono

@[simp] theorem zero_le_finite {ha : Fits a} : le 0 (finite a ha) = true ↔ 0 ≤ a := by
  rw [zero_def, finite_le_finite]

@[simp] theorem finite_le_zero {ha : Fits a} : le (finite a ha) 0 = true ↔ a ≤ 0 := by
  rw [zero_def, finite_le_finite]

theorem zero_lt_finite {ha : Fits a} : lt 0 (finite a ha) = true ↔ 0 < a := by
  rw [zero_def, finite_lt_finite]

theorem zero_le_cases (h : le 0 x = true) :
    (∃ a ha, x = finite a ha ∧ 0 ≤ a) ∨ x = infinite false := by
  cases x with
  | finite a ha => exact .inl ⟨a, ha, rfl, zero_le_finite.mp h⟩
  | infinite n =>
    rw [zero_def] at h
    cases n with
    | false => exact .inr rfl
    | true => cases h
  | nan =>
    rw [zero_def] at h
    cases h

theorem le_zero_cases (h : le x 0 = true) :
    (∃ a ha, x = finite a ha ∧ a ≤ 0) ∨ x = infinite true := by
  cases x with
  | finite a ha => exact .inl ⟨a, ha, rfl, finite_le_zero.mp h⟩
  | infinite n =>
    rw [zero_def] at h
    cases n with
    | false => cases h
    | true => exact .inr rfl
  | nan =>
    rw [zero_def] at h
    cases h

theorem zero_lt_of_lt_of_le (hx : lt 0 x = true) (h : le x y = true) : lt 0 y = true := by
  rcases zero_le_cases (le_trans (le_of_lt hx) h) with ⟨b, hb, rfl, -⟩ | rfl
  · cases x with
    | finite a ha =>
      rw [zero_lt_finite] at hx ⊢
      exact hx.trans_le (finite_le_finite.mp h)
    | infinite n =>
      rw [zero_def] at hx
      cases n with
      | false => cases h
      | true => cases hx
    | nan => cases h
  · rw [zero_def]
    rfl

theorem zero_le_infinite : le 0 (infinite false) = true := by
  rw [zero_def]
  rfl

theorem infinite_le_zero : le (infinite true) 0 = true := by
  rw [zero_def]
  rfl

theorem add_nonneg (hx : le 0 x = true) (hy : le 0 y = true) : le 0 (x + y) = true := by
  rcases zero_le_cases hx with ⟨a, ha, rfl, hpos⟩ | rfl
  · rcases zero_le_cases hy with ⟨b, hb, rfl, hpos'⟩ | rfl
    · exact zero_le_ofRat (Rat.add_nonneg hpos hpos')
    · exact zero_le_infinite
  · rcases zero_le_cases hy with ⟨b, hb, rfl, hpos'⟩ | rfl
    · exact zero_le_infinite
    · exact zero_le_infinite

theorem add_nonpos (hx : le x 0 = true) (hy : le y 0 = true) : le (x + y) 0 = true := by
  rcases le_zero_cases hx with ⟨a, ha, rfl, hneg⟩ | rfl
  · rcases le_zero_cases hy with ⟨b, hb, rfl, hneg'⟩ | rfl
    · exact ofRat_le_zero (by linarith)
    · exact infinite_le_zero
  · rcases le_zero_cases hy with ⟨b, hb, rfl, hneg'⟩ | rfl
    · exact infinite_le_zero
    · exact infinite_le_zero

/-- Nothing gets less by what is not below zero. -/
theorem le_add (hy : le 0 y = true) (h : x + y ≠ nan) : le x (x + y) = true := by
  rcases zero_le_cases hy with ⟨b, hb, rfl, hpos⟩ | rfl
  · cases x with
    | finite a ha =>
      rw [finite_add, ← ofRat_of_fits ha]
      exact ofRat_mono (le_add_of_nonneg_right hpos)
    | infinite n => exact le_refl h
    | nan => exact absurd (nan_add _) h
  · cases x with
    | finite a ha => rfl
    | infinite m =>
      cases m with
      | false => rfl
      | true => exact absurd rfl h
    | nan => exact absurd rfl h

theorem lt_of_ltRat (hy : y.isFinite = true) (h : ltRat x y.toRat = true) : lt x y = true := by
  obtain ⟨hfits, hy⟩ := eq_finite hy
  rw [hy]
  cases x with
  | finite a ha => exact h
  | infinite n => exact h
  | nan => cases h

theorem not_ltRat_of_nonpos (hx : lt 0 x = true) (hq : q ≤ 0) : ltRat x q = false := by
  rcases zero_le_cases (le_of_lt hx) with ⟨a, ha, rfl, hpos⟩ | rfl
  · exact decide_eq_false (not_lt.mpr (hq.trans hpos))
  · rfl

end Order

/-- A finite number that is not below zero. -/
def IsAmount (x : Double) : Prop := x.isFinite = true ∧ le 0 x = true

instance : DecidablePred IsAmount := fun _ => inferInstanceAs (Decidable (_ ∧ _))

namespace IsAmount

variable {x y : Double}

theorem ofRat {q : ℚ} (hq : 0 ≤ q) (htop : q ≤ 2 ^ 53) : IsAmount (Double.ofRat q) := by
  refine ⟨?_, zero_le_ofRat hq⟩
  have hround : |Rounding.binary64.round q| < limit := by
    rw [abs_of_nonneg (Rounding.round_nonneg hq)]
    exact lt_limit (Rounding.round_le Rounding.binary64.fixed_two_pow htop)
  unfold Double.ofRat
  rw [dif_pos hround]
  rfl

theorem ofNat_div {n k : Nat} (hn : n ≤ 2 ^ 53) (hpos : 0 < k) (hk : k ≤ 2 ^ 53) :
    IsAmount (ofNat n / ofNat k) := by
  rw [ofNat_eq hn, div_ofNat _ hpos hk]
  apply ofRat (div_nonneg (Nat.cast_nonneg n) (Nat.cast_nonneg k))
  have hone : (1 : ℚ) ≤ k := Nat.one_le_cast.mpr hpos
  have htop : (n : ℚ) ≤ 2 ^ 53 := by exact_mod_cast hn
  exact (div_le_self (Nat.cast_nonneg n) hone).trans htop

theorem mul_nonneg (hx : IsAmount x) (hy : IsAmount y) : le 0 (x * y) = true := by
  obtain ⟨⟨hfits, heq⟩, ⟨hfits', heq'⟩⟩ := And.intro (eq_finite hx.1) (eq_finite hy.1)
  obtain ⟨-, hx⟩ := hx
  obtain ⟨-, hy⟩ := hy
  rw [heq, zero_le_finite] at hx
  rw [heq', zero_le_finite] at hy
  rw [heq, heq', finite_mul]
  exact zero_le_ofRat (Rat.mul_nonneg hx hy)

theorem mul_nonpos (hx : IsAmount x) (hfinite : y.isFinite = true) (hy : le y 0 = true) :
    le (x * y) 0 = true := by
  obtain ⟨⟨hfits, heq⟩, ⟨hfits', heq'⟩⟩ := And.intro (eq_finite hx.1) (eq_finite hfinite)
  obtain ⟨-, hx⟩ := hx
  rw [heq, zero_le_finite] at hx
  rw [heq', finite_le_zero] at hy
  rw [heq, heq', finite_mul]
  exact ofRat_le_zero (mul_nonpos_of_nonneg_of_nonpos hx hy)

end IsAmount

section Sums

variable {x y : Double}

theorem foldl_add_nan (cs : List Double) : cs.foldl (· + ·) nan = nan := by
  induction cs with
  | nil => rfl
  | cons c cs ih => rw [List.foldl_cons, nan_add, ih]

/-- A sum that is some number is not below what it began with, when nothing below zero was added. -/
theorem le_foldl_add {cs : List Double} (hcs : ∀ c ∈ cs, le 0 c = true)
    (h : cs.foldl (· + ·) x ≠ nan) : le x (cs.foldl (· + ·) x) = true := by
  induction cs generalizing x with
  | nil => exact le_refl h
  | cons c cs ih =>
    obtain ⟨hc, hcs⟩ := List.forall_mem_cons.mp hcs
    rw [List.foldl_cons] at h ⊢
    have hnext : x + c ≠ nan := by
      intro hnan
      rw [hnan, foldl_add_nan] at h
      exact h rfl
    exact le_trans (le_add hc hnext) (ih hcs h)

/-- No addition of the numbers, one after the other, is rounded. -/
def SumsExactly : Double → List Double → Prop
  | x, [] => x.isFinite = true
  | x, c :: cs =>
    x.isFinite = true ∧ c.isFinite = true ∧ Fits (x.toRat + c.toRat) ∧ SumsExactly (x + c) cs

instance decidableSumsExactly : ∀ (x : Double) (cs : List Double), Decidable (SumsExactly x cs)
  | x, [] => inferInstanceAs (Decidable (x.isFinite = true))
  | x, c :: cs =>
    have := decidableSumsExactly (x + c) cs
    inferInstanceAs (Decidable (_ ∧ _ ∧ _ ∧ _))

theorem toRat_add (hx : x.isFinite = true) (hy : y.isFinite = true)
    (h : Fits (x.toRat + y.toRat)) : (x + y).toRat = x.toRat + y.toRat := by
  obtain ⟨hfits, heq⟩ := eq_finite hx
  obtain ⟨hfits', heq'⟩ := eq_finite hy
  have hsum : x + y = finite (x.toRat + y.toRat) h := by
    rw [← ofRat_of_fits]
    nth_rewrite 1 [heq, heq']
    rfl
  rw [hsum]
  rfl

theorem SumsExactly.toRat_foldl {cs : List Double} (h : SumsExactly x cs) :
    (cs.foldl (· + ·) x).toRat = x.toRat + (cs.map toRat).sum := by
  induction cs generalizing x with
  | nil => exact (add_zero _).symm
  | cons c cs ih =>
    obtain ⟨hx, hc, hfits, hrest⟩ := h
    calc ((c :: cs).foldl (· + ·) x).toRat
        = (cs.foldl (· + ·) (x + c)).toRat := rfl
      _ = (x + c).toRat + (cs.map toRat).sum := ih hrest
      _ = x.toRat + ((c :: cs).map toRat).sum := by
        rw [toRat_add hx hc hfits, List.map_cons, List.sum_cons, add_assoc]

theorem SumsExactly.isFinite_foldl {cs : List Double} (h : SumsExactly x cs) :
    (cs.foldl (· + ·) x).isFinite = true := by
  induction cs generalizing x with
  | nil => exact h
  | cons c cs ih => exact ih h.2.2.2

end Sums

end Double
