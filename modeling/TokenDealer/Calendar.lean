import Mathlib.Algebra.Ring.Nat
import TokenDealer.Str

set_option autoImplicit true

namespace Calendar

/-- Days from the first day of the year zero to the first day of a year. -/
def daysBefore (year : Int) : Int :=
  365 * year + (year + 3) / 4 - (year + 99) / 100 + (year + 399) / 400

/-- The mean length of a year gives the year or one next to it. -/
def yearOf (day : Int) : Int :=
  let guess := day * 400 / 146097
  if day < daysBefore guess then guess - 1
  else if daysBefore (guess + 1) ≤ day then guess + 1
  else guess

def isLeap (year : Int) : Bool := year % 4 = 0 && (year % 100 ≠ 0 || year % 400 = 0)

def dayOfYear (day : Int) : Nat := (day - daysBefore (yearOf day)).toNat

/-- The first days of the months after January, counted from the start of the year. -/
def monthStarts (leap : Bool) : List Nat :=
  [31, 59, 90, 120, 151, 181, 212, 243, 273, 304, 334].map fun d =>
    if leap && 31 < d then d + 1 else d

/-- From zero on. -/
def monthIndex (leap : Bool) (dayOfYear : Nat) : Nat :=
  (monthStarts leap).countP fun start => start ≤ dayOfYear

def monthStart (leap : Bool) (index : Nat) : Nat := (0 :: monthStarts leap).getD index 0

structure Date where
  year : Int
  month : Nat
  day : Nat
  deriving DecidableEq, Repr

def date (day : Int) : Date :=
  let year := yearOf day
  let leap := isLeap year
  let index := monthIndex leap (dayOfYear day)
  ⟨year, index + 1, dayOfYear day - monthStart leap index + 1⟩

example : date 739675 = ⟨2025, 2, 28⟩ := by decide

/-- A number in so many decimal digits. -/
def digits : Nat → Nat → List Char
  | 0, _ => []
  | k + 1, n => digits k (n / 10) ++ [Nat.digitChar (n % 10)]

def yearText (year : Int) : List Char :=
  if 0 ≤ year ∧ year ≤ 9999 then digits 4 year.toNat
  else (if 0 ≤ year then '+' else '-') ::
    (if year.natAbs ≤ 9999 then digits 4 year.natAbs else (Nat.repr year.natAbs).toList)

def dateText (day : Int) : List Char :=
  let d := date day
  yearText d.year ++ '-' :: (digits 2 d.month ++ '-' :: digits 2 d.day)

theorem daysBefore_yearOf (day : Int) :
    daysBefore (yearOf day) ≤ day ∧ day < daysBefore (yearOf day + 1) := by
  rw [yearOf]
  generalize hguess : day * 400 / 146097 = guess
  have hbounds : 146097 * guess ≤ day * 400 ∧ day * 400 < 146097 * guess + 146097 := by omega
  by_cases hearly : day < daysBefore guess
  · rw [if_pos hearly, Int.sub_add_cancel]
    refine ⟨?_, hearly⟩
    rw [daysBefore]
    omega
  · rw [if_neg hearly]
    by_cases hlate : daysBefore (guess + 1) ≤ day
    · rw [if_pos hlate]
      refine ⟨hlate, ?_⟩
      rw [daysBefore]
      omega
    · rw [if_neg hlate]
      omega

theorem daysBefore_mono (h : a ≤ b) : daysBefore a ≤ daysBefore b := by
  rw [daysBefore, daysBefore]
  omega

theorem yearOf_mono (h : a ≤ b) : yearOf a ≤ yearOf b := by
  have ha := daysBefore_yearOf a
  have hb := daysBefore_yearOf b
  by_cases hle : yearOf a ≤ yearOf b
  · exact hle
  · have hdays : daysBefore (yearOf b + 1) ≤ daysBefore (yearOf a) := daysBefore_mono (by omega)
    omega

theorem dayOfYear_lt (day : Int) : dayOfYear day < 366 := by
  have hday := daysBefore_yearOf day
  have hyear : daysBefore (yearOf day + 1) ≤ daysBefore (yearOf day) + 366 := by
    rw [daysBefore, daysBefore]
    omega
  rw [dayOfYear]
  omega

theorem lt_iff_of_yearOf_eq (h : yearOf a = yearOf b) : a < b ↔ dayOfYear a < dayOfYear b := by
  have ha := daysBefore_yearOf a
  have hb := daysBefore_yearOf b
  rw [dayOfYear, dayOfYear]
  rw [h] at ha ⊢
  omega

theorem monthIndex_mono (leap : Bool) (h : d ≤ e) : monthIndex leap d ≤ monthIndex leap e := by
  apply List.countP_mono_left
  intro start _ hstart
  rw [decide_eq_true_eq] at hstart ⊢
  exact Nat.le_trans hstart h

theorem monthIndex_le (leap : Bool) (d : Nat) : monthIndex leap d ≤ 11 := List.countP_le_length

theorem getD_countP_le {starts : List Nat} (hsorted : starts.Pairwise (· < ·))
    (hfirst : first ≤ d) :
    (first :: starts).getD (starts.countP fun start => start ≤ d) 0 ≤ d := by
  induction starts generalizing first with
  | nil => exact hfirst
  | cons x xs ih =>
    by_cases hx : x ≤ d
    · have hcount : (x :: xs).countP (fun start => start ≤ d) =
          xs.countP (fun start => start ≤ d) + 1 := List.countP_cons_of_pos (decide_eq_true hx)
      rw [hcount]
      exact ih hsorted.of_cons hx
    · have hnone : ∀ y ∈ x :: xs, ¬ decide (y ≤ d) = true := by
        intro y hy
        rw [decide_eq_true_eq]
        rcases List.mem_cons.mp hy with rfl | hy
        · exact hx
        · have hlt : x < y := List.rel_of_pairwise_cons hsorted hy
          omega
      rw [List.countP_eq_zero.mpr hnone]
      exact hfirst

theorem monthStart_le (leap : Bool) (d : Nat) : monthStart leap (monthIndex leap d) ≤ d :=
  getD_countP_le (by cases leap <;> decide) (Nat.zero_le d)

theorem dayOfMonth_lt (leap : Bool) :
    ∀ d < 366, d - monthStart leap (monthIndex leap d) < 32 := by
  cases leap <;> decide +kernel

/-- Within a year the month and then the day tell which day is earlier. -/
theorem lt_iff_monthIndex (leap : Bool) (d e : Nat) : d < e ↔
    monthIndex leap d < monthIndex leap e ∨
      monthIndex leap d = monthIndex leap e ∧
        d - monthStart leap (monthIndex leap d) < e - monthStart leap (monthIndex leap e) := by
  have hd := monthStart_le leap d
  have he := monthStart_le leap e
  constructor
  · intro h
    rcases Nat.lt_or_eq_of_le (monthIndex_mono leap (Nat.le_of_lt h)) with hlt | heq
    · exact .inl hlt
    · rw [heq] at hd ⊢
      exact .inr ⟨rfl, by omega⟩
  · rintro (hlt | ⟨heq, hlt⟩)
    · rcases Nat.lt_or_ge d e with h | h
      · exact h
      · exact absurd (monthIndex_mono leap h) (Nat.not_le_of_lt hlt)
    · rw [heq] at hd hlt
      omega

theorem digitChar_inj : ∀ a < 10, ∀ b < 10, Nat.digitChar a = Nat.digitChar b → a = b := by
  decide

theorem digitChar_lt : ∀ a < 10, ∀ b < 10,
    ((Nat.digitChar a).toNat < (Nat.digitChar b).toNat ↔ a < b) := by
  decide

/-- Numbers of equal width are ordered as texts as they are as numbers. -/
theorem lexBefore_digits (ha : a < 10 ^ k) (hb : b < 10 ^ k) (s t : List Char) :
    Str.lexBefore (digits k a ++ s) (digits k b ++ t) =
      if a = b then Str.lexBefore s t else decide (a < b) := by
  induction k generalizing a b s t with
  | zero =>
    have hab : a = b := by omega
    rw [if_pos hab]
    rfl
  | succ k ih =>
    have ha' : a / 10 < 10 ^ k := by omega
    have hb' : b / 10 < 10 ^ k := by omega
    have hlast : ∀ n : Nat, n % 10 < 10 := fun n => Nat.mod_lt n (by decide)
    simp only [digits, List.append_assoc, List.singleton_append]
    rw [ih ha' hb', Str.lexBefore]
    by_cases hab : a = b
    · rw [if_pos hab, if_pos (congrArg (· / 10) hab),
        if_pos (congrArg (fun n => Nat.digitChar (n % 10)) hab)]
    · rw [if_neg hab]
      by_cases hfront : a / 10 = b / 10
      · have hne : Nat.digitChar (a % 10) ≠ Nat.digitChar (b % 10) := by
          intro h
          have hmod := digitChar_inj _ (hlast a) _ (hlast b) h
          omega
        rw [if_pos hfront, if_neg hne, decide_eq_decide,
          digitChar_lt _ (hlast a) _ (hlast b)]
        omega
      · rw [if_neg hfront, decide_eq_decide]
        omega

/-- The years that are written with four digits. -/
def FourDigits (day : Int) : Prop := 0 ≤ yearOf day ∧ yearOf day ≤ 9999

/-- Days are ordered by year, month and day of the month. -/
theorem lt_iff_date (a b : Int) : a < b ↔ (date a).year < (date b).year ∨
    (date a).year = (date b).year ∧ ((date a).month < (date b).month ∨
      (date a).month = (date b).month ∧ (date a).day < (date b).day) := by
  dsimp only [date]
  by_cases hsame : yearOf a = yearOf b
  · rw [lt_iff_of_yearOf_eq hsame, hsame, lt_iff_monthIndex (isLeap (yearOf b))]
    omega
  · by_cases hlt : a < b
    · have hmono := yearOf_mono (Int.le_of_lt hlt)
      omega
    · have hmono := yearOf_mono (Int.not_lt.mp hlt)
      omega

theorem date_bounds (day : Int) : (date day).month < 10 ^ 2 ∧ (date day).day < 10 ^ 2 := by
  have hmonth := monthIndex_le (isLeap (yearOf day)) (dayOfYear day)
  have hday := dayOfMonth_lt (isLeap (yearOf day)) _ (dayOfYear_lt day)
  dsimp only [date]
  omega

/-- Dates in these years are ordered as texts as the days are. -/
theorem lexBefore_dateText (ha : FourDigits a) (hb : FourDigits b) (s t : List Char) :
    Str.lexBefore (dateText a ++ s) (dateText b ++ t) =
      if a = b then Str.lexBefore s t else decide (a < b) := by
  have hdash : ∀ s t : List Char,
      Str.lexBefore ('-' :: s) ('-' :: t) = Str.lexBefore s t := by
    intro s t
    rw [Str.lexBefore, if_pos rfl]
  have hyear : ∀ {n}, FourDigits n → yearText (date n).year = digits 4 (date n).year.toNat :=
    fun h => if_pos h
  have hyear_lt : ∀ {n}, FourDigits n → (date n).year.toNat < 10 ^ 4 := by
    rintro n ⟨-, h⟩
    dsimp only [date]
    omega
  have hyears : ∀ {m n}, FourDigits m → FourDigits n →
      ((date m).year.toNat < (date n).year.toNat ↔ (date m).year < (date n).year) := by
    rintro m n ⟨hm, -⟩ ⟨hn, -⟩
    dsimp only [date]
    omega
  have hltYear := hyears ha hb
  have hgtYear := hyears hb ha
  have hlt := lt_iff_date a b
  have hgt := lt_iff_date b a
  simp only [dateText, hyear ha, hyear hb, List.append_assoc, List.cons_append]
  rw [lexBefore_digits (hyear_lt ha) (hyear_lt hb), hdash,
    lexBefore_digits (date_bounds a).1 (date_bounds b).1, hdash,
    lexBefore_digits (date_bounds a).2 (date_bounds b).2]
  by_cases hab : a = b
  · subst hab
    simp only [if_true]
  · rw [if_neg hab]
    by_cases hy : (date a).year.toNat = (date b).year.toNat
    · rw [if_pos hy]
      by_cases hm : (date a).month = (date b).month
      · have hd : (date a).day ≠ (date b).day := by omega
        rw [if_pos hm, if_neg hd, decide_eq_decide]
        omega
      · rw [if_neg hm, decide_eq_decide]
        omega
    · rw [if_neg hy, decide_eq_decide]
      omega

/-- Instants are counted in nanoseconds from the first day of the year zero. -/
def nanosPerDay : Int := 86400000000000

def dayOf (t : Int) : Int := t / nanosPerDay

def secondOfDay (t : Int) : Nat := (t % nanosPerDay / 1000000000).toNat

def nanoOfSecond (t : Int) : Nat := (t % 1000000000).toNat

def clockText (t : Int) : List Char :=
  digits 2 (secondOfDay t / 3600) ++ ':' :: (digits 2 (secondOfDay t / 60 % 60) ++
    ':' :: digits 2 (secondOfDay t % 60))

/-- As many groups of three digits as it takes. -/
def fractionText (t : Int) : List Char :=
  let nanos := nanoOfSecond t
  if nanos = 0 then []
  else if nanos % 1000000 = 0 then '.' :: digits 3 (nanos / 1000000)
  else if nanos % 1000 = 0 then '.' :: digits 6 (nanos / 1000)
  else '.' :: digits 9 nanos

/-- In Coordinated Universal Time. -/
def rfc3339 (t : Int) : String :=
  String.ofList (dateText (dayOf t) ++ 'T' :: (clockText t ++ fractionText t ++
    ['+', '0', '0', ':', '0', '0']))

/-- What the database writes for the current time. -/
def sqlTimestamp (t : Int) : String :=
  String.ofList (dateText (dayOf t) ++ ' ' :: clockText t)

example : rfc3339 63907920000500000000 = "2025-02-28T00:00:00.500+00:00" := by decide +kernel

example : sqlTimestamp 63907920000500000000 = "2025-02-28 00:00:00" := by decide +kernel

theorem secondOfDay_lt (t : Int) : secondOfDay t < 86400 := by
  rw [secondOfDay, nanosPerDay]
  omega

/-- On one day the clock goes by hours, minutes and seconds. -/
theorem lexBefore_clockText (s t : Int) :
    Str.lexBefore (clockText s) (clockText t) = decide (secondOfDay s < secondOfDay t) := by
  have hcolon : ∀ s t : List Char,
      Str.lexBefore (':' :: s) (':' :: t) = Str.lexBefore s t := by
    intro s t
    rw [Str.lexBefore, if_pos rfl]
  have hs := secondOfDay_lt s
  have ht := secondOfDay_lt t
  have hlast := lexBefore_digits (k := 2) (a := secondOfDay s % 60) (b := secondOfDay t % 60)
    (by omega) (by omega) [] []
  rw [List.append_nil, List.append_nil] at hlast
  rw [clockText, clockText, lexBefore_digits (by omega) (by omega), hcolon,
    lexBefore_digits (by omega) (by omega), hcolon, hlast]
  by_cases hhour : secondOfDay s / 3600 = secondOfDay t / 3600
  · rw [if_pos hhour]
    by_cases hminute : secondOfDay s / 60 % 60 = secondOfDay t / 60 % 60
    · rw [if_pos hminute]
      by_cases hsecond : secondOfDay s % 60 = secondOfDay t % 60
      · rw [if_pos hsecond, Str.lexBefore, eq_comm, decide_eq_false_iff_not]
        omega
      · rw [if_neg hsecond, decide_eq_decide]
        omega
    · rw [if_neg hminute, decide_eq_decide]
      omega
  · rw [if_neg hhour, decide_eq_decide]
    omega

/-- Whole days later by whole seconds. -/
theorem add_days_lt_iff (s t : Int) (days : Nat) :
    s / 1000000000 + days * 86400 < t / 1000000000 ↔
      s / 1000000000 < (t - days * nanosPerDay) / 1000000000 := by
  rw [nanosPerDay]
  omega

theorem dayOf_mono (h : s / 1000000000 ≤ t / 1000000000) : dayOf s ≤ dayOf t := by
  rw [dayOf, dayOf, nanosPerDay]
  omega

section

variable {s t : Int} (hs : FourDigits (dayOf s)) (ht : FourDigits (dayOf t))

include hs ht

/-- Between the two formats only the dates count: on one date a blank goes before every letter. -/
theorem before_rfc3339 : Str.before (sqlTimestamp s) (rfc3339 t) = true ↔ dayOf s ≤ dayOf t := by
  rw [Str.before, sqlTimestamp, rfc3339, String.toList_ofList, String.toList_ofList,
    lexBefore_dateText hs ht]
  by_cases hday : dayOf s = dayOf t
  · rw [if_pos hday]
    exact iff_of_true rfl (Int.le_of_eq hday)
  · rw [if_neg hday, decide_eq_true_eq]
    omega

theorem rfc3339_before : Str.before (rfc3339 t) (sqlTimestamp s) = true ↔ dayOf t < dayOf s := by
  rw [Str.before, rfc3339, sqlTimestamp, String.toList_ofList, String.toList_ofList,
    lexBefore_dateText ht hs]
  by_cases hday : dayOf t = dayOf s
  · rw [if_pos hday]
    exact iff_of_false Bool.false_ne_true (Int.not_lt.mpr (Int.le_of_eq hday.symm))
  · rw [if_neg hday, decide_eq_true_eq]

/-- The texts of the database are ordered as the instants are, second by second. -/
theorem sqlTimestamp_before :
    Str.before (sqlTimestamp s) (sqlTimestamp t) = true ↔ s / 1000000000 < t / 1000000000 := by
  have hblank : Str.lexBefore (' ' :: clockText s) (' ' :: clockText t) =
      Str.lexBefore (clockText s) (clockText t) := by
    rw [Str.lexBefore, if_pos rfl]
  rw [Str.before, sqlTimestamp, sqlTimestamp, String.toList_ofList, String.toList_ofList,
    lexBefore_dateText hs ht, hblank, lexBefore_clockText, secondOfDay, secondOfDay]
  by_cases hday : dayOf s = dayOf t
  · rw [if_pos hday, decide_eq_true_eq]
    rw [dayOf, dayOf, nanosPerDay] at hday
    rw [nanosPerDay]
    omega
  · rw [if_neg hday, decide_eq_true_eq]
    rw [dayOf, dayOf, nanosPerDay] at hday ⊢
    omega

end

end Calendar
