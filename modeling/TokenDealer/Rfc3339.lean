import TokenDealer.Calendar

set_option autoImplicit true

namespace Rfc3339

open Calendar

/-- The number that decimal digits write. -/
def value (cs : List Char) : Nat := cs.foldl (fun n c => n * 10 + (c.toNat - '0'.toNat)) 0

/-- So many digits at the front, and what stands behind them. -/
def number (k : Nat) (cs : List Char) : Option (Nat × List Char) :=
  if k ≤ cs.length ∧ (cs.take k).all Char.isDigit = true then some (value (cs.take k), cs.drop k)
  else none

def skip (p : Char → Bool) : List Char → Option (List Char)
  | [] => none
  | c :: cs => if p c then some cs else none

def isDash (c : Char) : Bool := c = '-'

def isColon (c : Char) : Bool := c = ':'

/-- Between the date and the time. -/
def isSeparator (c : Char) : Bool := c = 'T' || c = 't' || c = ' '

def dateOf (cs : List Char) : Option (Date × List Char) := do
  let (year, cs) ← number 4 cs
  let cs ← skip isDash cs
  let (month, cs) ← number 2 cs
  let cs ← skip isDash cs
  let (day, cs) ← number 2 cs
  return (⟨year, month, day⟩, cs)

/-- The day of a date, counted from the first day of the year zero. -/
def dayNumber (d : Date) : Int :=
  daysBefore d.year + monthStart (isLeap d.year) (d.month - 1) + d.day - 1

/-- The second of the day. Leap seconds are left out. -/
def clockOf (cs : List Char) : Option (Nat × List Char) := do
  let (hour, cs) ← number 2 cs
  let cs ← skip isColon cs
  let (minute, cs) ← number 2 cs
  let cs ← skip isColon cs
  let (second, cs) ← number 2 cs
  if hour < 24 ∧ minute < 60 ∧ second < 60 then return (hour * 3600 + minute * 60 + second, cs)
  else none

/-- Nanoseconds, from as many digits as there are; those behind the ninth are of no matter. -/
def fractionOf : List Char → Option (Nat × List Char)
  | '.' :: cs =>
    let digits := cs.takeWhile Char.isDigit
    if digits = [] then none
    else some (value ((digits ++ List.replicate 9 '0').take 9), cs.dropWhile Char.isDigit)
  | cs => some (0, cs)

/-- The seconds by which the zone is ahead. -/
def offsetOf : List Char → Option Int
  | ['Z'] => some 0
  | ['z'] => some 0
  | sign :: cs => do
    let (hour, cs) ← number 2 cs
    let cs ← skip isColon cs
    let (minute, cs) ← number 2 cs
    let seconds : Int := hour * 3600 + minute * 60
    if cs ≠ [] ∨ 24 ≤ hour ∨ 60 ≤ minute then none
    else if sign = '+' then some seconds
    else if sign = '-' then some (-seconds)
    else none
  | [] => none

/-- A date, a time of the day and a zone. -/
def parse (s : String) : Option Int := do
  let (date, cs) ← dateOf s.toList
  let cs ← skip isSeparator cs
  let (second, cs) ← clockOf cs
  let (nano, cs) ← fractionOf cs
  let offset ← offsetOf cs
  if Calendar.date (dayNumber date) = date then
    return dayNumber date * nanosPerDay + (second - offset) * 1000000000 + nano
  else none

example : parse "1985-04-12T23:20:50.52Z" = parse "1985-04-13 00:20:50.520+01:00" ∧
    parse "1985-02-29T23:20:50Z" = none ∧ parse "1985-04-12 23:20:50" = none := by
  decide +kernel

section Digits

theorem toNat_digitChar : ∀ d < 10, (Nat.digitChar d).toNat - '0'.toNat = d := by
  decide

theorem length_digits (k n : Nat) : (digits k n).length = k := by
  induction k generalizing n with
  | zero => rfl
  | succ k ih => rw [digits, List.length_append, ih, List.length_singleton]

theorem isDigit_digits (k n : Nat) : (digits k n).all Char.isDigit = true := by
  induction k generalizing n with
  | zero => rfl
  | succ k ih =>
    have hlast : (Nat.digitChar (n % 10)).isDigit = true := by
      rw [Nat.isDigit_digitChar, decide_eq_true_eq]
      exact Nat.mod_lt n (by decide)
    rw [digits, List.all_append, ih, List.all_cons, hlast]
    rfl

theorem value_digits (h : n < 10 ^ k) : value (digits k n) = n := by
  induction k generalizing n with
  | zero =>
    have hzero : n = 0 := by omega
    rw [hzero]
    rfl
  | succ k ih =>
    have hfront : n / 10 < 10 ^ k := by omega
    have hvalue := ih hfront
    rw [value] at hvalue
    rw [digits, value, List.foldl_append, hvalue, List.foldl_cons, List.foldl_nil,
      toNat_digitChar _ (Nat.mod_lt n (by decide))]
    omega

theorem number_digits (h : n < 10 ^ k) (rest : List Char) :
    number k (digits k n ++ rest) = some (n, rest) := by
  have htake : (digits k n ++ rest).take k = digits k n :=
    List.take_left' (length_digits k n)
  have hdrop : (digits k n ++ rest).drop k = rest := List.drop_left' (length_digits k n)
  have hlength : k ≤ (digits k n ++ rest).length := by
    rw [List.length_append, length_digits]
    exact Nat.le_add_right k _
  rw [number, htake, hdrop, if_pos ⟨hlength, isDigit_digits k n⟩, value_digits h]

/-- Zeros behind a number are powers of ten. -/
theorem value_zeros (h : n < 10 ^ k) (j : Nat) :
    value (digits k n ++ List.replicate j '0') = n * 10 ^ j := by
  induction j with
  | zero => rw [List.replicate_zero, List.append_nil, value_digits h, Nat.pow_zero, Nat.mul_one]
  | succ j ih =>
    rw [value] at ih
    rw [List.replicate_succ', ← List.append_assoc, value, List.foldl_append, ih, List.foldl_cons,
      List.foldl_nil, Nat.pow_succ, Nat.mul_assoc]
    rfl

end Digits

section Parts

theorem dateOf_dateText (h : FourDigits day) (rest : List Char) :
    dateOf (dateText day ++ rest) = some (date day, rest) := by
  obtain ⟨hmonth, hday⟩ := date_bounds day
  have hyear : (date day).year.toNat < 10 ^ 4 := by
    dsimp only [date]
    exact (Int.toNat_lt h.1).mpr (Int.lt_add_one_of_le h.2)
  have hcast : ((date day).year.toNat : Int) = (date day).year := Int.toNat_of_nonneg h.1
  have htext : dateText day ++ rest = digits 4 (date day).year.toNat ++
      ('-' :: (digits 2 (date day).month ++ ('-' :: (digits 2 (date day).day ++ rest)))) := by
    have hfour : yearText (date day).year = digits 4 (date day).year.toNat := if_pos h
    simp only [dateText, hfour, List.append_assoc, List.cons_append]
  rw [htext, dateOf, number_digits hyear]
  simp only [Option.bind_eq_bind, Option.bind_some, skip, isDash, decide_true, if_true,
    number_digits hmonth, number_digits hday, hcast, Option.pure_def]

theorem dayNumber_date (day : Int) : dayNumber (date day) = day := by
  obtain ⟨hlow, -⟩ := daysBefore_yearOf day
  have hstart := monthStart_le (isLeap (yearOf day)) (dayOfYear day)
  have hday : (dayOfYear day : Int) = day - daysBefore (yearOf day) :=
    Int.toNat_of_nonneg (Int.sub_nonneg_of_le hlow)
  rw [dayNumber]
  dsimp only [date]
  rw [Nat.add_sub_cancel]
  omega

theorem clockOf_clockText (t : Int) (rest : List Char) :
    clockOf (clockText t ++ rest) = some (secondOfDay t, rest) := by
  have hday := secondOfDay_lt t
  have hhour : secondOfDay t / 3600 < 10 ^ 2 := by omega
  have hminute : secondOfDay t / 60 % 60 < 10 ^ 2 := by omega
  have hsecond : secondOfDay t % 60 < 10 ^ 2 := by omega
  have hvalid : secondOfDay t / 3600 < 24 ∧ secondOfDay t / 60 % 60 < 60 ∧
      secondOfDay t % 60 < 60 := by omega
  have hsum : secondOfDay t / 3600 * 3600 + secondOfDay t / 60 % 60 * 60 + secondOfDay t % 60 =
      secondOfDay t := by omega
  simp only [clockText, List.append_assoc, List.cons_append, clockOf, number_digits hhour,
    Option.bind_eq_bind, Option.bind_some, skip, isColon, decide_true, if_true,
    number_digits hminute, number_digits hsecond, if_pos hvalid, hsum, Option.pure_def]

/-- A fraction of so many digits, up to the sign of the zone. -/
theorem fractionOf_digits (hk : 0 < k) (hk9 : k ≤ 9) (h : n < 10 ^ k) (rest : List Char) :
    fractionOf ('.' :: (digits k n ++ '+' :: rest)) = some (n * 10 ^ (9 - k), '+' :: rest) := by
  have hall := List.all_eq_true.mp (isDigit_digits k n)
  have htake : (digits k n ++ '+' :: rest).takeWhile Char.isDigit = digits k n := by
    rw [List.takeWhile_append_of_pos hall, List.takeWhile_cons_of_neg (by decide),
      List.append_nil]
  have hdrop : (digits k n ++ '+' :: rest).dropWhile Char.isDigit = '+' :: rest := by
    rw [List.dropWhile_append_of_pos hall, List.dropWhile_cons_of_neg (by decide)]
  have hne : digits k n ≠ [] := by
    intro hnil
    have hlength := length_digits k n
    rw [hnil] at hlength
    exact Nat.ne_of_lt hk hlength
  have hnine : (digits k n ++ List.replicate 9 '0').take 9 =
      digits k n ++ List.replicate (9 - k) '0' := by
    rw [List.take_append, length_digits, List.take_of_length_le, List.take_replicate,
      Nat.min_eq_left (Nat.sub_le 9 k)]
    rw [length_digits]
    exact hk9
  rw [fractionOf, htake, hdrop, if_neg hne, hnine, value_zeros h]

theorem fractionOf_fractionText (t : Int) (rest : List Char) :
    fractionOf (fractionText t ++ '+' :: rest) = some (nanoOfSecond t, '+' :: rest) := by
  have hnano : nanoOfSecond t < 1000000000 := by
    rw [nanoOfSecond]
    omega
  rw [fractionText]
  by_cases hzero : nanoOfSecond t = 0
  · rw [if_pos hzero, hzero]
    rfl
  · rw [if_neg hzero]
    by_cases hmilli : nanoOfSecond t % 1000000 = 0
    · have hthree : nanoOfSecond t / 1000000 < 10 ^ 3 := by omega
      rw [if_pos hmilli, List.cons_append, fractionOf_digits (by decide) (by decide) hthree]
      congr 2
      omega
    · rw [if_neg hmilli]
      by_cases hmicro : nanoOfSecond t % 1000 = 0
      · have hsix : nanoOfSecond t / 1000 < 10 ^ 6 := by omega
        rw [if_pos hmicro, List.cons_append, fractionOf_digits (by decide) (by decide) hsix]
        congr 2
        omega
      · rw [if_neg hmicro, List.cons_append, fractionOf_digits (by decide) (by decide) hnano]
        congr 2
        omega

end Parts

variable {t : Int}

/-- An instant is read back from its text to the nanosecond. -/
theorem parse_rfc3339 (h : FourDigits (dayOf t)) : parse (rfc3339 t) = some t := by
  have hsum : dayOf t * nanosPerDay + ((secondOfDay t : Int) - 0) * 1000000000 + nanoOfSecond t =
      t := by
    rw [dayOf, secondOfDay, nanoOfSecond, nanosPerDay]
    omega
  rw [parse, rfc3339, String.toList_ofList, dateOf_dateText h]
  simp only [Option.bind_eq_bind, Option.bind_some, skip, isSeparator, decide_true, Bool.true_or,
    if_true, List.append_assoc, clockOf_clockText]
  have hoffset : offsetOf ['+', '0', '0', ':', '0', '0'] = some 0 := by decide +kernel
  rw [fractionOf_fractionText]
  simp only [Option.bind_some, hoffset, dayNumber_date, if_true, Option.pure_def, hsum]

/-- The text of the database has no zone. -/
theorem parse_sqlTimestamp (h : FourDigits (dayOf t)) : parse (sqlTimestamp t) = none := by
  have hclock := clockOf_clockText t []
  rw [List.append_nil] at hclock
  rw [parse, sqlTimestamp, String.toList_ofList, dateOf_dateText h]
  simp only [Option.bind_eq_bind, Option.bind_some, skip, isSeparator, decide_true, Bool.or_true,
    if_true, hclock, fractionOf, offsetOf, Option.bind_none]

end Rfc3339
