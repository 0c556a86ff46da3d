set_option autoImplicit true

/-- A double-precision number, held as its bits. -/
abbrev F64 := UInt64

namespace F64

def zero : F64 := 0

def one : F64 := 0x3FF0000000000000

def signBit : Nat := 9223372036854775808

/-- Exponent and fraction, which order the numbers of one sign. -/
def magnitude (x : F64) : Nat := x.toNat % signBit

def isNaN (x : F64) : Bool := 0x7FF0000000000000 < magnitude x

/-- The place of a number among the numbers: both zeros have the same one. -/
def rank (x : F64) : Int :=
  if x.toNat < signBit then magnitude x else -(magnitude x : Int)

/-- No comparison with a NaN holds. -/
def le (x y : F64) : Bool := !isNaN x && !isNaN y && rank x ≤ rank y

def lt (x y : F64) : Bool := !isNaN x && !isNaN y && rank x < rank y

/-- The fraction of a whole number with its leading bit, rounded to the nearest one with ties to
even: `shift` is how many bits do not fit. -/
def roundedFraction (magnitude shift : Nat) : Nat :=
  let kept := magnitude >>> shift
  let lost := magnitude - kept <<< shift
  let half := (1 <<< shift) / 2
  if half < lost ∨ (half = lost ∧ kept % 2 = 1) then kept + 1 else kept

/-- The nearest double to a positive whole number. A fraction rounded up to the next power of two
carries into the exponent. -/
def bitsOfNat (n : Nat) : Nat :=
  let exponent := n.log2
  let fraction :=
    if exponent ≤ 52 then n <<< (52 - exponent) else roundedFraction n (exponent - 52)
  (exponent + 1022) <<< 52 + fraction

def ofInt (n : Int) : F64 :=
  if n = 0 then zero
  else UInt64.ofNat ((if n < 0 then signBit else 0) + bitsOfNat n.natAbs)

example : ofInt 1 = one ∧ ofInt (-2) = 0xC000000000000000 ∧
    ofInt 9007199254740993 = 0x4340000000000000 := by decide

end F64
