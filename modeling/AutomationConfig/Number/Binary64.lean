import AutomationConfig.Number.Power

/-! # Binary64 numbers

A finite binary64 number is a sign, a significand below `2 ^ 53` and an exponent of two of at least
`-1074`; the significand is at least `2 ^ 52` unless the exponent is the least one. All arithmetic
is exact arithmetic on natural numbers followed by one rounding (`nearest`), to the nearest number
and on a tie to the even significand. -/

namespace AutomationConfig

/-- The number `± significand · 2 ^ exponent`. -/
structure Binary64 where
  negative : Bool
  significand : Nat
  exponent : Int
deriving DecidableEq, Repr, Inhabited

namespace Binary64

/-- The least exponent of two. -/
def minExponent : Int := -1074

/-- The greatest exponent of two. -/
def maxExponent : Int := 971

/-- Numerator and denominator of `num / den · 2 ^ exponent`. -/
def scale (num den : Nat) (exponent : Int) : Nat × Nat :=
  if 0 ≤ exponent then (num * twoPow exponent.toNat, den) else (num, den * twoPow (-exponent).toNat)

/-- The quotient, rounded to the nearest integer and on a tie to the even one. -/
def roundedQuotient (num den : Nat) : Nat :=
  let q := num / den
  let r := num % den
  if den < 2 * r || (2 * r == den && q % 2 == 1) then q + 1 else q

/-- Significand and exponent of the binary64 number nearest to `num / den`, if it is finite. -/
def nearest (num den : Nat) : Option (Nat × Int) :=
  if num = 0 then some (0, minExponent)
  else
    let guess : Int := (num.log2 : Int) - den.log2 - 52
    let s := scale num den (-guess)
    let fitted := if s.1 < twoPow 52 * s.2 then guess - 1 else guess
    let exponent := max minExponent fitted
    let t := scale num den (-exponent)
    let q := roundedQuotient t.1 t.2
    let (q, exponent) := if q = twoPow 53 then (twoPow 52, exponent + 1) else (q, exponent)
    if maxExponent < exponent then none else some (q, exponent)

/-- The number nearest to `± num / den`, if it is finite. -/
def ofRatio (negative : Bool) (num den : Nat) : Option Binary64 :=
  (nearest num den).map fun r => ⟨negative, r.1, r.2⟩

/-- The number nearest to `± digits · 10 ^ exponent`, if it is finite. A number of so few digits
before the point that it is below half the least one becomes zero without being worked out. -/
def ofDecimal (negative : Bool) (digits : Nat) (exponent : Int) : Option Binary64 :=
  if digits = 0 then some ⟨negative, 0, minExponent⟩
  else if 400 < exponent then none
  else if 0 ≤ exponent then ofRatio negative (digits * tenPow exponent.toNat) 1
  else if (digits.log2 : Int) + 3 * exponent < -1200 then some ⟨negative, 0, minExponent⟩
  else ofRatio negative digits (tenPow (-exponent).toNat)

/-- Numerator and denominator of the number without its sign. -/
def ratio (x : Binary64) : Nat × Nat := scale x.significand 1 x.exponent

/-- The rounded product, if it is finite. -/
def mul (x y : Binary64) : Option Binary64 :=
  ofRatio (x.negative != y.negative) (x.ratio.1 * y.ratio.1) (x.ratio.2 * y.ratio.2)

/-- The rounded quotient by a number other than zero, if it is finite. -/
def div (x y : Binary64) : Option Binary64 :=
  ofRatio (x.negative != y.negative) (x.ratio.1 * y.ratio.2) (x.ratio.2 * y.ratio.1)

/-- Whether two numbers have the same value: the two zeros have. -/
def sameValue (x y : Binary64) : Bool :=
  x.significand == y.significand && x.exponent == y.exponent &&
    (x.negative == y.negative || x.significand == 0)

instance : BEq Binary64 := ⟨sameValue⟩

end Binary64

end AutomationConfig
