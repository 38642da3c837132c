import AutomationConfig.Number.Binary64

/-! # The shortest decimal of a binary64 number

A binary64 number is written with the fewest digits that read back as that number; of several such
decimals, the one nearest to it. The digits are found on decimal grids of increasing fineness: on
the first grid with a point in the interval of the reals that round to the number, one of the two
points next to the number is in it. -/

namespace AutomationConfig.Binary64

/-- The decimal `digits · 10 ^ exponent`. -/
structure Decimal where
  digits : Nat
  exponent : Int
deriving DecidableEq, Repr

/-- The point of the grid of multiples of `10 ^ k` that is nearest to the number, if it lies among
the reals that round to it. Bounds are compared in units of a quarter of the last place. -/
def gridPoint (x : Binary64) (k : Int) : Option Nat :=
  let m := x.significand
  let q := x.exponent - 2
  let unit := tenPow k.toNat * twoPow (-q).toNat
  let quarter := twoPow q.toNat * tenPow (-k).toNat
  let value := 4 * m * quarter
  let upper := (4 * m + 2) * quarter
  let lower := (if m = twoPow 52 ∧ x.exponent ≠ minExponent then 4 * m - 1 else 4 * m - 2) * quarter
  let inside (d : Nat) : Bool :=
    if m % 2 = 0 then lower ≤ d * unit && d * unit ≤ upper
    else lower < d * unit && d * unit < upper
  let below := value / unit
  let above := below + 1
  let belowIsNearer := 2 * value < (below + above) * unit ||
    (2 * value == (below + above) * unit && below % 2 == 0)
  if inside below && (belowIsNearer || !inside above) then some below
  else if inside above then some above
  else none

/-- The first grid point found on `steps` grids, from the multiples of `10 ^ k` down. -/
def firstGridPoint (x : Binary64) : Nat → Int → Decimal
  | 0, k => ⟨0, k⟩
  | steps + 1, k =>
    match gridPoint x k with
    | some d => ⟨d, k⟩
    | none => firstGridPoint x steps (k - 1)

/-- The shortest decimal of the number without its sign. -/
def shortest (x : Binary64) : Decimal :=
  if x.significand = 0 then ⟨0, 0⟩
  else
    let magnitude : Int := (x.significand.log2 : Int) + x.exponent + 1
    firstGridPoint x 24 (Int.fdiv (magnitude * 30103) 100000 + 1)

/-! ### Text -/

/-- How many powers of ten are written without an exponent: those of `10 ^ -5` to `10 ^ 15`. -/
def isPositional (power : Int) : Bool := -5 ≤ power && power ≤ 15

/-- A power of ten with its sign. -/
def exponentText (power : Int) : String :=
  (if power < 0 then "e-" else "e+") ++ toString power.natAbs

/-- The number as text: positional with at least one digit on either side of the point as long as
its power of ten is moderate, and with an exponent otherwise. -/
def text (x : Binary64) : String :=
  let d := x.shortest
  let digits := (toString d.digits).toList
  let power : Int := digits.length - 1 + d.exponent
  let zeros (n : Int) : List Char := List.replicate n.toNat '0'
  let body : List Char :=
    if x.significand = 0 then ['0', '.', '0']
    else if isPositional power then
      if 0 ≤ d.exponent then digits ++ zeros d.exponent ++ ['.', '0']
      else if 0 ≤ power then
        digits.take (power.toNat + 1) ++ '.' :: digits.drop (power.toNat + 1)
      else ['0', '.'] ++ zeros (-power - 1) ++ digits
    else
      digits.take 1 ++ (if digits.length = 1 then [] else '.' :: digits.drop 1) ++
        (exponentText power).toList
  String.ofList (if x.negative then '-' :: body else body)

end AutomationConfig.Binary64
