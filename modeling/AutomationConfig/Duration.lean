import AutomationConfig.Number.Power

/-! # Durations

A duration is a whole number of nanoseconds. Messages write it in the largest unit among seconds,
milliseconds, microseconds and nanoseconds that it reaches, as a decimal without zeros at the
end. -/

namespace AutomationConfig

/-- A span of time. -/
structure Duration where
  nanoseconds : Nat
deriving DecidableEq, Repr, Inhabited

namespace Duration

/-- Nanoseconds in a second. -/
def perSecond : Nat := 1000000000

/-- The duration of so many seconds. -/
def ofSeconds (seconds : Nat) : Duration := ⟨seconds * perSecond⟩

/-- No time at all. -/
def zero : Duration := ⟨0⟩

/-- The whole seconds. -/
def seconds (d : Duration) : Nat := d.nanoseconds / perSecond

/-- The nanoseconds beyond the whole seconds. -/
def subsecond (d : Duration) : Nat := d.nanoseconds % perSecond

instance : LE Duration := ⟨fun a b => a.nanoseconds ≤ b.nanoseconds⟩
instance : LT Duration := ⟨fun a b => a.nanoseconds < b.nanoseconds⟩

instance (a b : Duration) : Decidable (a ≤ b) := Nat.decLe a.nanoseconds b.nanoseconds
instance (a b : Duration) : Decidable (a < b) := Nat.decLt a.nanoseconds b.nanoseconds

/-- The longer of two durations. -/
def longer (a b : Duration) : Duration := ⟨max a.nanoseconds b.nanoseconds⟩

/-! ### Text -/

/-- `count / 10 ^ places` as a decimal without zeros at the end. -/
def decimalText (count places : Nat) : String :=
  let unit := tenPow places
  let digits := (toString (count % unit)).toList
  let padded := List.replicate (places - digits.length) '0' ++ digits
  let fraction := (padded.reverse.dropWhile (· == '0')).reverse
  toString (count / unit) ++
    (if fraction.isEmpty then "" else "." ++ String.ofList fraction)

/-- The duration as text. -/
def text (d : Duration) : String :=
  let n := d.nanoseconds
  if perSecond ≤ n then decimalText n 9 ++ "s"
  else if 1000000 ≤ n then decimalText n 6 ++ "ms"
  else if 1000 ≤ n then decimalText n 3 ++ "µs"
  else decimalText n 0 ++ "ns"

end Duration

end AutomationConfig
