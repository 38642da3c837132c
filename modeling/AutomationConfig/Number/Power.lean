/-! # Powers

Powers of two bound the numbers of so many bits, and powers of ten shift the point of a decimal. -/

namespace AutomationConfig

/-- The number of values that so many bits have. -/
def twoPow (bits : Nat) : Nat := Nat.pow 2 bits

/-- A one with so many zeros behind it. -/
def tenPow (zeros : Nat) : Nat := Nat.pow 10 zeros

end AutomationConfig
