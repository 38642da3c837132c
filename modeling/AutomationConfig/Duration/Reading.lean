import AutomationConfig.Duration
import AutomationConfig.Number.Power
import AutomationConfig.Text.Blank

/-! # Reading durations

A duration is given as one or more amounts, each a decimal number and a unit, with blanks allowed
anywhere but inside a unit. A fraction must come out even: in nanoseconds for the units up to a
minute, in seconds for the longer ones. Every number on the way must fit 64 bits. A lone zero needs
no unit. -/

namespace AutomationConfig.Duration

/-! ### Units -/

/-- A unit of time. -/
inductive TimeUnit where
  | nanosecond
  | microsecond
  | millisecond
  | second
  | minute
  | hour
  | day
  | week
  | month
  | year
deriving DecidableEq, Repr

/-- The unit of a name. The names tell a month from a minute by the case of one letter. -/
def TimeUnit.ofName? (name : String) : Option TimeUnit :=
  if ["nanos", "nsec", "ns"].contains name then some .nanosecond
  else if ["usec", "us", "µs"].contains name then some .microsecond
  else if ["millis", "msec", "ms"].contains name then some .millisecond
  else if ["seconds", "second", "secs", "sec", "s"].contains name then some .second
  else if ["minutes", "minute", "min", "mins", "m"].contains name then some .minute
  else if ["hours", "hour", "hrs", "hr", "h"].contains name then some .hour
  else if ["days", "day", "d"].contains name then some .day
  else if ["weeks", "week", "wk", "wks", "w"].contains name then some .week
  else if ["months", "month", "M"].contains name then some .month
  else if ["years", "year", "yr", "yrs", "y"].contains name then some .year
  else none

/-- A unit as so many grains of so many nanoseconds each. -/
structure Grains where
  count : Nat
  nanoseconds : Nat

/-- The grains in which whole numbers of a unit are counted. A month is a twelfth of a year, and a
year is 365.25 days. -/
def TimeUnit.wholeGrains : TimeUnit → Grains
  | .nanosecond => ⟨1, 1⟩
  | .microsecond => ⟨1000, 1⟩
  | .millisecond => ⟨1000000, 1⟩
  | .second => ⟨1, perSecond⟩
  | .minute => ⟨60, perSecond⟩
  | .hour => ⟨3600, perSecond⟩
  | .day => ⟨86400, perSecond⟩
  | .week => ⟨604800, perSecond⟩
  | .month => ⟨2630016, perSecond⟩
  | .year => ⟨31557600, perSecond⟩

/-- The grains in which fractions of a unit must come out even; a nanosecond has none. -/
def TimeUnit.partGrains? : TimeUnit → Option Grains
  | .nanosecond => none
  | .second => some ⟨perSecond, 1⟩
  | .minute => some ⟨60 * perSecond, 1⟩
  | unit => some unit.wholeGrains

/-! ### Amounts -/

/-- One more than the greatest number that fits 64 bits. -/
def limit : Nat := twoPow 64

/-- The number, if it fits 64 bits. -/
def fitting? (n : Nat) : Option Nat := if n < limit then some n else none

/-- The number `whole + numerator / denominator`; a denominator of one stands for no fraction. -/
structure Amount where
  whole : Nat
  numerator : Nat
  denominator : Nat

/-- Adds so many grains to a duration, if their number and the seconds of the sum fit 64 bits. -/
def addGrains? (d : Duration) (count grain : Nat) : Option Duration := do
  let count ← fitting? count
  if grain = 1 then
    let _ ← fitting? (d.subsecond + count)
  let total : Duration := ⟨d.nanoseconds + count * grain⟩
  let _ ← fitting? total.seconds
  return total

/-- Adds an amount of a unit to a duration. -/
def addAmount? (d : Duration) (amount : Amount) (unit : TimeUnit) : Option Duration := do
  let whole := unit.wholeGrains
  let sum ← addGrains? d (amount.whole * whole.count) whole.nanoseconds
  if amount.denominator = 1 then return sum
  else
    let part ← unit.partGrains?
    let grains ← fitting? (amount.numerator * part.count)
    if grains % amount.denominator = 0 then
      addGrains? sum (grains / amount.denominator) part.nanoseconds
    else none

/-! ### Text -/

/-- Whether a unit may hold the character. -/
def isUnitChar (c : Char) : Bool := c.isAlpha || c == 'µ'

/-- The value of a digit. -/
def digit (c : Char) : Nat := c.toNat - '0'.toNat

/-- Reads the digits after a point up to the unit. -/
def readPart (amount : Amount) : List Char → Option (Amount × List Char)
  | [] => if amount.denominator = 1 then none else some (amount, [])
  | c :: rest =>
    if c.isDigit then do
      let numerator ← fitting? (amount.numerator * 10 + digit c)
      let denominator ← fitting? (amount.denominator * 10)
      readPart ⟨amount.whole, numerator, denominator⟩ rest
    else if Text.isBlank c then readPart amount rest
    else if isUnitChar c then
      if amount.denominator = 1 then none else some (amount, c :: rest)
    else none

/-- Reads a number up to the unit; `n` is the value of the digits read so far. -/
def readAmount (n : Nat) : List Char → Option (Amount × List Char)
  | [] => some (⟨n, 0, 1⟩, [])
  | c :: rest =>
    if c.isDigit then do readAmount (← fitting? (n * 10 + digit c)) rest
    else if Text.isBlank c then readAmount n rest
    else if isUnitChar c then some (⟨n, 0, 1⟩, c :: rest)
    else if c = '.' then readPart ⟨n, 0, 1⟩ rest
    else none

/-- Reads amounts up to the end of the text and adds them up. At least one must be there unless
some have been read. -/
def readAmounts : Nat → Duration → List Char → Option Duration
  | 0, _, _ => none
  | steps + 1, sum, cs =>
    match Text.trimStart cs with
    | [] => none
    | c :: rest =>
      if c.isDigit then do
        let (amount, rest) ← readAmount (digit c) rest
        let unit ← TimeUnit.ofName? (String.ofList (rest.takeWhile isUnitChar))
        let sum ← addAmount? sum amount unit
        match Text.trimStart (rest.dropWhile isUnitChar) with
        | [] => return sum
        | rest => readAmounts steps sum rest
      else none

/-- The duration that a text gives. -/
def ofText? (source : String) : Option Duration :=
  if source = "0" then some zero
  else readAmounts (source.toList.length + 1) zero source.toList

end AutomationConfig.Duration
