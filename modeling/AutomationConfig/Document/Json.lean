import AutomationConfig.Document
import AutomationConfig.Text.Hex

/-! # Reading JSON

`ofJson?` reads a JSON text as a document and refuses anything else. Of several members of one name
the last counts. A number without fraction and exponent is an integer as long as it fits 64 bits,
signed if it is negative and unsigned otherwise; negative zero and all other numbers are floats.
Values may be nested `maxDepth` deep.

A reader takes the text that is left and gives what it read together with what is then left. -/

namespace AutomationConfig.Document.Json

/-- How deep lists and maps may be nested. -/
def maxDepth : Nat := 127

/-- The greatest integer of 64 bits without a sign. -/
def maxInteger : Nat := twoPow 64 - 1

/-! ### Blanks and words -/

/-- Whether JSON allows the character between two tokens. -/
def isSpace (c : Char) : Bool := c == ' ' || c == '\t' || c == '\n' || c == '\r'

/-- The text from its first token on. -/
def skipSpace (cs : List Char) : List Char := cs.dropWhile isSpace

/-- What is left after the given word, if the text starts with it. -/
def afterWord? (word : List Char) (cs : List Char) : Option (List Char) :=
  if word.isPrefixOf cs then some (cs.drop word.length) else none

/-! ### Texts -/

/-- The value of four hexadecimal digits. -/
def hexUnit? (a b c d : Char) : Option Nat := do
  let a ← Text.hexValue? a
  let b ← Text.hexValue? b
  let c ← Text.hexValue? c
  let d ← Text.hexValue? d
  return ((a * 16 + b) * 16 + c) * 16 + d

/-- Whether a 16-bit unit is the first half of a pair. -/
def isHighHalf (u : Nat) : Bool := 0xD800 ≤ u && u ≤ 0xDBFF

/-- Whether a 16-bit unit is the second half of a pair. -/
def isLowHalf (u : Nat) : Bool := 0xDC00 ≤ u && u ≤ 0xDFFF

/-- The character that a pair of halves stands for. -/
def ofHalves (high low : Nat) : Char :=
  Char.ofNat (0x10000 + (high - 0xD800) * 0x400 + (low - 0xDC00))

/-- The character of an escape of one letter. -/
def shortEscape? : Char → Option Char
  | '"' => some '"'
  | '\\' => some '\\'
  | '/' => some '/'
  | 'b' => some '\x08'
  | 'f' => some '\x0c'
  | 'n' => some '\n'
  | 'r' => some '\r'
  | 't' => some '\t'
  | _ => none

/-- Reads a text up to its closing quotation mark; the first argument holds what has been read so
far, backwards. -/
def readText (done : List Char) : List Char → Option (String × List Char)
  | '"' :: rest => some (String.ofList done.reverse, rest)
  | '\\' :: 'u' :: a :: b :: c :: d :: '\\' :: 'u' :: e :: f :: g :: h :: rest =>
    match hexUnit? a b c d, hexUnit? e f g h with
    | some u, some v =>
      if isHighHalf u then
        if isLowHalf v then readText (ofHalves u v :: done) rest else none
      else if isLowHalf u then none
      else readText (Char.ofNat u :: done) ('\\' :: 'u' :: e :: f :: g :: h :: rest)
    | _, _ => none
  | '\\' :: 'u' :: a :: b :: c :: d :: rest =>
    match hexUnit? a b c d with
    | some u => if isHighHalf u || isLowHalf u then none else readText (Char.ofNat u :: done) rest
    | none => none
  | '\\' :: c :: rest =>
    match shortEscape? c with
    | some e => readText (e :: done) rest
    | none => none
  | c :: rest => if c.toNat < 0x20 then none else readText (c :: done) rest
  | [] => none
termination_by cs => cs.length

/-! ### Numbers -/

/-- The value of the digits, most significant first. -/
def digitsValue (digits : List Char) : Nat :=
  digits.foldl (fun n c => n * 10 + (c.toNat - '0'.toNat)) 0

/-- The longest run of digits the text starts with, and what is left. -/
def spanDigits (cs : List Char) : List Char × List Char := cs.span Char.isDigit

/-- A significand of 64 bits and how many further digits were left out of it. -/
structure Significand where
  value : Nat
  dropped : Nat
deriving Repr

/-- Takes digits into the significand as long as it fits 64 bits; from the first that does not fit
on, digits are only counted. -/
def Significand.extend (s : Significand) (digits : List Char) : Significand :=
  digits.foldl (fun s c =>
    let next := s.value * 10 + (c.toNat - '0'.toNat)
    if s.dropped = 0 ∧ next ≤ maxInteger then ⟨next, 0⟩ else ⟨s.value, s.dropped + 1⟩) s

/-- The float of a significand and a power of ten: both are rounded on their own, and then their
product or quotient is. Powers beyond `10 ^ 308` are taken in steps. -/
def scaleFloat (steps : Nat) (x : Binary64) (power : Int) : Option Binary64 :=
  match steps with
  | 0 => some x
  | steps + 1 =>
    if power.natAbs ≤ 308 then do
      let factor ← Binary64.ofDecimal false 1 power.natAbs
      if 0 ≤ power then x.mul factor else x.div factor
    else if x.significand = 0 then some x
    else if 0 ≤ power then none
    else do
      let factor ← Binary64.ofDecimal false 1 308
      scaleFloat steps (← x.div factor) (power + 308)

/-- The float `± significand · 10 ^ power`, if it is finite. -/
def floatOf (negative : Bool) (significand : Nat) (power : Int) : Option Document := do
  let x ← Binary64.ofDecimal false significand 0
  let x ← scaleFloat 8 x power
  return .float ⟨negative, x.significand, x.exponent⟩

/-- The sign and the digits of an exponent after its letter. -/
def readExponent (cs : List Char) : Option (Int × List Char) :=
  let (negative, cs) := match cs with
    | '+' :: rest => (false, rest)
    | '-' :: rest => (true, rest)
    | _ => (false, cs)
  let (digits, rest) := spanDigits cs
  if digits.isEmpty then none
  else
    let n : Int := digitsValue digits
    some (if negative then -n else n, rest)

/-- The digits after a point, of which there is at least one. -/
def readFraction (cs : List Char) : Option (List Char × List Char) :=
  match cs with
  | '.' :: rest =>
    let (digits, rest) := spanDigits rest
    if digits.isEmpty then none else some (digits, rest)
  | _ => some ([], cs)

/-- The power of ten after the letter `e`, or zero. -/
def readPower (cs : List Char) : Option (Option Int × List Char) :=
  match cs with
  | c :: rest =>
    if c == 'e' || c == 'E' then (readExponent rest).map fun r => (some r.1, r.2)
    else some (none, cs)
  | [] => some (none, cs)

/-- Reads a number from its first digit on. Digits after the point that no longer fit the
significand are left out, as if they were not there. -/
def readNumber (negative : Bool) (cs : List Char) : Option (Document × List Char) := do
  let (whole, rest) := spanDigits cs
  match whole with
  | [] => none
  | '0' :: _ :: _ => none
  | _ =>
    let (fraction, rest) ← readFraction rest
    let (power, rest) ← readPower rest
    let s := Significand.extend ⟨0, 0⟩ whole
    if fraction.isEmpty && power.isNone && s.dropped == 0 then
      if negative then
        if s.value = 0 ∨ twoPow 63 < s.value then return (← floatOf true s.value 0, rest)
        else return (.int (-s.value), rest)
      else return (.int s.value, rest)
    else
      let t := Significand.extend ⟨s.value, 0⟩ fraction
      let used : Int := fraction.length - t.dropped
      let tens : Int := s.dropped - used + power.getD 0
      return (← floatOf negative t.value tens, rest)

/-! ### Values -/

mutual

/-- Reads a value of at most the given depth. The first argument bounds the number of steps. -/
def readValue : Nat → Nat → List Char → Option (Document × List Char)
  | 0, _, _ => none
  | steps + 1, depth, cs =>
    match skipSpace cs with
    | '"' :: rest => (readText [] rest).map fun r => (.text r.1, r.2)
    | '[' :: rest =>
      match depth with
      | 0 => none
      | depth + 1 =>
        match skipSpace rest with
        | ']' :: rest => some (.list [], rest)
        | rest => (readItems steps depth rest).map fun r => (.list r.1, r.2)
    | '\x7b' :: rest =>
      match depth with
      | 0 => none
      | depth + 1 =>
        match skipSpace rest with
        | '\x7d' :: rest => some (.map [], rest)
        | rest => (readMembers steps depth [] rest).map fun r => (.map r.1, r.2)
    | '-' :: rest => readNumber true rest
    | 't' :: rest => (afterWord? ['r', 'u', 'e'] rest).map fun rest => (.bool true, rest)
    | 'f' :: rest => (afterWord? ['a', 'l', 's', 'e'] rest).map fun rest => (.bool false, rest)
    | 'n' :: rest => (afterWord? ['u', 'l', 'l'] rest).map fun rest => (.null, rest)
    | cs => readNumber false cs

/-- Reads the items of a list up to its closing bracket. -/
def readItems : Nat → Nat → List Char → Option (List Document × List Char)
  | 0, _, _ => none
  | steps + 1, depth, cs => do
    let (item, rest) ← readValue steps depth cs
    match skipSpace rest with
    | ',' :: rest =>
      let (items, rest) ← readItems steps depth rest
      return (item :: items, rest)
    | ']' :: rest => return ([item], rest)
    | _ => none

/-- Reads the members of a map up to its closing brace into the entries read so far. -/
def readMembers : Nat → Nat → List (String × Document) → List Char →
    Option (List (String × Document) × List Char)
  | 0, _, _, _ => none
  | steps + 1, depth, entries, cs => do
    match skipSpace cs with
    | '"' :: rest =>
      let (key, rest) ← readText [] rest
      match skipSpace rest with
      | ':' :: rest =>
        let (value, rest) ← readValue steps depth rest
        let entries := insertEntry key value entries
        match skipSpace rest with
        | ',' :: rest => readMembers steps depth entries rest
        | '\x7d' :: rest => return (entries, rest)
        | _ => none
      | _ => none
    | _ => none

end

end Json

/-- The document that a JSON text of at most the given depth stands for. -/
def ofJsonWithin? (depth : Nat) (source : String) : Option Document :=
  let cs := source.toList
  match Json.readValue (2 * cs.length + 2) depth cs with
  | some (d, rest) => if (Json.skipSpace rest).isEmpty then some d else none
  | none => none

/-- The document that a JSON text stands for. -/
def ofJson? (source : String) : Option Document := ofJsonWithin? Json.maxDepth source

end AutomationConfig.Document
