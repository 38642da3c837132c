import AutomationConfig.Text.CharSet

/-! # Sets of characters in bytes

A character takes one to four bytes in UTF-8: one that says how many they are and holds the highest
digits, and others that hold six binary digits each. So the characters between two others are the
texts of a few sequences of ranges of bytes. -/

namespace AutomationConfig.Pattern

open Text (CharSet)

/-- The bytes between two bytes. -/
abbrev ByteRange := Nat × Nat

/-- How many characters share all their bytes but the last ones, whose number is given. -/
def blockSize : (trailing : Nat) → Nat
  | 0 => 1
  | n + 1 => 64 * blockSize n

/-- The sequences of ranges for the numbers from `low` to `high`, each written by a first byte that
counts from `lead` on and by so many trailing bytes. Blocks that are cut at an end of the range come
before and after the whole ones. -/
def byteSequences : (trailing lead low high : Nat) → List (List ByteRange)
  | 0, lead, low, high => [[(lead + low, lead + high)]]
  | n + 1, lead, low, high =>
    let size := blockSize (n + 1)
    let block (k least greatest : Nat) :=
      (byteSequences n 0x80 least greatest).map ((lead + k, lead + k) :: ·)
    let first := low / size
    let last := high / size
    if first = last then block first (low % size) (high % size)
    else
      let cutLow := low % size ≠ 0
      let cutHigh := high % size ≠ size - 1
      let wholeFirst := if cutLow then first + 1 else first
      let wholeEnd := if cutHigh then last else last + 1
      (if cutLow then block first (low % size) (size - 1) else []) ++
        (if wholeFirst < wholeEnd then
          [(lead + wholeFirst, lead + wholeEnd - 1) :: List.replicate (n + 1) (0x80, 0xBF)]
        else []) ++
        (if cutHigh then block last 0 (high % size) else [])

/-- The characters of each number of bytes: the number of trailing bytes, what their first byte
counts from, and the characters themselves. Surrogates are not characters. -/
def encodedRanges : List (Nat × Nat × Nat × Nat) := [
  (0, 0x00, 0x00, 0x7F),
  (1, 0xC0, 0x80, 0x7FF),
  (2, 0xE0, 0x800, 0xD7FF),
  (2, 0xE0, 0xE000, 0xFFFF),
  (3, 0xF0, 0x10000, 0x10FFFF)]

/-- The sequences of ranges of bytes for the characters between two others, in order. -/
def rangeSequences (low high : Nat) : List (List ByteRange) :=
  encodedRanges.flatMap fun (trailing, lead, least, greatest) =>
    if max low least ≤ min high greatest then
      byteSequences trailing lead (max low least) (min high greatest)
    else []

/-- The sequences of ranges of bytes for the characters of a set, in order. -/
def setSequences (s : CharSet) : List (List ByteRange) :=
  s.ranges.flatMap fun r => rangeSequences r.1 r.2

/-- The first bytes of sequences that follow one another, each with what follows it. -/
def groupByHead : List (List ByteRange) → List (ByteRange × List (List ByteRange))
  | [] => []
  | [] :: rest => groupByHead rest
  | (r :: tail) :: rest =>
    match groupByHead rest with
    | (r', tails) :: groups =>
      if r = r' then (r, tail :: tails) :: groups else (r, [tail]) :: (r', tails) :: groups
    | [] => [(r, [tail])]

end AutomationConfig.Pattern
