import AutomationConfig.Number.Power
import AutomationConfig.Pattern.Encoding
import AutomationConfig.Pattern.Matcher
import Std.Data.HashMap

/-! # The size of compiled patterns

A matcher is compiled to a program of numbered states, once for searching forwards and once for
searching backwards. Programs are laid out here only as far as their size goes: states take a fixed
number of bytes, and some take more for what they lead to. Laying out ends without a result as soon
as the program is too large, and since it only grows, in no other case.

A repetition copies the states of what it repeats, which is what makes programs large. A part ends
either in a state that leads to what comes next, or in a branch, which grows by a way to it. -/

namespace AutomationConfig.Pattern

open Text (CharSet)

/-! ### Laying out states -/

/-- The bytes of a state. -/
def stateSize : Nat := 32

/-- The bytes of one way that leads on from a branch. -/
def waySize : Nat := 4

/-- The bytes of one range of bytes in a state that reads one of several. -/
def rangeSize : Nat := 8

/-- How many bytes a program may take. -/
def maxSize : Nat := 10 * twoPow 20

/-- A program that is being laid out. -/
structure Layout where
  /-- How many states there are. -/
  states : Nat := 0
  /-- The bytes that states take besides their fixed number. -/
  extra : Nat := 0
  /-- The states of the current set that may be shared: what each leads to and its number, by
  slots. -/
  shared : Std.HashMap Nat (List Nat × Nat) := {}

/-- The bytes of a program. -/
def Layout.size (l : Layout) : Nat := l.states * stateSize + l.extra

/-- A step of laying out a program. -/
abbrev Laying := StateT Layout Option

/-- Adds so many states and bytes, unless the program becomes too large. -/
def add (states extra : Nat) : Laying Unit := fun l =>
  let l := { l with states := l.states + states, extra := l.extra + extra }
  if l.size ≤ maxSize then some ((), l) else none

/-- Leads on from a part, given whether it ends in a branch. -/
def leadOn (endsInBranch : Bool) : Laying Unit :=
  if endsInBranch then add 0 waySize else pure ()

/-! ### Sets -/

/-- The slot among so many for a state that leads to something: a hash of 64 bits of what it leads
to, which takes up one number after the other. -/
def slotOf (slots : Nat) (key : List Nat) : Nat :=
  let hash : UInt64 := key.foldl (fun h n => (h ^^^ n.toUInt64) * 1099511628211)
    14695981039346656037
  hash.toNat % slots

/-- The state that leads to something. It is shared if it is there and its slot has not been taken
by another one since. -/
def sharedState (slots : Nat) (key : List Nat) (extra : Nat) : Laying Nat := do
  let slot := slotOf slots key
  match (← get).shared[slot]?.filter fun entry => entry.1 = key with
  | some (_, state) => return state
  | none =>
    let state := (← get).states
    add 1 extra
    modify fun l => { l with shared := l.shared.insert slot (key, state) }
    return state

/-- Forgets which states may be shared. -/
def forgetShared : Laying Unit := modify fun l => { l with shared := {} }

/-- How many slots there are for states that read bytes forwards. -/
def forwardSlots : Nat := 10000

/-- How many slots there are for states that read bytes backwards. -/
def backwardSlots : Nat := 1000

/-- Lays out the states that read sequences of at most so many bytes and lead to a target. What
follows a byte comes before what reads it. -/
def layForward (target : Nat) : (length : Nat) → List (List ByteRange) → Laying Nat
  | 0, _ => pure target
  | length + 1, sequences => do
    let groups := groupByHead sequences
    if groups.isEmpty then return target
    let ways ← groups.mapM fun (r, tails) => do
      return [r.1, r.2, ← layForward target length tails]
    sharedState forwardSlots ways.flatten (rangeSize * groups.length)

/-- Lays out the states that read a sequence backwards and lead to a target. -/
def layBackward (target : Nat) (sequence : List ByteRange) : Laying Nat :=
  sequence.foldlM (fun next r => sharedState backwardSlots [next, r.1, r.2] 0) target

/-- Lays out a set. If it is a set of characters of ASCII, one state reads it. -/
def laySet (backward : Bool) (set : CharSet) : Laying Unit :=
  if set.isAscii then add 2 (rangeSize * set.ranges.length)
  else do
    forgetShared
    let start := (← get).states
    if backward then
      add 2 0
      (setSequences set).forM fun sequence => do
        let _ ← layBackward (start + 1) sequence
        add 0 waySize
    else
      add 1 0
      let _ ← layForward start 4 (setSequences set)

/-! ### Texts -/

/-- Adds a word to the words that start with the same byte, given without it. -/
def addToBranch (byte : UInt8) (tail : List UInt8) :
    List (UInt8 × List (List UInt8)) → List (UInt8 × List (List UInt8))
  | [] => [(byte, [tail])]
  | (b, tails) :: rest =>
    if b = byte then (b, tail :: tails) :: rest else (b, tails) :: addToBranch byte tail rest

/-- The words by the byte that they start with, given without it. -/
def branches (words : List (List UInt8)) : List (UInt8 × List (List UInt8)) :=
  words.foldr (fun word found =>
    match word with
    | [] => found
    | byte :: tail => addToBranch byte tail found) []

/-- The words between those that are empty. -/
def runs : List (List UInt8) → List (List (List UInt8))
  | [] => [[]]
  | [] :: rest => [] :: runs rest
  | word :: rest =>
    match runs rest with
    | [] => [[word]]
    | run :: more => (word :: run) :: more

/-- Lays out a choice of words of at most so many bytes, in which earlier words are preferred.
Words that start alike share the states for it, but not with words on the other side of a word that
ends there. Words that end at the very start of the choice count once. -/
def layWords : (length : Nat) → List (List UInt8) → Laying Unit
  | 0, _ => pure ()
  | length + 1, words => do
    let later := words.dropWhile (·.isEmpty)
    let runs := runs (if later.length < words.length then [] :: later else later)
    runs.forM fun run => do
      let branches := branches run
      branches.forM fun (_, tails) =>
        if tails.all (·.isEmpty) then pure () else layWords length tails
      match branches with
      | [] => pure ()
      | [_] => add 1 0
      | _ => add 1 (rangeSize * branches.length)
    add 1 (waySize * ((runs.filter (!·.isEmpty)).length + (runs.length - 1)))

/-- The bytes of a text. -/
def bytesOf (chars : List Char) : List UInt8 := chars.flatMap String.utf8EncodeChar

/-- The bytes of the text that a matcher matches, if it is a text. -/
def Matcher.word? : Matcher → Option (List UInt8)
  | .text chars => some (bytesOf chars)
  | _ => none

/-- Lays out a choice of words. -/
def layWordChoice (backward : Bool) (words : List (List UInt8)) : Laying Unit := do
  add 1 0
  layWords ((words.map List.length).foldl max 0 + 1)
    (if backward then words.map List.reverse else words)

/-! ### Sequences, choices and repetitions -/

/-- Lays out a part behind another one. -/
def layBehind (part : Laying Bool) (previous : Bool) : Laying Bool := do
  let branch ← part
  leadOn previous
  return branch

/-- Lays out parts one after the other. -/
def laySequence : List (Laying Bool) → Laying Bool
  | [] => do add 1 0; return false
  | first :: rest => do
    let branch ← first
    rest.foldlM (fun previous part => layBehind part previous) branch

/-- Lays out one of several parts. The branch to them stands behind the first two. -/
def layChoice : List (Laying Bool) → Laying Bool
  | [] => do add 1 0; return false
  | [part] => part
  | first :: second :: rest => do
    let branch ← first
    let branch' ← second
    add 2 (2 * waySize)
    leadOn branch
    leadOn branch'
    rest.forM fun part => do
      let branch ← part
      add 0 waySize
      leadOn branch
    return false

/-- Lays out so many more copies of a part. -/
def layCopies (part : Laying Bool) : (count : Nat) → (previous : Bool) → Laying Bool
  | 0, previous => pure previous
  | count + 1, previous => do layCopies part count (← layBehind part previous)

/-- Lays out exactly so many copies of a part. -/
def layExactly (part : Laying Bool) : (count : Nat) → Laying Bool
  | 0 => do add 1 0; return false
  | count + 1 => do layCopies part count (← part)

/-- Lays out so many more copies of a part, each of which may be where the repetition ends. -/
def layOptional (part : Laying Bool) : (count : Nat) → (previous : Bool) → Laying Bool
  | 0, previous => pure previous
  | count + 1, previous => do
    add 1 0
    let branch ← part
    leadOn previous
    add 0 (2 * waySize)
    layOptional part count branch

/-- Lays out any number of repetitions of a part, but at least so many, given whether the part is
never empty. -/
def layUnbounded (part : Laying Bool) (neverEmpty : Bool) : (least : Nat) → Laying Bool
  | 0 =>
    if neverEmpty then do
      add 1 0
      let branch ← part
      add 0 waySize
      leadOn branch
      return true
    else do
      let branch ← part
      add 3 (4 * waySize)
      leadOn branch
      return false
  | least + 1 => do
    let branch ← if least = 0 then part else do layBehind part (← layExactly part least)
    add 1 waySize
    leadOn branch
    return true

/-- Lays out repetitions of a part. -/
def layRepeated (part : Laying Bool) (neverEmpty : Bool) (least : Nat) :
    (most : Option Nat) → Laying Bool
  | none => layUnbounded part neverEmpty least
  | some most =>
    if least = 0 && most = 1 then do
      add 1 0
      let branch ← part
      add 1 (2 * waySize)
      leadOn branch
      return false
    else if least = most then layExactly part least
    else do
      let branch ← layExactly part least
      add 1 0
      leadOn (← layOptional part (most - least) branch)
      return false

/-! ### Whole programs -/

mutual

/-- Lays out a matcher. Returns whether it ends in a branch. Nothing is captured when searching
backwards. -/
def Matcher.lay (backward : Bool) : Matcher → Laying Bool
  | .empty => do add 1 0; return false
  | .text chars => do add (Matcher.textSize chars) 0; return false
  | .oneOf _ set => do laySet backward set; return false
  | .place _ => do add 1 0; return false
  | .repeated part least most _ =>
    layRepeated (part.lay backward) part.isNeverEmpty least most
  | .captured _ part =>
    if backward then part.lay backward
    else do
      add 1 0
      let branch ← part.lay backward
      add 1 0
      leadOn branch
      return false
  | .sequence parts =>
    laySequence (if backward then (lays backward parts).reverse else lays backward parts)
  | .choice alternatives =>
    match alternatives.mapM Matcher.word? with
    | some words => do layWordChoice backward words; return false
    | none => layChoice (lays backward alternatives)

/-- The steps that lay out several matchers. -/
def lays (backward : Bool) : List Matcher → List (Laying Bool)
  | [] => []
  | m :: rest => m.lay backward :: lays backward rest

end

namespace Matcher

/-- Lays out the program for a matcher. Unless it can only match at the end of the text where the
search starts, states that pass over bytes come first. -/
def layProgram (backward : Bool) (m : Matcher) : Laying Unit := do
  if if backward then m.isAnchoredEnd else m.isAnchoredStart then add 1 0
  else add 3 (rangeSize + 2 * waySize)
  leadOn (← (Matcher.captured 0 m).lay backward)
  add 1 0

/-- Whether the programs for a matcher are not too large. -/
def fits (m : Matcher) : Bool :=
  (m.layProgram false {}).isSome && (m.layProgram true {}).isSome

end Matcher

end AutomationConfig.Pattern
