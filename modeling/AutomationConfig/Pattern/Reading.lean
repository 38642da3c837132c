import AutomationConfig.Number.Power
import AutomationConfig.Pattern.Set
import AutomationConfig.Text.Letter

/-! # Reading patterns

A pattern is read from left to right with the groups around the current place on a stack. Flags that
are changed inside a group hold up to its end, also across the bars between its alternatives. -/

namespace AutomationConfig.Pattern

/-! ### Heads of groups -/

/-- The flag of a letter. -/
def Flag.ofChar? : Char → Option Flag
  | 'i' => some .caseInsensitive
  | 'm' => some .multiLine
  | 's' => some .dotMatchesNewLine
  | 'U' => some .swapGreed
  | 'u' => some .unicode
  | 'R' => some .crlf
  | 'x' => some .ignoreBlanks
  | _ => none

/-- What stands after an opening parenthesis. -/
inductive GroupHead where
  /-- Changes of flags, which are not a group. -/
  | flags (changes : List FlagChange)
  /-- A group that does not capture. -/
  | plain (changes : List FlagChange)
  /-- A group that captures, with or without a name. -/
  | capture (name : Option (List Char))

/-- Reads flags up to the end of the head. Each may be given once, those after a dash are switched
off, and something follows a dash. -/
def readFlags (changes : List FlagChange) (negated dangling : Bool) :
    List Char → Option (GroupHead × List Char)
  | [] => none
  | c :: rest =>
    if c = ')' then
      if dangling || changes.isEmpty then none else some (.flags changes, rest)
    else if c = ':' then if dangling then none else some (.plain changes, rest)
    else if c = '-' then if negated then none else readFlags changes true true rest
    else do
      let flag ← Flag.ofChar? c
      if changes.any (·.flag == flag) then none
      else readFlags (changes ++ [⟨flag, !negated⟩]) negated false rest

/-- Whether a name of a group may hold the character. -/
def isGroupNameChar (isFirst : Bool) (c : Char) : Bool :=
  if isFirst then c == '_' || Text.isLetter c
  else c == '_' || c == '.' || c == '[' || c == ']' || Text.isLetterOrNumber c

/-- Reads the name of a group up to its closing angle. -/
def readGroupName (isFirst : Bool) : List Char → Option (List Char × List Char)
  | [] => none
  | c :: rest =>
    if c = '>' then if isFirst then none else some ([], rest)
    else if isGroupNameChar isFirst c then do
      let (more, rest) ← readGroupName false rest
      return (c :: more, rest)
    else none

/-- Reads the head of a group after its opening parenthesis. -/
def readGroupHead (cs : List Char) : Option (GroupHead × List Char) :=
  match cs with
  | '?' :: 'P' :: '<' :: rest | '?' :: '<' :: rest => do
    let (name, rest) ← readGroupName true rest
    return (.capture (some name), rest)
  | '?' :: rest => readFlags [] false false rest
  | _ => some (.capture none, cs)

/-! ### Numbers of repetitions -/

/-- One more than the greatest number of repetitions. -/
def countLimit : Nat := twoPow 32

/-- The decimal digits that the text starts with. -/
def readDigits (ignoring : Bool) (cs : List Char) : List Char × List Char :=
  match cs with
  | [] => ([], [])
  | c :: rest =>
    if c.isDigit then
      let (more, rest) := readDigits ignoring (skip ignoring rest)
      (c :: more, rest)
    else ([], c :: rest)
termination_by cs.length
decreasing_by
  have := length_skip_le ignoring rest
  simp only [List.length_cons]
  omega

/-- A decimal number with blanks around it, if it is there and small enough. -/
def readNumber (ignoring : Bool) (cs : List Char) : Option Nat × List Char :=
  let (digits, rest) := readDigits ignoring (cs.dropWhile Text.isBlank)
  let value := digits.foldl (fun n c => n * 10 + (c.toNat - '0'.toNat)) 0
  (if digits.isEmpty || countLimit ≤ value then none else some value,
    rest.dropWhile Text.isBlank)

/-- Reads the bounds of a repetition after the opening brace: a number, or a number and a comma, or
two numbers in order. -/
def readBounds (ignoring : Bool) (cs : List Char) : Option (Nat × Option Nat × List Char) := do
  let (low, rest) := readNumber ignoring (skip ignoring cs)
  let low ← low
  match rest with
  | '\x7d' :: rest => return (low, some low, rest)
  | ',' :: rest =>
    match skip ignoring rest with
    | '\x7d' :: rest => return (low, none, rest)
    | rest =>
      let (high, rest) := readNumber ignoring rest
      let high ← high
      match rest with
      | '\x7d' :: rest => if low ≤ high then return (low, some high, rest) else none
      | _ => none
  | _ => none

/-- Whether a repetition is greedy, and what is left after it: a question mark behind the bounds
makes it prefer few. -/
def readGreed : List Char → Bool × List Char
  | '?' :: rest => (false, rest)
  | rest => (true, rest)

/-! ### Groups around a place -/

/-- A group that is being read, and what stands before it. -/
structure OpenGroup where
  captures : Bool
  changes : List FlagChange
  /-- Whether blanks are ignored around the group. -/
  ignoring : Bool
  /-- The alternatives before the group, backwards. -/
  alternatives : List Expr
  /-- The parts before the group in its sequence, backwards. -/
  parts : List Expr

/-- How far a pattern has been read. -/
structure Progress where
  outer : List OpenGroup := []
  /-- The finished alternatives of the innermost group, backwards. -/
  alternatives : List Expr := []
  /-- The parts of the current sequence, backwards. -/
  parts : List Expr := []
  /-- Whether blanks are ignored. -/
  ignoring : Bool := false
  /-- The names of groups that have been given. -/
  names : List (List Char) := []

namespace Progress

/-- Adds a part to the current sequence. -/
def add (p : Progress) (e : Expr) : Progress := { p with parts := e :: p.parts }

/-- The innermost group as it has been read. -/
def inner (p : Progress) : Expr :=
  .ofAlternatives (.ofParts p.parts.reverse :: p.alternatives).reverse

/-- Starts the next alternative. -/
def nextAlternative (p : Progress) : Progress :=
  { p with alternatives := .ofParts p.parts.reverse :: p.alternatives, parts := [] }

/-- Starts a group. -/
def openGroup (p : Progress) (captures : Bool) (changes : List FlagChange) : Progress :=
  { p with
    outer := ⟨captures, changes, p.ignoring, p.alternatives, p.parts⟩ :: p.outer
    alternatives := []
    parts := []
    ignoring := (changeOf .ignoreBlanks changes).getD p.ignoring }

/-- Goes on after the head of a group; no two groups have one name. -/
def start? (p : Progress) : GroupHead → Option Progress
  | .flags changes =>
    some { p.add (.flags changes) with
      ignoring := (changeOf .ignoreBlanks changes).getD p.ignoring }
  | .plain changes => some (p.openGroup false changes)
  | .capture none => some (p.openGroup true [])
  | .capture (some name) =>
    if p.names.contains name then none
    else some { p.openGroup true [] with names := name :: p.names }

/-- Ends the innermost group. -/
def close? (p : Progress) : Option Progress :=
  match p.outer with
  | [] => none
  | g :: outer =>
    some { p with
      outer := outer
      alternatives := g.alternatives
      parts := .group g.captures g.changes p.inner :: g.parts
      ignoring := g.ignoring }

/-- Repeats the last part. Flags cannot be repeated. -/
def repeat? (p : Progress) (least : Nat) (most : Option Nat) (greedy : Bool) : Option Progress :=
  match p.parts with
  | [] | .empty :: _ | .flags _ :: _ => none
  | e :: parts => some { p with parts := .repeated e least most greedy :: parts }

/-- The pattern, if no group is left open. -/
def finish? (p : Progress) : Option Expr := if p.outer.isEmpty then some p.inner else none

end Progress

/-! ### The whole pattern -/

/-- A part that stands by itself, given its first sign. -/
def readAtom (ignoring : Bool) (c : Char) (rest : List Char) : Option (Expr × List Char) :=
  if c = '\\' then readEscape ignoring rest
  else if c = '[' then readSet ignoring rest
  else if c = '.' then some (.any, rest)
  else if c = '^' then some (.place .lineStart, rest)
  else if c = '$' then some (.place .lineEnd, rest)
  else some (.literal ⟨c, false⟩, rest)

/-- Reads a pattern to its end; each step takes at least one character. -/
def readParts : (steps : Nat) → Progress → List Char → Option Expr
  | 0, _, _ => none
  | steps + 1, p, cs =>
    match skip p.ignoring cs with
    | [] => p.finish?
    | c :: rest =>
      if c = '(' then do
        let (head, rest) ← readGroupHead (skip p.ignoring rest)
        readParts steps (← p.start? head) rest
      else if c = ')' then do readParts steps (← p.close?) rest
      else if c = '|' then readParts steps p.nextAlternative rest
      else if c = '?' || c = '*' || c = '+' then do
        let (greedy, rest) := readGreed rest
        let most := if c = '?' then some 1 else none
        readParts steps (← p.repeat? (if c = '+' then 1 else 0) most greedy) rest
      else if c = '\x7b' then do
        let (least, most, rest) ← readBounds p.ignoring rest
        let (greedy, rest) := readGreed (skip p.ignoring rest)
        readParts steps (← p.repeat? least most greedy) rest
      else do
        let (e, rest) ← readAtom p.ignoring c rest
        readParts steps (p.add e) rest

/-- The pattern that a text writes, if it writes one. -/
def Expr.ofText? (source : List Char) : Option Expr := readParts (source.length + 1) {} source

end AutomationConfig.Pattern
