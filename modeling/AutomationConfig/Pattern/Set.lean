import AutomationConfig.Pattern.Atom
import AutomationConfig.Pattern.NamedClass

/-! # Reading sets of characters

A set stands between brackets and may hold sets. It is read with the sets around it on a stack; the
operations on sets associate to the left, and what stands between two of them is a union. -/

namespace AutomationConfig.Pattern

/-- A set that is being read. -/
structure OpenSet where
  negated : Bool
  /-- The set before the last operation, and the operation. -/
  left : Option (SetOperation × SetExpr) := none
  /-- The members after the last operation, backwards. -/
  items : List SetItem := []

namespace OpenSet

/-- Adds a member. -/
def add (s : OpenSet) (item : SetItem) : OpenSet := { s with items := item :: s.items }

/-- Adds a character. -/
def addChar (s : OpenSet) (c : Char) : OpenSet := s.add (.literal ⟨c, false⟩)

/-- The set that has been read. -/
def value (s : OpenSet) : SetExpr :=
  let last := SetExpr.union s.items.reverse
  match s.left with
  | none => last
  | some (operation, left) => .combined operation left last

/-- Makes what has been read the left side of an operation. -/
def operate (s : OpenSet) (operation : SetOperation) : OpenSet :=
  { s with left := some (operation, s.value), items := [] }

end OpenSet

/-! ### Members -/

/-- A class between colons, after its opening bracket. -/
def readAsciiClass (cs : List Char) : Option (SetItem × List Char) :=
  match cs with
  | ':' :: rest =>
    let negated := rest.head? == some '^'
    let rest := if negated then rest.drop 1 else rest
    let name := String.ofList (rest.takeWhile (· != ':'))
    match rest.dropWhile (· != ':') with
    | ':' :: ']' :: rest =>
      if (asciiClass? name).isSome then some (.ascii name negated, rest) else none
    | _ => none
  | _ => none

/-- A character or an escape. -/
def readMember (ignoring : Bool) : List Char → Option (Expr × List Char)
  | [] => none
  | '\\' :: rest => readEscape ignoring rest
  | c :: rest => some (.literal ⟨c, false⟩, rest)

/-- The member of a set that a part of a pattern stands for, if it may stand there. -/
def asItem? : Expr → Option SetItem
  | .literal l => some (.literal l)
  | .common kind negated => some (.common kind negated)
  | .property kind negated => some (.property kind negated)
  | _ => none

/-- The character that a part of a pattern stands for. -/
def asLiteral? : Expr → Option Literal
  | .literal l => some l
  | _ => none

/-- The sign that follows a dash. Of a comment only the number sign is passed over. -/
def signAfterDash (ignoring : Bool) (cs : List Char) : Option Char :=
  if ignoring then
    match cs.dropWhile Text.isBlank with
    | '#' :: rest => (rest.dropWhile Text.isBlank).head?.or cs.head?
    | rest => rest.head?.or cs.head?
  else cs.head?

/-- A member, or a range of characters. -/
def readRange (ignoring : Bool) (cs : List Char) : Option (SetItem × List Char) := do
  let (first, rest) ← readMember ignoring cs
  match skip ignoring rest with
  | [] => none
  | '-' :: after =>
    let sign := signAfterDash ignoring after
    if sign == some ']' || sign == some '-' then return (← asItem? first, '-' :: after)
    else
      let (second, rest) ← readMember ignoring (skip ignoring after)
      let low ← asLiteral? first
      let high ← asLiteral? second
      if low.char ≤ high.char then return (.range low high, rest) else none
  | rest => return (← asItem? first, rest)

/-! ### Sets -/

/-- Adds the dashes that a set starts with, which stand for themselves. -/
def readDashes (ignoring : Bool) (s : OpenSet) (cs : List Char) : OpenSet × List Char :=
  match _h : skip ignoring cs with
  | '-' :: rest => readDashes ignoring (s.addChar '-') rest
  | rest => (s, rest)
termination_by cs.length
decreasing_by
  have := length_skip_le ignoring cs
  simp only [_h, List.length_cons] at this
  omega

/-- The start of a set after its opening bracket: a caret that turns it round, dashes, and a closing
bracket in the first place, which stands for itself. -/
def openSet (ignoring : Bool) (cs : List Char) : OpenSet × List Char :=
  let cs := skip ignoring cs
  let negated := cs.head? == some '^'
  let (s, rest) := readDashes ignoring { negated } (if negated then cs.drop 1 else cs)
  match rest with
  | ']' :: after => if s.items.isEmpty then (s.addChar ']', after) else (s, rest)
  | _ => (s, rest)

/-- Reads a set to its end, inside the sets `outer`. -/
def readMembers (ignoring : Bool) : (steps : Nat) → OpenSet → (outer : List OpenSet) →
    List Char → Option (Expr × List Char)
  | 0, _, _, _ => none
  | steps + 1, s, outer, cs =>
    match skip ignoring cs with
    | [] => none
    | '[' :: rest =>
      match readAsciiClass rest with
      | some (item, rest) => readMembers ignoring steps (s.add item) outer rest
      | none =>
        let (inner, rest) := openSet ignoring rest
        readMembers ignoring steps inner (s :: outer) rest
    | ']' :: rest =>
      match outer with
      | [] => some (.set s.negated s.value, rest)
      | next :: outer =>
        readMembers ignoring steps (next.add (.nested s.negated s.value)) outer rest
    | '&' :: '&' :: rest => readMembers ignoring steps (s.operate .intersection) outer rest
    | '-' :: '-' :: rest => readMembers ignoring steps (s.operate .difference) outer rest
    | '~' :: '~' :: rest =>
      readMembers ignoring steps (s.operate .symmetricDifference) outer rest
    | cs => do
      let (item, rest) ← readRange ignoring cs
      readMembers ignoring steps (s.add item) outer rest

/-- A set after its opening bracket. -/
def readSet (ignoring : Bool) (cs : List Char) : Option (Expr × List Char) :=
  let (s, rest) := openSet ignoring cs
  readMembers ignoring (rest.length + 1) s [] rest

end AutomationConfig.Pattern
