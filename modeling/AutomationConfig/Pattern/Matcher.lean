import AutomationConfig.Text.CharSet

/-! # Matchers

A matcher is a pattern without its flags: its sets are sets of characters, its texts are as long as
they can be, and what can be put more simply has been. Matchers are made with `ofSet`, `ofSequence`,
`ofChoice` and `ofRepeated`, which keep it so. -/

namespace AutomationConfig.Pattern

open Text (CharSet)

/-- A place in the text, with the flags that matter for it. -/
inductive Anchor where
  | textStart
  | textEnd
  | lineStart (crlf : Bool)
  | lineEnd (crlf : Bool)
  | wordBoundary (unicode : Bool)
  | notWordBoundary (unicode : Bool)
  | wordStart (unicode : Bool)
  | wordEnd (unicode : Bool)
  | wordStartHalf (unicode : Bool)
  | wordEndHalf (unicode : Bool)
deriving DecidableEq, Repr

/-- A simplified pattern. -/
inductive Matcher where
  /-- The empty text. -/
  | empty
  /-- A text. -/
  | text (chars : List Char)
  /-- A character of a set, which may be meant as a set of bytes. -/
  | oneOf (ofBytes : Bool) (set : CharSet)
  /-- A place. -/
  | place (anchor : Anchor)
  /-- Repetitions. -/
  | repeated (part : Matcher) (least : Nat) (most : Option Nat) (greedy : Bool)
  /-- A group that captures what it matches, by its number. -/
  | captured (number : Nat) (part : Matcher)
  /-- One after the other. -/
  | sequence (parts : List Matcher)
  /-- One of several. -/
  | choice (alternatives : List Matcher)

namespace Matcher

instance : Inhabited Matcher := ⟨.empty⟩

/-- Matches nothing. -/
def nothing : Matcher := .oneOf true .empty

/-! ### Equality -/

mutual

/-- Whether two matchers are the same. -/
def same : Matcher → Matcher → Bool
  | .empty, .empty => true
  | .text s, .text t => s == t
  | .oneOf b s, .oneOf c t => b == c && s == t
  | .place a, .place b => a == b
  | .repeated p least most greedy, .repeated q least' most' greedy' =>
    p.same q && least == least' && most == most' && greedy == greedy'
  | .captured m p, .captured n q => m == n && p.same q
  | .sequence ps, .sequence qs => allSame ps qs
  | .choice ps, .choice qs => allSame ps qs
  | _, _ => false

/-- Whether two lists of matchers are the same. -/
def allSame : List Matcher → List Matcher → Bool
  | [], [] => true
  | p :: ps, q :: qs => p.same q && allSame ps qs
  | _, _ => false

end

/-! ### Lengths -/

/-- How many bytes a character takes. -/
def codeSize (code : Nat) : Nat :=
  if code < 0x80 then 1 else if code < 0x800 then 2 else if code < 0x10000 then 3 else 4

/-- How many bytes a text takes. -/
def textSize (chars : List Char) : Nat := chars.foldl (fun size c => size + c.utf8Size) 0

mutual

/-- The length in bytes of the shortest texts that match; none if nothing may match. -/
def shortest? : Matcher → Option Nat
  | .empty => some 0
  | .text chars => some (textSize chars)
  | .oneOf _ set => set.ranges.head?.map fun r => codeSize r.1
  | .place _ => some 0
  | .repeated part least _ _ => part.shortest?.map (· * least)
  | .captured _ part => part.shortest?
  | .sequence parts => shortestSum? parts
  | .choice alternatives => shortestOf? alternatives

/-- The sum of the shortest lengths. -/
def shortestSum? : List Matcher → Option Nat
  | [] => some 0
  | p :: rest => do return (← p.shortest?) + (← shortestSum? rest)

/-- The least of the shortest lengths, if all alternatives have one. -/
def shortestOf? : List Matcher → Option Nat
  | [] => none
  | [p] => p.shortest?
  | p :: rest => do return min (← p.shortest?) (← shortestOf? rest)

end

mutual

/-- The length in bytes of the longest texts that match; none if there is no bound. -/
def longest? : Matcher → Option Nat
  | .empty => some 0
  | .text chars => some (textSize chars)
  | .oneOf _ set => set.ranges.getLast?.map fun r => codeSize r.2
  | .place _ => some 0
  | .repeated part _ most _ => do return (← part.longest?) * (← most)
  | .captured _ part => part.longest?
  | .sequence parts => longestSum? parts
  | .choice alternatives => longestOf? alternatives

/-- The sum of the longest lengths. -/
def longestSum? : List Matcher → Option Nat
  | [] => some 0
  | p :: rest => do return (← p.longest?) + (← longestSum? rest)

/-- The greatest of the longest lengths, if all alternatives have one. -/
def longestOf? : List Matcher → Option Nat
  | [] => none
  | [p] => p.longest?
  | p :: rest => do return max (← p.longest?) (← longestOf? rest)

end

/-- Whether a matcher matches no text but the empty one. -/
def isEmptyOnly (m : Matcher) : Bool := m.longest? == some 0

/-- Whether every text that matches has characters. -/
def isNeverEmpty (m : Matcher) : Bool := m.shortest?.any (0 < ·)

/-! ### Anchored matchers -/

mutual

/-- Whether every match starts where the text starts. -/
def isAnchoredStart : Matcher → Bool
  | .place .textStart => true
  | .repeated part least _ _ => 0 < least && part.isAnchoredStart
  | .captured _ part => part.isAnchoredStart
  | .sequence parts => anchoredStart parts
  | .choice alternatives => allAnchoredStart alternatives
  | _ => false

/-- Whether a sequence requires the start of the text before it matches a character. -/
def anchoredStart : List Matcher → Bool
  | [] => false
  | p :: rest => p.isAnchoredStart || (p.isEmptyOnly && anchoredStart rest)

/-- Whether all alternatives require the start of the text. -/
def allAnchoredStart : List Matcher → Bool
  | [] => true
  | p :: rest => p.isAnchoredStart && allAnchoredStart rest

end

mutual

/-- Whether every match ends where the text ends. -/
def isAnchoredEnd : Matcher → Bool
  | .place .textEnd => true
  | .repeated part least _ _ => 0 < least && part.isAnchoredEnd
  | .captured _ part => part.isAnchoredEnd
  | .sequence parts => anchoredEnd parts
  | .choice alternatives => allAnchoredEnd alternatives
  | _ => false

/-- Whether a sequence requires the end of the text behind its last character. -/
def anchoredEnd : List Matcher → Bool
  | [] => false
  | p :: rest => anchoredEnd rest || (rest.all isEmptyOnly && p.isAnchoredEnd)

/-- Whether all alternatives require the end of the text. -/
def allAnchoredEnd : List Matcher → Bool
  | [] => true
  | p :: rest => p.isAnchoredEnd && allAnchoredEnd rest

end

/-! ### Making matchers -/

/-- A character of a set. A set with one member is a text. -/
def ofSet (ofBytes : Bool) (set : CharSet) : Matcher :=
  match set.ranges with
  | [] => nothing
  | [(low, high)] => if low = high then .text [Char.ofNat low] else .oneOf ofBytes set
  | _ => .oneOf ofBytes set

/-- The parts that a matcher stands for in a sequence. -/
def parts : Matcher → List Matcher
  | .sequence parts => parts
  | m => [m]

/-- Puts a part before the parts of a sequence. Texts are joined, and the empty text is left out. -/
def before : Matcher → List Matcher → List Matcher
  | .empty, rest => rest
  | .text s, .text t :: rest => .text (s ++ t) :: rest
  | m, rest => m :: rest

/-- Matchers one after the other. -/
def ofSequence (matchers : List Matcher) : Matcher :=
  match (matchers.flatMap parts).foldr before [] with
  | [] => .empty
  | [m] => m
  | parts => .sequence parts

/-- Repetitions of a matcher. To repeat what is always empty more than once makes no difference. -/
def ofRepeated (part : Matcher) (least : Nat) (most : Option Nat) (greedy : Bool) : Matcher :=
  let least := if part.isEmptyOnly then min least 1 else least
  let most := if part.isEmptyOnly then some (min (most.getD 1) 1) else most
  match least, most with
  | 0, some 0 => .empty
  | 1, some 1 => part
  | _, _ => .repeated part least most greedy

/-- The alternatives that a matcher stands for in a choice. -/
def alternatives : Matcher → List Matcher
  | .choice alternatives => alternatives
  | m => [m]

/-- The character that a text of one character consists of. -/
def char? : Matcher → Option Nat
  | .text [c] => some c.toNat
  | _ => none

/-- The set that a matcher matches one character of. -/
def set? : Matcher → Option CharSet
  | .oneOf _ set => some set
  | _ => none

/-- The parts of a sequence. -/
def sequence? : Matcher → Option (List Matcher)
  | .sequence parts => some parts
  | _ => none

/-- One of several matchers. Characters make a set, and so do sets. -/
def ofAlternatives (matchers : List Matcher) : Matcher :=
  match matchers.flatMap alternatives with
  | [] => nothing
  | [m] => m
  | matchers =>
    match matchers.mapM char? with
    | some chars => ofSet false (.ofCodes chars)
    | none =>
      match matchers.mapM set? with
      | some sets => ofSet false (.ofRanges (sets.flatMap (·.ranges)))
      | none => .choice matchers

/-- The parts that two sequences start with alike. -/
def commonStart : List Matcher → List Matcher → List Matcher
  | p :: ps, q :: qs => if p.same q then p :: commonStart ps qs else []
  | _, _ => []

/-- One of several matchers. What all alternatives start with alike is taken out of the choice. What
is left of them then has no common start. -/
def ofChoice (matchers : List Matcher) : Matcher :=
  let choice := ofAlternatives matchers
  match choice.alternatives.mapM sequence? with
  | some (first :: second :: rest) =>
    match (second :: rest).foldl commonStart first with
    | [] => choice
    | start =>
      let ends := (first :: second :: rest).map fun parts => ofSequence (parts.drop start.length)
      ofSequence (start ++ [ofAlternatives ends])
  | _ => choice

end Matcher

end AutomationConfig.Pattern
