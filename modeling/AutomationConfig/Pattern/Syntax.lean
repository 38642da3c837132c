/-! # Patterns

A pattern selects texts. Its parts are characters, sets of characters and places in the text, put
together by sequence, choice and repetition. Flags change how the parts after them are meant, up to
the end of their group. -/

namespace AutomationConfig.Pattern

/-- A switch for the meaning of the parts of a pattern. -/
inductive Flag where
  | caseInsensitive
  | multiLine
  | dotMatchesNewLine
  | swapGreed
  | unicode
  | crlf
  | ignoreBlanks
deriving DecidableEq, Repr

/-- A flag and what it is switched to. -/
structure FlagChange where
  flag : Flag
  on : Bool
deriving DecidableEq, Repr

/-- What a list of changes switches a flag to, if it does. -/
def changeOf (flag : Flag) (changes : List FlagChange) : Option Bool :=
  (changes.find? fun c => c.flag == flag).map (·.on)

/-- A character, which may be written as a byte by two digits of base sixteen. -/
structure Literal where
  char : Char
  isByte : Bool := false
deriving DecidableEq, Repr

/-- A place in the text. -/
inductive Place where
  | lineStart
  | lineEnd
  | textStart
  | textEnd
  | wordBoundary
  | notWordBoundary
  | wordStart
  | wordEnd
  | wordStartHalf
  | wordEndHalf
deriving DecidableEq, Repr

/-- A class of characters with an escape of its own. -/
inductive CommonClass where
  | digit
  | blank
  | word
deriving DecidableEq, Repr

/-- A class of characters by a Unicode property: the name of a class, or of a property and one of
its values. -/
inductive PropertyClass where
  | named (name : String)
  | valued (property value : String)
deriving DecidableEq, Repr

/-- An operation on two sets of characters. -/
inductive SetOperation where
  | intersection
  | difference
  | symmetricDifference
deriving DecidableEq, Repr

mutual

/-- A member of a set of characters. -/
inductive SetItem where
  | literal (l : Literal)
  | range (low high : Literal)
  | ascii (name : String) (negated : Bool)
  | common (kind : CommonClass) (negated : Bool)
  | property (kind : PropertyClass) (negated : Bool)
  | nested (negated : Bool) (set : SetExpr)

/-- A set of characters as it is written. -/
inductive SetExpr where
  | union (items : List SetItem)
  | combined (operation : SetOperation) (left right : SetExpr)

end

instance : Inhabited SetExpr := ⟨.union []⟩

/-- A pattern. -/
inductive Expr where
  /-- Nothing. -/
  | empty
  /-- Changes of flags up to the end of the group. -/
  | flags (changes : List FlagChange)
  /-- A character. -/
  | literal (l : Literal)
  /-- Any character but a line break. -/
  | any
  /-- A place. -/
  | place (kind : Place)
  /-- A character of a common class. -/
  | common (kind : CommonClass) (negated : Bool)
  /-- A character with a property. -/
  | property (kind : PropertyClass) (negated : Bool)
  /-- A character of a set. -/
  | set (negated : Bool) (items : SetExpr)
  /-- Repetitions; without an upper bound any number of them. As many as possible are preferred, or
  as few if they are not greedy. -/
  | repeated (part : Expr) (least : Nat) (most : Option Nat) (greedy : Bool)
  /-- A group, which may capture what it matches, with changes of flags for its part. -/
  | group (captures : Bool) (changes : List FlagChange) (part : Expr)
  /-- One of several. -/
  | choice (alternatives : List Expr)
  /-- One after the other. -/
  | sequence (parts : List Expr)

instance : Inhabited Expr := ⟨.empty⟩

namespace Expr

/-- Parts one after the other; a single part stands for itself. -/
def ofParts : List Expr → Expr
  | [] => empty
  | [e] => e
  | parts => sequence parts

/-- One of several alternatives; a single one stands for itself. -/
def ofAlternatives : List Expr → Expr
  | [] => empty
  | [e] => e
  | alternatives => choice alternatives

end Expr

/-! ### Depth -/

mutual

/-- How deep the parts of a member of a set are nested. -/
def SetItem.depth : SetItem → Nat
  | .nested _ set => set.depth + 1
  | _ => 0

/-- How deep the parts of a set are nested. A single member stands for itself. -/
def SetExpr.depth : SetExpr → Nat
  | .union [] => 0
  | .union [item] => item.depth
  | .union items => itemsDepth items + 1
  | .combined _ left right => max left.depth right.depth + 1

/-- The greatest depth of the members of a set. -/
def itemsDepth : List SetItem → Nat
  | [] => 0
  | item :: rest => max item.depth (itemsDepth rest)

end

mutual

/-- How deep the parts of a pattern are nested. -/
def Expr.depth : Expr → Nat
  | .set _ items => items.depth + 1
  | .repeated part _ _ _ => part.depth + 1
  | .group _ _ part => part.depth + 1
  | .choice alternatives => partsDepth alternatives + 1
  | .sequence parts => partsDepth parts + 1
  | _ => 0

/-- The greatest depth of the parts of a pattern. -/
def partsDepth : List Expr → Nat
  | [] => 0
  | e :: rest => max e.depth (partsDepth rest)

end

end AutomationConfig.Pattern
