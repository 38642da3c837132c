import AutomationConfig.Document.JsonText
import AutomationConfig.Duration.Reading
import AutomationConfig.Number.Power
import AutomationConfig.Outline

/-! # Blocks of a document

A block is a record of named fields. Its schema (`Block`) names the fields once; from it come the
reader, which refuses every name that is not a field, and the outline. A block is written as a map
of its fields, or as a list of them in the order of the schema.

Readers fail with a `Mismatch`, which says what was found where; its text is `Mismatch.message`. -/

namespace AutomationConfig

/-! ### What can be wrong with a document -/

/-- Why a document is not the block it should be. -/
inductive Mismatch where
  /-- A map has an entry that is no field of its block. -/
  | unknownField (name : String) (known : List String)
  /-- A document of another kind than the wanted one. -/
  | wrongKind (found : Document) (wanted : String)
  /-- A document of the wanted kind that stands for no value. -/
  | wrongValue (found : Document) (wanted : String)
  /-- A block given as a list lacks the field at a position. -/
  | missingItem (position : Nat) (block : String) (fields : Nat)
  /-- A block given as a list has more items than fields. -/
  | extraItems (count : Nat)
  /-- A block that names its type is not a map. -/
  | untypedBlock (owner : String)
  /-- A block names no type or several. -/
  | typeCount (owner : String) (found : List String)
  /-- The body of a typed block is not a map. -/
  | bodyNotMap (owner type : String)
  /-- A typed block has a list of bodies that is not of length one. -/
  | bodyCount (owner type : String) (count : Nat)
  /-- A block names a type that its owner does not take. -/
  | unsupportedType (owner type : String) (allowed : List String)
  /-- The body of a typed block does not fit its type. -/
  | inBody (owner type : String) (cause : Mismatch)
  /-- A task has a list of conditions that is not of length one. -/
  | conditionCount (count : Nat)
  /-- A flag beside the fields of a condition is not a truth value. -/
  | flagNotBool (type field : String) (found : Document)
deriving Inhabited

/-- What a document is, in words. -/
def Document.describe : Document → String
  | .null => "null"
  | .bool b => "boolean `" ++ (if b then "true" else "false") ++ "`"
  | .int n => "integer `" ++ toString n ++ "`"
  | .float x => "floating point `" ++ x.text ++ "`"
  | .text s => "string " ++ Text.quote s
  | .list _ => "sequence"
  | .map _ => "map"

/-- What a list of field names lets one expect. -/
def expectedFields (known : List String) : String :=
  let quoted := known.map fun name => "`" ++ name ++ "`"
  match quoted with
  | [] => "there are no fields"
  | [a] => "expected " ++ a
  | [a, b] => "expected " ++ a ++ " or " ++ b
  | names => "expected one of " ++ ", ".intercalate names

/-- The text of a mismatch. -/
def Mismatch.message : Mismatch → String
  | unknownField name known => "unknown field `" ++ name ++ "`, " ++ expectedFields known
  | wrongKind found wanted => "invalid type: " ++ found.describe ++ ", expected " ++ wanted
  | wrongValue found wanted => "invalid value: " ++ found.describe ++ ", expected " ++ wanted
  | missingItem position block fields =>
    "invalid length " ++ toString position ++ ", expected struct " ++ block ++ " with " ++
      toString fields ++ (if fields = 1 then " element" else " elements")
  | extraItems count =>
    "invalid length " ++ toString count ++ ", expected fewer elements in array"
  | untypedBlock owner =>
    owner ++ " block must be a map of the form \x7b\"<type>\": \x7b...\x7d\x7d"
  | typeCount owner found =>
    owner ++ " block must specify exactly one type, found " ++
      (if found.isEmpty then "none"
        else toString found.length ++ " (" ++ ", ".intercalate found ++ ")")
  | bodyNotMap owner type => owner ++ " " ++ Text.quote type ++ " body must be a map"
  | bodyCount owner type count =>
    owner ++ " " ++ Text.quote type ++ " must be configured once, found " ++ toString count ++
      " blocks"
  | unsupportedType owner type allowed =>
    "unsupported " ++ owner ++ " type " ++ Text.quote type ++ "; expected one of: " ++
      ", ".intercalate allowed
  | inBody owner type cause => owner ++ " " ++ Text.quote type ++ ": " ++ cause.message
  | conditionCount count =>
    "a task must have exactly one condition block, found " ++ toString count
  | flagNotBool type field found =>
    "condition " ++ Text.quote type ++ ": " ++ field ++ " must be a boolean, got " ++ found.toJson

/-! ### Values that can be read -/

/-- A type whose values are written as documents. -/
class Readable (α : Type) where
  read : Document → Except Mismatch α

export Readable (read)

instance : Readable Document := ⟨.ok⟩

instance : Readable Bool :=
  ⟨fun
    | .bool b => .ok b
    | d => .error (.wrongKind d "a boolean")⟩

instance : Readable String :=
  ⟨fun
    | .text s => .ok s
    | d => .error (.wrongKind d "a string")⟩

/-- Reads a natural number below a bound. -/
def readBelow (bound : Nat) (wanted : String) : Document → Except Mismatch Nat
  | .int n =>
    if 0 ≤ n ∧ n < bound then .ok n.toNat else .error (.wrongValue (.int n) wanted)
  | d => .error (.wrongKind d wanted)

instance : Readable UInt16 := ⟨fun d => (readBelow (twoPow 16) "u16" d).map UInt16.ofNat⟩
instance : Readable UInt64 := ⟨fun d => (readBelow (twoPow 64) "usize" d).map UInt64.ofNat⟩

instance : Outlined UInt16 := ⟨fun n => outline n.toNat⟩
instance : Outlined UInt64 := ⟨fun n => outline n.toNat⟩

instance : Readable Duration :=
  ⟨fun
    | .text s =>
      match Duration.ofText? s with
      | some d => .ok d
      | none => .error (.wrongValue (.text s) "a duration")
    | d => .error (.wrongKind d "a duration")⟩

variable {α β : Type}

/-- Null leaves a value unset. -/
instance [Readable α] : Readable (Option α) :=
  ⟨fun
    | .null => .ok none
    | d => (read d).map some⟩

theorem read_of_ne_null [Readable α] {d : Document} (h : d ≠ .null) :
    (read d : Except Mismatch (Option α)) = some <$> read d := by
  cases d <;> first | rfl | exact absurd rfl h

/-- Reads the items of a list in order. -/
def readItems [Readable α] : List Document → Except Mismatch (List α)
  | [] => .ok []
  | d :: rest => do
    let a ← read d
    let as ← readItems rest
    return a :: as

instance [Readable α] : Readable (List α) :=
  ⟨fun
    | .list items => readItems items
    | d => .error (.wrongKind d "a sequence")⟩

/-- Reads the values of a map in the order of its entries. -/
def readValues [Readable α] : List (String × Document) → Except Mismatch (List (String × α))
  | [] => .ok []
  | (key, d) :: rest => do
    let a ← read d
    let as ← readValues rest
    return (key, a) :: as

instance [Readable α] : Readable (Table α) :=
  ⟨fun
    | .map entries => (readValues entries).map Table.ofList
    | d => .error (.wrongKind d "a map")⟩

/-! ### Blocks -/

/-- A field of a block. -/
structure Field (β : Type) where
  /-- The name of the field in a document. -/
  key : String
  /-- The name of the field in an outline. -/
  label : String
  /-- Whether a block given as a list must reach to this field. -/
  mandatory : Bool
  /-- Reads the value of the field into a block. -/
  read : Document → β → Except Mismatch β
  /-- The outline of the value of the field. -/
  outline : β → Outline

namespace Field

/-- The field of that name whose value `get` and `put` take from a block and put into it. -/
def of [Readable α] [Outlined α] (name : String) (get : β → α) (put : α → β → β) : Field β where
  key := name
  label := name
  mandatory := true
  read d b := do return put (← Readable.read d) b
  outline b := AutomationConfig.outline (get b)

/-- The field, which a block given as a list may leave out. -/
def optional (f : Field β) : Field β := { f with mandatory := false }

/-- The field under another name in outlines. -/
def labelled (f : Field β) (label : String) : Field β := { f with label := label }

/-- A field for a credential: an outline shows only whether it is set. -/
def secret (name : String) (get : β → Option String) (put : Option String → β → β) : Field β :=
  { of name get put with
    outline := fun b => match get b with
      | none => .word "None"
      | some _ => .apply "Some" [.redacted] }

end Field

/-- The schema of a block. -/
class Block (β : Type) where
  /-- The name of the block in messages and outlines. -/
  name : String
  /-- The block with no field set. -/
  blank : β
  fields : List (Field β)

namespace Block

/-- The names of the fields in documents. -/
def fieldNames (β : Type) [Block β] : List String := (fields (β := β)).map (·.key)

/-- Reads the entries of a map into a block. -/
def readEntries (fields : List (Field β)) : List (String × Document) → β → Except Mismatch β
  | [], b => .ok b
  | (key, d) :: rest, b =>
    match fields.find? fun f => f.key == key with
    | none => .error (.unknownField key (fields.map (·.key)))
    | some f => do readEntries fields rest (← f.read d b)

/-- Reads the items of a list into the fields of a block in their order; `position` items have been
read. -/
def readPositions (name : String) (total count position : Nat) :
    List (Field β) → List Document → β → Except Mismatch β
  | [], [], b => .ok b
  | [], _ :: _, _ => .error (.extraItems count)
  | f :: fs, d :: ds, b => do
    readPositions name total count (position + 1) fs ds (← f.read d b)
  | f :: fs, [], b =>
    if f.mandatory then .error (.missingItem position name total)
    else readPositions name total count (position + 1) fs [] b

/-- Reads a block. -/
def readBlock [Block β] : Document → Except Mismatch β
  | .map entries => readEntries fields entries blank
  | .list items =>
    readPositions (name β) (fields (β := β)).length items.length 0 fields items blank
  | d => .error (.wrongKind d ("struct " ++ name β))

/-- The outline of a block. -/
def outlineBlock [Block β] (b : β) : Outline :=
  .record (name β) (fields.map fun f => (f.label, f.outline b))

end Block

instance [Block β] : Readable β := ⟨Block.readBlock⟩
instance [Block β] : Outlined β := ⟨Block.outlineBlock⟩

end AutomationConfig
