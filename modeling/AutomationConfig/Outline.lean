import AutomationConfig.Document
import AutomationConfig.Duration
import AutomationConfig.Number.Shortest
import AutomationConfig.Text.Quoted

/-! # Outlines

An outline is what inspection shows of a value: names, texts between quotation marks, lists, maps
and records. A credential is outlined as `redacted`, so nothing that is rendered from an outline can
depend on it. An outline is rendered on one line (`compact`) or with one part on each line
(`indented`). -/

namespace AutomationConfig

/-- The parts of a value that inspection shows. -/
inductive Outline where
  /-- A word or a number, as it is. -/
  | word (s : String)
  /-- A text, between quotation marks. -/
  | text (s : String)
  /-- A name and the parts it is applied to, between parentheses. -/
  | apply (name : String) (parts : List Outline)
  /-- A name and named parts, between braces. -/
  | record (name : String) (fields : List (String × Outline))
  /-- Parts between brackets. -/
  | list (items : List Outline)
  /-- Parts under texts, between braces. -/
  | map (entries : List (String × Outline))
  /-- A word in front of a part. -/
  | tagged (word : String) (part : Outline)
deriving Inhabited

namespace Outline

/-- What stands in place of a credential. -/
def redactedText : String := "(redacted)"

/-- The outline of a credential. -/
def redacted : Outline := word redactedText

/-! ### On one line -/

mutual

/-- The outline on one line. -/
def compact : Outline → String
  | word s => s
  | text s => Text.quote s
  | apply name parts => name ++ "(" ++ ", ".intercalate (compactItems parts) ++ ")"
  | record name [] => name
  | record name fields => name ++ " \x7b " ++ ", ".intercalate (compactFields fields) ++ " \x7d"
  | list items => "[" ++ ", ".intercalate (compactItems items) ++ "]"
  | map entries => "\x7b" ++ ", ".intercalate (compactEntries entries) ++ "\x7d"
  | tagged w part => w ++ " " ++ compact part

/-- Each outline on one line. -/
def compactItems : List Outline → List String
  | [] => []
  | o :: rest => compact o :: compactItems rest

/-- Each field on one line. -/
def compactFields : List (String × Outline) → List String
  | [] => []
  | (name, o) :: rest => (name ++ ": " ++ compact o) :: compactFields rest

/-- Each entry on one line. -/
def compactEntries : List (String × Outline) → List String
  | [] => []
  | (key, o) :: rest => (Text.quote key ++ ": " ++ compact o) :: compactEntries rest

end

/-! ### On many lines -/

/-- The start of a line at the given depth. -/
def margin (depth : Nat) : String := "\n" ++ String.ofList (List.replicate (4 * depth) ' ')

/-- Lines between an opening and a closing mark, or just the two marks. -/
def enclose (opening closing : String) (depth : Nat) (lines : List String) : String :=
  if lines.isEmpty then opening ++ closing
  else opening ++ String.join (lines.map fun l => margin (depth + 1) ++ l ++ ",") ++
    margin depth ++ closing

mutual

/-- The outline with one part on each line, its first line being at the given depth. -/
def indentedAt (depth : Nat) : Outline → String
  | word s => s
  | text s => Text.quote s
  | apply name parts => name ++ enclose "(" ")" depth (indentedItems (depth + 1) parts)
  | record name [] => name
  | record name fields =>
    name ++ " " ++ enclose "\x7b" "\x7d" depth (indentedFields (depth + 1) fields)
  | list items => enclose "[" "]" depth (indentedItems (depth + 1) items)
  | map entries => enclose "\x7b" "\x7d" depth (indentedEntries (depth + 1) entries)
  | tagged w part => w ++ " " ++ indentedAt depth part

/-- Each outline with one part on each line. -/
def indentedItems (depth : Nat) : List Outline → List String
  | [] => []
  | o :: rest => indentedAt depth o :: indentedItems depth rest

/-- Each field with one part on each line. -/
def indentedFields (depth : Nat) : List (String × Outline) → List String
  | [] => []
  | (name, o) :: rest => (name ++ ": " ++ indentedAt depth o) :: indentedFields depth rest

/-- Each entry with one part on each line. -/
def indentedEntries (depth : Nat) : List (String × Outline) → List String
  | [] => []
  | (key, o) :: rest =>
    (Text.quote key ++ ": " ++ indentedAt depth o) :: indentedEntries depth rest

end

/-- The outline with one part on each line. -/
def indented (o : Outline) : String := indentedAt 0 o

end Outline

/-! ### Values that can be outlined -/

/-- A type whose values can be inspected. -/
class Outlined (α : Type) where
  outline : α → Outline

export Outlined (outline)

instance : Outlined Bool := ⟨fun b => .word (if b then "true" else "false")⟩
instance : Outlined Nat := ⟨fun n => .word (toString n)⟩
instance : Outlined String := ⟨.text⟩
instance : Outlined Duration := ⟨fun d => .word d.text⟩

instance {α : Type} [Outlined α] : Outlined (Option α) :=
  ⟨fun
    | none => .word "None"
    | some a => .apply "Some" [outline a]⟩

instance {α : Type} [Outlined α] : Outlined (List α) := ⟨fun as => .list (as.map outline)⟩

instance {α : Type} [Outlined α] : Outlined (Table α) :=
  ⟨fun t => .map (t.entries.map fun e => (e.1, outline e.2))⟩

namespace Document

mutual

/-- The outline of a document names the kind of each of its parts. -/
def toOutline : Document → Outline
  | null => .word "Null"
  | bool b => .word (if b then "Bool(true)" else "Bool(false)")
  | int n => .word ("Number(" ++ toString n ++ ")")
  | float x => .word ("Number(" ++ x.text ++ ")")
  | text s => .word ("String(" ++ Text.quote s ++ ")")
  | list items => .tagged "Array" (.list (toOutlines items))
  | map entries => .tagged "Object" (.map (toOutlineEntries entries))

/-- The outline of each document. -/
def toOutlines : List Document → List Outline
  | [] => []
  | d :: rest => toOutline d :: toOutlines rest

/-- The outline of each entry. -/
def toOutlineEntries : List (String × Document) → List (String × Outline)
  | [] => []
  | (k, d) :: rest => (k, toOutline d) :: toOutlineEntries rest

end

end Document

instance : Outlined Document := ⟨Document.toOutline⟩

end AutomationConfig
