import AutomationConfig.Number.Binary64
import AutomationConfig.Table

/-! # Documents

A document is what a configuration file says before its blocks are told apart: scalars, lists and
maps from names to documents. The readers of the file formats put the entries of every map in
increasing order of their names. -/

namespace AutomationConfig

/-- A parsed configuration file, or a part of one. -/
inductive Document where
  | null
  | bool (value : Bool)
  | int (value : Int)
  | float (value : Binary64)
  | text (value : String)
  | list (items : List Document)
  | map (entries : List (String × Document))
deriving Inhabited

namespace Document

/-! ### Equality -/

mutual

/-- Whether two documents say the same. An integer differs from a float of the same value, and the
two zeros among the floats do not differ. -/
def same : Document → Document → Bool
  | null, null => true
  | bool a, bool b => a == b
  | int a, int b => a == b
  | float a, float b => a == b
  | text a, text b => a == b
  | list a, list b => sameItems a b
  | map a, map b => sameEntries a b
  | _, _ => false

/-- Whether two lists of documents say the same, item by item. -/
def sameItems : List Document → List Document → Bool
  | [], [] => true
  | a :: as, b :: bs => same a b && sameItems as bs
  | _, _ => false

/-- Whether two lists of entries say the same, entry by entry. -/
def sameEntries : List (String × Document) → List (String × Document) → Bool
  | [], [] => true
  | (k, a) :: as, (l, b) :: bs => k == l && same a b && sameEntries as bs
  | _, _ => false

end

instance : BEq Document := ⟨same⟩

/-! ### Parts -/

/-- The map with these entries; of several under one name the last counts. -/
def ofEntries (entries : List (String × Document)) : Document :=
  map (entries.foldl (fun es e => insertEntry e.1 e.2 es) [])

/-- The entries, if this is a map. -/
def entries? : Document → Option (List (String × Document))
  | map entries => some entries
  | _ => none

/-- The text, if this is one. -/
def text? : Document → Option String
  | text s => some s
  | _ => none

/-- The truth value, if this is one. -/
def bool? : Document → Option Bool
  | bool b => some b
  | _ => none

/-- Whether this is a text. -/
def isText (d : Document) : Bool := d.text?.isSome

mutual

/-- Whether some text in the document, at any depth, has the property. Names of entries do not
count. -/
def anyText (p : String → Bool) : Document → Bool
  | text s => p s
  | list items => anyTextItems p items
  | map entries => anyTextEntries p entries
  | _ => false

/-- Whether some text in one of the documents has the property. -/
def anyTextItems (p : String → Bool) : List Document → Bool
  | [] => false
  | d :: rest => anyText p d || anyTextItems p rest

/-- Whether some text in one of the values has the property. -/
def anyTextEntries (p : String → Bool) : List (String × Document) → Bool
  | [] => false
  | (_, d) :: rest => anyText p d || anyTextEntries p rest

end

end Document

end AutomationConfig
