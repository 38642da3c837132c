import AutomationConfig.Document
import AutomationConfig.Number.Shortest

/-! # Documents as JSON text

A document is written as JSON without blanks, the entries of maps in their order. Floats are
written with a point or an exponent, so that they are not taken for integers. -/

namespace AutomationConfig.Document

/-- How a character stands in a JSON text. -/
def escapeJson (c : Char) : List Char :=
  if c = '"' then ['\\', '"']
  else if c = '\\' then ['\\', '\\']
  else if c = '\n' then ['\\', 'n']
  else if c = '\r' then ['\\', 'r']
  else if c = '\t' then ['\\', 't']
  else if c = '\x08' then ['\\', 'b']
  else if c = '\x0c' then ['\\', 'f']
  else if c.toNat < 0x20 then
    ['\\', 'u', '0', '0'] ++ (if c.toNat < 0x10 then ['0'] else []) ++ Nat.toDigits 16 c.toNat
  else [c]

/-- A JSON text between its quotation marks. -/
def jsonString (s : String) : String :=
  String.ofList ('"' :: (s.toList.flatMap escapeJson ++ ['"']))

mutual

/-- The document as JSON. -/
def toJson : Document → String
  | null => "null"
  | bool true => "true"
  | bool false => "false"
  | int n => toString n
  | float x => x.text
  | text s => jsonString s
  | list items => "[" ++ ",".intercalate (toJsonItems items) ++ "]"
  | map entries => "\x7b" ++ ",".intercalate (toJsonEntries entries) ++ "\x7d"

/-- Each document as JSON. -/
def toJsonItems : List Document → List String
  | [] => []
  | d :: rest => toJson d :: toJsonItems rest

/-- Each entry as a JSON member. -/
def toJsonEntries : List (String × Document) → List String
  | [] => []
  | (k, d) :: rest => (jsonString k ++ ":" ++ toJson d) :: toJsonEntries rest

end

end AutomationConfig.Document
