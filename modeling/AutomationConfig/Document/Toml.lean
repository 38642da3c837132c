import AutomationConfig.Document
import AutomationConfig.Text.Hex

/-! # TOML

`ofToml?` reads a TOML text (version 1.1) as a document and refuses anything else. A date or time
becomes a map of one entry that holds its normal form, and so does a table whose first entry has the
name for it. An infinity or a value that is no number becomes null.

While a text is read, tables are kept as `Node`s, which remember how a table came about: a header
may open each table once, and a dotted key may reach only into tables that no header has opened. -/

namespace AutomationConfig.Document.Toml

/-! ### Tables under construction -/

/-- How a table came about. -/
inductive Origin where
  /-- A header names the table itself. -/
  | header
  /-- A header names a table inside it. -/
  | implied
  /-- A dotted key names an entry inside it. -/
  | dotted
deriving DecidableEq, Repr

/-- What a name stands for while the text is read. -/
inductive Node where
  /-- A value; nothing can be added to it. -/
  | value (d : Document)
  /-- A table to which entries can be added. -/
  | table (origin : Origin) (entries : List (String × Node))
  /-- A list of tables, each opened by a header of its own; the last comes first. -/
  | tables (elements : List (List (String × Node)))
deriving Inhabited

mutual

/-- The document that a node stands for. -/
def Node.toDocument : Node → Document
  | .value d => d
  | .table _ entries => .map (Node.toEntries entries)
  | .tables elements => .list (Node.toItems elements).reverse

/-- The entries of a table as entries of a document. -/
def Node.toEntries : List (String × Node) → List (String × Document)
  | [] => []
  | (k, n) :: rest => (k, n.toDocument) :: Node.toEntries rest

/-- The tables of a list as items of a document. -/
def Node.toItems : List (List (String × Node)) → List Document
  | [] => []
  | entries :: rest => .map (Node.toEntries entries) :: Node.toItems rest

end

/-- Changes the table that the header with this path has opened. -/
def changeTable (change : List (String × Node) → Option (List (String × Node))) :
    List String → List (String × Node) → Option (List (String × Node))
  | [], entries => change entries
  | key :: path, entries =>
    match findEntry key entries with
    | some (.table origin inner) => do
      let inner ← changeTable change path inner
      return insertEntry key (.table origin inner) entries
    | some (.tables (last :: others)) => do
      let last ← changeTable change path last
      return insertEntry key (.tables (last :: others)) entries
    | _ => none

/-- Opens the table or, if `isElement`, the next element of the list of tables that a header
names. -/
def openTable (isElement : Bool) : List String → List (String × Node) →
    Option (List (String × Node))
  | [], _ => none
  | [key], entries =>
    match findEntry key entries, isElement with
    | none, false => some (insertEntry key (.table .header []) entries)
    | some (.table .implied inner), false => some (insertEntry key (.table .header inner) entries)
    | none, true => some (insertEntry key (.tables [[]]) entries)
    | some (.tables elements), true => some (insertEntry key (.tables ([] :: elements)) entries)
    | _, _ => none
  | key :: path, entries =>
    match findEntry key entries with
    | none => do
      let inner ← openTable isElement path []
      return insertEntry key (.table .implied inner) entries
    | some (.table origin inner) => do
      let inner ← openTable isElement path inner
      return insertEntry key (.table origin inner) entries
    | some (.tables (last :: others)) => do
      let last ← openTable isElement path last
      return insertEntry key (.tables (last :: others)) entries
    | some _ => none

/-- Puts a value under a dotted key into a table. Every table on the way must be free of a header
of its own, and the innermost one must be a dotted table. -/
def assign (value : Node) : (inDotted : Bool) → List String → List (String × Node) →
    Option (List (String × Node))
  | _, [], _ => none
  | inDotted, [key], entries =>
    match inDotted, findEntry key entries with
    | true, none => some (insertEntry key value entries)
    | _, _ => none
  | _, key :: path, entries =>
    match findEntry key entries with
    | none => do
      let inner ← assign value true path []
      return insertEntry key (.table .dotted inner) entries
    | some (.table .header _) => none
    | some (.table origin inner) => do
      let inner ← assign value (origin == .dotted) path inner
      return insertEntry key (.table origin inner) entries
    | some (.tables (last :: others)) => do
      let last ← assign value false path last
      return insertEntry key (.tables (last :: others)) entries
    | some _ => none

/-- Puts a value under a key, dotted or not, into a table that a header or a brace has opened. -/
def assignKey (value : Node) (key : List String) (entries : List (String × Node)) :
    Option (List (String × Node)) :=
  assign value true key entries

/-! ### Blanks, comments and line ends -/

/-- Whether the character is a blank inside a line. -/
def isSpace (c : Char) : Bool := c == ' ' || c == '\t'

/-- The text after the blanks it starts with. -/
def skipSpace (cs : List Char) : List Char := cs.dropWhile isSpace

/-- Whether a comment, and a text between single quotation marks, may hold the character. -/
def isPlain (c : Char) : Bool := c == '\t' || (0x20 ≤ c.toNat && c.toNat != 0x7F)

/-- The text after a comment, if it starts with one, up to the end of the line. -/
def skipComment : List Char → List Char
  | '#' :: rest => rest.dropWhile isPlain
  | cs => cs

/-- What is left after the end of a line, which the text must start with. -/
def afterLineEnd? : List Char → Option (List Char)
  | '\n' :: rest => some rest
  | '\r' :: '\n' :: rest => some rest
  | _ => none

/-- The text after all blanks, comments and line ends it starts with. -/
def skipLines : Nat → List Char → List Char
  | 0, cs => cs
  | steps + 1, cs =>
    let rest := skipComment (skipSpace cs)
    match afterLineEnd? rest with
    | some rest => skipLines steps rest
    | none => rest

/-- The text after all blanks, comments and line ends it starts with. -/
def skipBlank (cs : List Char) : List Char := skipLines cs.length cs

/-- What is left of the text after the rest of a line, which must hold nothing but a comment. -/
def finishLine? (cs : List Char) : Option (List Char) :=
  match skipComment (skipSpace cs) with
  | [] => some []
  | rest => afterLineEnd? rest

/-! ### Texts -/

/-- The value of exactly `count` hexadecimal digits, and what is left. -/
def readHex (count : Nat) (value : Nat) (cs : List Char) : Option (Nat × List Char) :=
  match count, cs with
  | 0, cs => some (value, cs)
  | count + 1, c :: cs => do
    let digit ← Text.hexValue? c
    readHex count (value * 16 + digit) cs
  | _, [] => none

/-- The character of an escape after its backslash, and what is left. -/
def readEscape : List Char → Option (Char × List Char)
  | 'b' :: rest => some ('\x08', rest)
  | 't' :: rest => some ('\t', rest)
  | 'n' :: rest => some ('\n', rest)
  | 'f' :: rest => some ('\x0c', rest)
  | 'r' :: rest => some ('\r', rest)
  | 'e' :: rest => some ('\x1b', rest)
  | '"' :: rest => some ('"', rest)
  | '\\' :: rest => some ('\\', rest)
  | 'x' :: rest => do
    let (n, rest) ← readHex 2 0 rest
    return (← Text.charOf? n, rest)
  | 'u' :: rest => do
    let (n, rest) ← readHex 4 0 rest
    return (← Text.charOf? n, rest)
  | 'U' :: rest => do
    let (n, rest) ← readHex 8 0 rest
    return (← Text.charOf? n, rest)
  | _ => none

/-- Reads a text of one line up to its closing quotation mark. -/
def readBasic : Nat → List Char → List Char → Option (String × List Char)
  | 0, _, _ => none
  | steps + 1, done, cs =>
    match cs with
    | '"' :: rest => some (String.ofList done.reverse, rest)
    | '\\' :: rest => do
      let (c, rest) ← readEscape rest
      readBasic steps (c :: done) rest
    | c :: rest => if isPlain c then readBasic steps (c :: done) rest else none
    | [] => none

/-- Reads a text of one line without escapes up to its closing quotation mark. -/
def readLiteral (done : List Char) : List Char → Option (String × List Char)
  | '\'' :: rest => some (String.ofList done.reverse, rest)
  | c :: rest => if isPlain c then readLiteral (c :: done) rest else none
  | [] => none

/-- The text after a line end right after the opening quotation marks of a text of many lines. -/
def skipFirstLineEnd (cs : List Char) : List Char := (afterLineEnd? cs).getD cs

/-- The text after all blanks and line ends it starts with. -/
def skipFolds : Nat → List Char → List Char
  | 0, cs => cs
  | steps + 1, cs =>
    let rest := skipSpace cs
    match afterLineEnd? rest with
    | some rest => skipFolds steps rest
    | none => rest

/-- The text after a backslash at the end of a line: blanks and line ends that follow are left
out. At least one line end must be among them. -/
def skipContinuation? (cs : List Char) : Option (List Char) :=
  (afterLineEnd? (skipSpace cs)).map fun rest => skipFolds rest.length rest

/-- Reads a text of many lines up to its closing quotation marks. Up to two of the mark may stand
before the closing three. -/
def readLongBasic : Nat → List Char → List Char → Option (String × List Char)
  | 0, _, _ => none
  | steps + 1, done, cs =>
    match cs with
    | '"' :: '"' :: '"' :: rest =>
      match rest with
      | '"' :: '"' :: rest => some (String.ofList ('"' :: '"' :: done).reverse, rest)
      | '"' :: rest => some (String.ofList ('"' :: done).reverse, rest)
      | rest => some (String.ofList done.reverse, rest)
    | '\\' :: rest =>
      match readEscape rest with
      | some (c, rest) => readLongBasic steps (c :: done) rest
      | none => do readLongBasic steps done (← skipContinuation? rest)
    | '\n' :: rest => readLongBasic steps ('\n' :: done) rest
    | '\r' :: '\n' :: rest => readLongBasic steps ('\n' :: '\r' :: done) rest
    | c :: rest => if isPlain c then readLongBasic steps (c :: done) rest else none
    | [] => none

/-- Reads a text of many lines without escapes up to its closing quotation marks. -/
def readLongLiteral (done : List Char) : List Char → Option (String × List Char)
  | '\'' :: '\'' :: '\'' :: '\'' :: '\'' :: rest =>
    some (String.ofList ('\'' :: '\'' :: done).reverse, rest)
  | '\'' :: '\'' :: '\'' :: '\'' :: rest => some (String.ofList ('\'' :: done).reverse, rest)
  | '\'' :: '\'' :: '\'' :: rest => some (String.ofList done.reverse, rest)
  | '\r' :: '\n' :: rest => readLongLiteral ('\n' :: '\r' :: done) rest
  | c :: rest => if isPlain c || c == '\n' then readLongLiteral (c :: done) rest else none
  | [] => none

/-! ### Keys -/

/-- Whether a key may hold the character without quotation marks. -/
def isBare (c : Char) : Bool := c.isAlphanum || c == '_' || c == '-'

/-- Reads one part of a key. -/
def readKeyPart (cs : List Char) : Option (String × List Char) :=
  match cs with
  | '"' :: rest => readBasic (rest.length + 1) [] rest
  | '\'' :: rest => readLiteral [] rest
  | _ =>
    let (bare, rest) := cs.span isBare
    if bare.isEmpty then none else some (String.ofList bare, rest)

/-- How many parts a key may have, and how deep lists and tables may be nested inside a value. -/
def maxDepth : Nat := 80

/-- Reads a key of at most so many parts with points between them. -/
def readKeyParts : (parts : Nat) → List Char → Option (List String × List Char)
  | 0, _ => none
  | parts + 1, cs => do
    let (part, rest) ← readKeyPart (skipSpace cs)
    match skipSpace rest with
    | '.' :: rest =>
      let (more, rest) ← readKeyParts parts rest
      return (part :: more, rest)
    | rest => return ([part], rest)

/-- Reads a key. -/
def readKey (cs : List Char) : Option (List String × List Char) := readKeyParts maxDepth cs

/-! ### Numbers -/

/-- The digits without the underscores between them, if each underscore has a digit on either
side and there is a digit. -/
def plainDigits? (isDigit : Char → Bool) : List Char → Option (List Char)
  | [] => none
  | [c] => if isDigit c then some [c] else none
  | c :: '_' :: rest => if isDigit c then (plainDigits? isDigit rest).map (c :: ·) else none
  | c :: rest => if isDigit c then (plainDigits? isDigit rest).map (c :: ·) else none

/-- The value of digits in a base. -/
def digitsValue (base : Nat) (digits : List Char) : Nat :=
  digits.foldl (fun n c => n * base + (Text.hexValue? c).getD 0) 0

/-- An integer of 64 bits with a sign. -/
def ofInteger? (n : Int) : Option Document :=
  if -(twoPow 63 : Int) ≤ n ∧ n < twoPow 63 then some (.int n) else none

/-- An integer of digits in a base. -/
def ofBase? (base : Nat) (isDigit : Char → Bool) (cs : List Char) : Option Document := do
  let digits ← plainDigits? isDigit cs
  ofInteger? (digitsValue base digits)

/-- Whether decimal digits have no zero in front. -/
def isWhole (digits : List Char) : Bool := digits.length == 1 || digits.head? != some '0'

/-- The part of a number from its point on: the digits after the point. -/
def ofFraction? (cs : List Char) : Option (List Char) :=
  match cs with
  | [] => some []
  | '.' :: rest => plainDigits? Char.isDigit rest
  | _ => none

/-- The power of ten of a number, after the letter `e`. -/
def ofPower? (cs : List Char) : Option Int :=
  match cs with
  | '-' :: rest => (plainDigits? Char.isDigit rest).map fun ds => -(digitsValue 10 ds : Int)
  | '+' :: rest => (plainDigits? Char.isDigit rest).map fun ds => (digitsValue 10 ds : Int)
  | _ => (plainDigits? Char.isDigit cs).map fun ds => (digitsValue 10 ds : Int)

/-- A decimal number without its sign: an integer, or a float if it has a point or a power. -/
def ofDecimal? (negative : Bool) (cs : List Char) : Option Document := do
  let (mantissa, power) := cs.span fun c => c != 'e' && c != 'E'
  let (whole, fraction) := mantissa.span (· != '.')
  let digits ← plainDigits? Char.isDigit whole
  if !isWhole digits then none
  else if fraction.isEmpty && power.isEmpty then
    ofInteger? (if negative then -(digitsValue 10 digits : Int) else digitsValue 10 digits)
  else
    let places ← ofFraction? fraction
    let tens ← if power.isEmpty then some 0 else ofPower? (power.drop 1)
    let x ← Binary64.ofDecimal negative (digitsValue 10 (digits ++ places)) (tens - places.length)
    return .float x

/-- A number with or without a sign. Infinities and what is no number become null. -/
def ofSigned? (negative : Bool) (cs : List Char) : Option Document :=
  if cs = ['i', 'n', 'f'] ∨ cs = ['n', 'a', 'n'] then some .null else ofDecimal? negative cs

/-! ### Dates and times -/

/-- The value of exactly `count` decimal digits, and what is left. -/
def readDigits (count : Nat) (cs : List Char) : Option (Nat × List Char) :=
  let digits := cs.takeWhile Char.isDigit
  if digits.length = count then some (digitsValue 10 digits, cs.drop count) else none

/-- A number with at least `width` digits. -/
def padded (width : Nat) (n : Nat) : String :=
  let digits := toString n
  String.ofList (List.replicate (width - digits.length) '0') ++ digits

/-- The number of days of a month. -/
def daysIn (year month : Nat) : Nat :=
  if month = 2 then
    if year % 4 = 0 ∧ (year % 100 ≠ 0 ∨ year % 400 = 0) then 29 else 28
  else if month = 4 ∨ month = 6 ∨ month = 9 ∨ month = 11 then 30
  else 31

/-- Reads a date; gives its normal form. -/
def readDate (cs : List Char) : Option (String × List Char) := do
  let (year, rest) ← readDigits 4 cs
  let '-' :: rest := rest | none
  let (month, rest) ← readDigits 2 rest
  let '-' :: rest := rest | none
  let (day, rest) ← readDigits 2 rest
  if 1 ≤ month ∧ month ≤ 12 ∧ 1 ≤ day ∧ day ≤ daysIn year month then
    return (padded 4 year ++ "-" ++ padded 2 month ++ "-" ++ padded 2 day, rest)
  else none

/-- The fraction of a second as text: nine places, without zeros at the end. -/
def fractionText (digits : List Char) : String :=
  let places := ((digits.take 9).reverse.dropWhile (· == '0')).reverse
  if places.isEmpty then "" else "." ++ String.ofList places

/-- Reads the seconds of a time, if it has any, with their fraction; gives their normal form. -/
def readSeconds (cs : List Char) : Option (String × List Char) :=
  match cs with
  | ':' :: rest => do
    let (second, rest) ← readDigits 2 rest
    if 60 < second then none
    else
      match rest with
      | '.' :: rest =>
        let (digits, rest) := rest.span Char.isDigit
        if digits.isEmpty then none else return (padded 2 second ++ fractionText digits, rest)
      | rest => return (padded 2 second, rest)
  | _ => some ("00", cs)

/-- Reads a time of day; gives its normal form. -/
def readTime (cs : List Char) : Option (String × List Char) := do
  let (hour, rest) ← readDigits 2 cs
  let ':' :: rest := rest | none
  let (minute, rest) ← readDigits 2 rest
  let (seconds, rest) ← readSeconds rest
  if hour ≤ 23 ∧ minute ≤ 59 then
    return (padded 2 hour ++ ":" ++ padded 2 minute ++ ":" ++ seconds, rest)
  else none

/-- The offset of a time from universal time, to the end of the text; gives its normal form. -/
def ofOffset? (cs : List Char) : Option String :=
  let hours (sign : String) (cs : List Char) : Option String := do
    let (hour, rest) ← readDigits 2 cs
    let ':' :: rest := rest | none
    let (minute, rest) ← readDigits 2 rest
    if hour ≤ 23 ∧ minute ≤ 59 ∧ rest = [] then
      let sign := if hour = 0 ∧ minute = 0 then "+" else sign
      return sign ++ padded 2 hour ++ ":" ++ padded 2 minute
    else none
  match cs with
  | [] => some ""
  | ['Z'] => some "Z"
  | ['z'] => some "Z"
  | '+' :: rest => hours "+" rest
  | '-' :: rest => hours "-" rest
  | _ => none

/-- The entry name that marks the normal form of a date or time. -/
def momentKey : String := "$__toml_private_datetime"

/-- A date, a time, or both, the latter with or without an offset. -/
def ofMoment? (cs : List Char) : Option Document := do
  let moment (s : String) : Document := .map [(momentKey, .text s)]
  match readDate cs with
  | some (date, []) => return moment date
  | some (date, sep :: rest) =>
    if sep == 'T' || sep == 't' || sep == ' ' then
      let (time, rest) ← readTime rest
      let offset ← ofOffset? rest
      return moment (date ++ "T" ++ time ++ offset)
    else none
  | none =>
    let (time, rest) ← readTime cs
    if rest.isEmpty then return moment time else none

mutual

/-- The document of a value, in which each table whose first entry has the name that marks a date or
time is one. That entry must hold its text, and the others do not count. -/
def withMoments? : Document → Option Document
  | .map ((key, d) :: rest) => do
    if key = momentKey then ofMoment? (← d.text?).toList
    else return .map (← momentEntries? ((key, d) :: rest))
  | .list items => do return .list (← momentItems? items)
  | d => some d

/-- The documents of several values. -/
def momentItems? : List Document → Option (List Document)
  | [] => some []
  | d :: rest => do return (← withMoments? d) :: (← momentItems? rest)

/-- The entries of a table with the documents of their values. -/
def momentEntries? : List (String × Document) → Option (List (String × Document))
  | [] => some []
  | (key, d) :: rest => do return (key, ← withMoments? d) :: (← momentEntries? rest)

end

/-! ### Values -/

/-- Whether a value without quotation marks may hold the character. -/
def isScalar (c : Char) : Bool :=
  c.isAlphanum || c == '_' || c == '-' || c == '+' || c == '.' || c == ':'

/-- The characters of a value without quotation marks, and what is left. A date and a time may
have one blank between them. -/
def spanScalar (cs : List Char) : List Char × List Char :=
  let (scalar, rest) := cs.span isScalar
  match readDate scalar, rest with
  | some (_, []), ' ' :: d :: more =>
    if d.isDigit then
      let (time, rest) := (d :: more).span isScalar
      (scalar ++ ' ' :: time, rest)
    else (scalar, rest)
  | _, _ => (scalar, rest)

/-- The value of a text without quotation marks. -/
def ofScalar? (cs : List Char) : Option Document :=
  match cs with
  | ['t', 'r', 'u', 'e'] => some (.bool true)
  | ['f', 'a', 'l', 's', 'e'] => some (.bool false)
  | '+' :: rest => ofSigned? false rest
  | '-' :: rest => ofSigned? true rest
  | '0' :: 'x' :: rest => ofBase? 16 (fun c => (Text.hexValue? c).isSome) rest
  | '0' :: 'o' :: rest => ofBase? 8 (fun c => '0' ≤ c && c ≤ '7') rest
  | '0' :: 'b' :: rest => ofBase? 2 (fun c => c == '0' || c == '1') rest
  | _ => (ofSigned? false cs).or (ofMoment? cs)

mutual

/-- Reads a value of at most the given depth. The first argument bounds the number of steps. -/
def readValue : Nat → Nat → List Char → Option (Document × List Char)
  | 0, _, _ => none
  | steps + 1, depth, cs =>
    match cs with
    | '"' :: '"' :: '"' :: rest =>
      (readLongBasic (rest.length + 1) [] (skipFirstLineEnd rest)).map fun r => (.text r.1, r.2)
    | '"' :: rest => (readBasic (rest.length + 1) [] rest).map fun r => (.text r.1, r.2)
    | '\'' :: '\'' :: '\'' :: rest =>
      (readLongLiteral [] (skipFirstLineEnd rest)).map fun r => (.text r.1, r.2)
    | '\'' :: rest => (readLiteral [] rest).map fun r => (.text r.1, r.2)
    | '[' :: rest =>
      match depth with
      | 0 => none
      | depth + 1 => (readItems steps depth rest).map fun r => (.list r.1, r.2)
    | '\x7b' :: rest =>
      match depth with
      | 0 => none
      | depth + 1 =>
        (readInline steps depth [] rest).map fun r => (.map (Node.toEntries r.1), r.2)
    | _ =>
      let (scalar, rest) := spanScalar cs
      (ofScalar? scalar).map fun d => (d, rest)

/-- Reads the items of a list up to its closing bracket. -/
def readItems : Nat → Nat → List Char → Option (List Document × List Char)
  | 0, _, _ => none
  | steps + 1, depth, cs =>
    match skipBlank cs with
    | ']' :: rest => some ([], rest)
    | cs => do
      let (item, rest) ← readValue steps depth cs
      match skipBlank rest with
      | ',' :: rest =>
        let (items, rest) ← readItems steps depth rest
        return (item :: items, rest)
      | ']' :: rest => return ([item], rest)
      | _ => none

/-- Reads the entries of a table between braces into the entries read so far. -/
def readInline : Nat → Nat → List (String × Node) → List Char →
    Option (List (String × Node) × List Char)
  | 0, _, _, _ => none
  | steps + 1, depth, entries, cs =>
    match skipBlank cs with
    | '\x7d' :: rest => some (entries, rest)
    | cs => do
      let (key, rest) ← readKey cs
      let '=' :: rest := rest | none
      let (value, rest) ← readValue steps depth (skipSpace rest)
      let entries ← assignKey (.value value) key entries
      match skipBlank rest with
      | ',' :: rest => readInline steps depth entries rest
      | '\x7d' :: rest => return (entries, rest)
      | _ => none

end

/-! ### Lines -/

/-- Reads the lines of a text: `path` is the header that the entries belong to. -/
def readLines : Nat → List String → List (String × Node) → List Char →
    Option (List (String × Node))
  | 0, _, _, _ => none
  | steps + 1, path, root, cs =>
    match skipBlank cs with
    | [] => some root
    | '[' :: '[' :: rest => do
      let (header, rest) ← readKey rest
      let ']' :: ']' :: rest := rest | none
      let root ← openTable true header root
      readLines steps header root (← finishLine? rest)
    | '[' :: rest => do
      let (header, rest) ← readKey rest
      let ']' :: rest := rest | none
      let root ← openTable false header root
      readLines steps header root (← finishLine? rest)
    | cs => do
      let (key, rest) ← readKey cs
      let '=' :: rest := rest | none
      let rest := skipSpace rest
      let (value, rest) ← readValue (2 * rest.length + 2) maxDepth rest
      let root ← changeTable (assignKey (.value value) key) path root
      readLines steps path root (← finishLine? rest)

end Toml

/-- The document that a TOML text stands for. A mark of the byte order at its start is left out. -/
def ofToml? (source : String) : Option Document :=
  let cs := match source.toList with
    | '\ufeff' :: rest => rest
    | cs => cs
  do
    let root ← Toml.readLines (cs.length + 1) [] [] cs
    return .map (← Toml.momentEntries? (Toml.Node.toEntries root))

end AutomationConfig.Document
