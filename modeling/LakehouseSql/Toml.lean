import LakehouseSql.Dictionary
import LakehouseSql.Json.Value
import LakehouseSql.Text.Basic
/-! # TOML documents

Documents of keys with values, and of tables under headers: bare and quoted keys, basic and literal
strings, whole numbers, booleans and arrays of these. A document becomes the members of a JSON
object. No key and no header may be given twice.
-/
namespace LakehouseSql.Toml

def isBlank (c : Char) : Bool :=
  c == ' ' || c == '\t'

def skipBlanks (cs : List Char) : List Char :=
  cs.dropWhile isBlank

/-- Control characters other than the tab stand nowhere inside a line. -/
def isControl (c : Char) : Bool :=
  (c.toNat < 0x20 && c != '\t') || c.toNat == 0x7F

/-- What follows the end of the line; at most a comment stands before it. -/
def endLine? (cs : List Char) : Option (List Char) :=
  let rest := match skipBlanks cs with
    | '#' :: cs => cs.dropWhile fun c => !isControl c
    | cs => cs
  match rest with
  | [] => some []
  | '\n' :: cs => some cs
  | '\r' :: '\n' :: cs => some cs
  | _ => none

/-- The character of a code point written in hexadecimal digits. -/
def codePoint? (ds : List Char) : Option Char :=
  (Text.hexDigitsValue? ds).bind fun n =>
    if n < 0xD800 ∨ (0xE000 ≤ n ∧ n < 0x110000) then some (Char.ofNat n) else none

/-- The character of an escape with one letter. -/
def escape? : Char → Option Char
  | '"' => some '"'
  | '\\' => some '\\'
  | 'b' => some '\x08'
  | 'f' => some '\x0c'
  | 'n' => some '\n'
  | 'r' => some '\r'
  | 't' => some '\t'
  | _ => none

/-- A basic string behind its opening quotation mark, and what follows it. -/
def basicString : List Char → Option (List Char × List Char)
  | [] => none
  | '"' :: cs => some ([], cs)
  | '\\' :: 'u' :: a :: b :: c :: d :: cs =>
    match codePoint? [a, b, c, d], basicString cs with
    | some e, some (s, rest) => some (e :: s, rest)
    | _, _ => none
  | '\\' :: 'U' :: a :: b :: c :: d :: e :: f :: g :: h :: cs =>
    match codePoint? [a, b, c, d, e, f, g, h], basicString cs with
    | some e, some (s, rest) => some (e :: s, rest)
    | _, _ => none
  | '\\' :: c :: cs =>
    match escape? c, basicString cs with
    | some e, some (s, rest) => some (e :: s, rest)
    | _, _ => none
  | c :: cs =>
    if isControl c || c == '\\' then none
    else (basicString cs).map fun (s, rest) => (c :: s, rest)

/-- A literal string behind its opening quote, and what follows it. -/
def literalString : List Char → Option (List Char × List Char)
  | [] => none
  | '\'' :: cs => some ([], cs)
  | c :: cs =>
    if isControl c then none else (literalString cs).map fun (s, rest) => (c :: s, rest)

/-- The characters of bare keys. -/
def isBare (c : Char) : Bool :=
  c.isAlphanum || c == '_' || c == '-'

/-- One part of a key, and what follows it. -/
def keyPart : List Char → Option (String × List Char)
  | '"' :: cs => (basicString cs).map fun (s, rest) => (String.ofList s, rest)
  | '\'' :: cs => (literalString cs).map fun (s, rest) => (String.ofList s, rest)
  | cs =>
    match cs.span isBare with
    | ([], _) => none
    | (part, rest) => some (String.ofList part, rest)

/-- The parts of a key with dots between them, and what follows the key. -/
def keyPath : Nat → List Char → Option (List String × List Char)
  | 0, _ => none
  | fuel + 1, cs => do
    let (part, rest) ← keyPart (skipBlanks cs)
    match skipBlanks rest with
    | '.' :: rest =>
      let (parts, rest) ← keyPath fuel rest
      return (part :: parts, rest)
    | rest => return ([part], rest)

/-- The digits of a number without the single underscores between them. -/
def withoutUnderscores : List Char → Option (List Char)
  | [] => none
  | [c] => if c.isDigit then some [c] else none
  | c :: '_' :: cs => if c.isDigit then (withoutUnderscores cs).map (c :: ·) else none
  | c :: cs => if c.isDigit then (withoutUnderscores cs).map (c :: ·) else none

/-- The whole number that a word spells, if it lies in the 64-bit range. -/
def integer? (word : List Char) : Option Int := do
  let (negative, body) := Text.splitSign word
  let ds ← withoutUnderscores body
  if 1 < ds.length && ds.head? == some '0' then none else Text.signedValue? negative ds

/-- The value that a word without quotation marks spells. -/
def wordValue? (word : List Char) : Option Json :=
  match String.ofList word with
  | "true" => some (.bool true)
  | "false" => some (.bool false)
  | _ => (integer? word).map Json.whole

/-- Drop blanks, comments and ends of lines. -/
def skipLines : Nat → List Char → List Char
  | 0, cs => cs
  | fuel + 1, cs =>
    match skipBlanks cs with
    | [] => []
    | cs =>
      match endLine? cs with
      | some rest => skipLines fuel rest
      | none => cs

mutual
/-- The value at the front of a text, and what follows it. -/
def value : Nat → List Char → Option (Json × List Char)
  | 0, _ => none
  | fuel + 1, cs =>
    match skipBlanks cs with
    | '"' :: cs => (basicString cs).map fun (s, rest) => (.string (String.ofList s), rest)
    | '\'' :: cs => (literalString cs).map fun (s, rest) => (.string (String.ofList s), rest)
    | '[' :: cs => (items fuel cs).map fun (items, rest) => (.array items, rest)
    | cs =>
      let (word, rest) := cs.span fun c => isBare c || c == '+'
      (wordValue? word).map fun j => (j, rest)

/-- The items of an array up to its closing bracket; a comma may follow the last one. -/
def items : Nat → List Char → Option (List Json × List Char)
  | 0, _ => none
  | fuel + 1, cs =>
    match skipLines cs.length cs with
    | ']' :: rest => some ([], rest)
    | cs =>
      match value fuel cs with
      | none => none
      | some (item, rest) =>
        match skipLines rest.length rest with
        | ']' :: rest => some ([item], rest)
        | ',' :: rest => (items fuel rest).map fun (items, rest) => (item :: items, rest)
        | _ => none
end

/-- Set a key of a table and of the tables on the way to it; the key must be new. -/
def setKey (j : Json) : List String → List (String × Json) → Option (List (String × Json))
  | [], _ => none
  | [key], table =>
    if (table.lookup key).isSome then none else some (table ++ [(key, j)])
  | key :: path, table =>
    match table.lookup key with
    | none => (setKey j path []).map fun inner => table ++ [(key, .object inner)]
    | some (.object inner) =>
      (setKey j path inner).map fun inner => Dictionary.insertEntry key (.object inner) table
    | some _ => none

/-- Make sure that there is a table at the end of a path. -/
def openTable : List String → List (String × Json) → Option (List (String × Json))
  | [], table => some table
  | key :: path, table =>
    match table.lookup key with
    | none => (openTable path []).map fun inner => table ++ [(key, .object inner)]
    | some (.object inner) =>
      (openTable path inner).map fun inner => Dictionary.insertEntry key (.object inner) table
    | some _ => none

/-- A document as far as it is read: its members, the table that keys go to, and the headers. -/
structure Progress where
  members : List (String × Json) := []
  table : List String := []
  headers : List (List String) := []

/-- Take one line, or several if an array spans them. -/
def line (p : Progress) (cs : List Char) : Option (Progress × List Char) :=
  match cs with
  | '[' :: cs => do
    let (path, rest) ← keyPath (cs.length + 1) cs
    match rest with
    | ']' :: rest =>
      if p.headers.contains path then none
      else
        let rest ← endLine? rest
        let members ← openTable path p.members
        return ({ members, table := path, headers := path :: p.headers }, rest)
    | _ => none
  | cs => do
    let (path, rest) ← keyPath (cs.length + 1) cs
    match rest with
    | '=' :: rest =>
      let (j, rest) ← value (rest.length + 1) rest
      let rest ← endLine? rest
      let members ← setKey j (p.table ++ path) p.members
      return ({ p with members }, rest)
    | _ => none

/-- Take lines until the document ends. -/
def lines : Nat → Progress → List Char → Option (List (String × Json))
  | 0, _, _ => none
  | fuel + 1, p, cs =>
    match skipLines cs.length cs with
    | [] => some p.members
    | cs =>
      match line p cs with
      | some (p, rest) => lines fuel p rest
      | none => none

/-- The members of a document. -/
def read? (s : String) : Option (List (String × Json)) :=
  lines (s.toList.length + 1) {} s.toList

end LakehouseSql.Toml
