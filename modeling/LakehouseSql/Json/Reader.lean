import LakehouseSql.Decimal.Reading
import LakehouseSql.Json.Value
import LakehouseSql.Text.Basic
/-! # Reading JSON text

Values of JSON text, read from the front of a list of characters. `fuel` bounds the steps through
nested values and is taken from the length of the text. The members of a record can also be
read one after the other up to the place where the text goes wrong.
-/
namespace LakehouseSql.Json

/-- The white space between the parts of a text. -/
def isSpace (c : Char) : Bool :=
  c == ' ' || c == '\n' || c == '\r' || c == '\t'

def skipSpaces (cs : List Char) : List Char :=
  cs.dropWhile isSpace

/-- The character of an escape with one letter. -/
def simpleEscape? : Char → Option Char
  | '"' => some '"'
  | '\\' => some '\\'
  | '/' => some '/'
  | 'b' => some '\x08'
  | 'f' => some '\x0c'
  | 'n' => some '\n'
  | 'r' => some '\r'
  | 't' => some '\t'
  | _ => none

/-- One element of a string: a character, or a 16-bit unit written as an escape. -/
inductive StringUnit where
  | char (c : Char)
  | unit (n : Nat)
  deriving DecidableEq

/-- The elements of a string up to its closing quotation mark, and what follows it. -/
def stringUnits : List Char → Option (List StringUnit × List Char)
  | [] => none
  | '"' :: cs => some ([], cs)
  | '\\' :: 'u' :: a :: b :: c :: d :: cs =>
    match Text.hexDigitsValue? [a, b, c, d], stringUnits cs with
    | some n, some (units, rest) => some (.unit n :: units, rest)
    | _, _ => none
  | '\\' :: c :: cs =>
    match simpleEscape? c, stringUnits cs with
    | some e, some (units, rest) => some (.char e :: units, rest)
    | _, _ => none
  | c :: cs =>
    if c.toNat < 0x20 || c == '\\' then none
    else
      match stringUnits cs with
      | some (units, rest) => some (.char c :: units, rest)
      | none => none

/-- The text of a string; there is none if a surrogate stands without its partner. -/
def unitsText? : List StringUnit → Option (List Char)
  | [] => some []
  | .char c :: us => (unitsText? us).map (c :: ·)
  | .unit high :: us =>
    if 0xD800 ≤ high ∧ high < 0xDC00 then
      match us with
      | .unit low :: us =>
        if 0xDC00 ≤ low ∧ low < 0xE000 then
          (unitsText? us).map
            (Char.ofNat (0x10000 + (high - 0xD800) * 0x400 + (low - 0xDC00)) :: ·)
        else none
      | _ => none
    else if 0xDC00 ≤ high ∧ high < 0xE000 then none
    else (unitsText? us).map (Char.ofNat high :: ·)

/-- The text of a string after its opening quotation mark, and what follows the string. -/
def readString (cs : List Char) : Option (Option String × List Char) :=
  (stringUnits cs).map fun (units, rest) => ((unitsText? units).map String.ofList, rest)

/-- The digits after the point; at least one has to stand there. -/
def readFraction : List Char → Option (Option (List Char) × List Char)
  | '.' :: cs =>
    let (ds, rest) := Numeral.spanDigits cs
    if ds.isEmpty then none else some (some ds, rest)
  | cs => some (none, cs)

/-- The sign and the digits of the exponent; at least one digit has to stand there. -/
def readExponent : List Char → Option (Option (Bool × List Char) × List Char)
  | [] => some (none, [])
  | c :: cs =>
    if c == 'e' || c == 'E' then
      let (negative, body) := Text.splitSign cs
      let (ds, rest) := Numeral.spanDigits body
      if ds.isEmpty then none else some (some (negative, ds), rest)
    else some (none, c :: cs)

/-- The parts of a number; no digit follows a leading zero. -/
def readNumeral (cs : List Char) : Option (Numeral × List Char) := do
  let (negative, body) := match cs with
    | '-' :: cs => (true, cs)
    | cs => (false, cs)
  let (whole, rest) := Numeral.spanDigits body
  if whole.isEmpty || (1 < whole.length && whole.head? == some '0') then none
  else
    let (fraction, rest) ← readFraction rest
    let (exponent, rest) ← readExponent rest
    return (⟨negative, whole, fraction, exponent⟩, rest)

/-- The value of a number. -/
def ofNumeral (n : Numeral) : Json :=
  match n.integer? with
  | some i => .number (.whole i)
  | none =>
    match n.quick with
    | some x => .number (.real x)
    | none => .unreadable

private def readWord (word : List Char) (value : Json) (cs : List Char) :
    Option (Json × List Char) :=
  if word.isPrefixOf cs then some (value, cs.drop word.length) else none

mutual
/-- The value at the front of a text, and what follows it. -/
def readValue : Nat → List Char → Option (Json × List Char)
  | 0, _ => none
  | fuel + 1, cs =>
    match skipSpaces cs with
    | '"' :: cs =>
      (readString cs).map fun (s, rest) => (s.elim .unreadable .string, rest)
    | '[' :: cs =>
      match skipSpaces cs with
      | ']' :: rest => some (.array [], rest)
      | cs => (readItems fuel cs).map fun (items, rest) => (.array items, rest)
    | '\x7b' :: cs =>
      match skipSpaces cs with
      | '\x7d' :: rest => some (.object [], rest)
      | cs => (readMembers fuel cs).map fun (ms, rest) =>
          (ms.elim .unreadable .object, rest)
    | 't' :: cs => readWord ['r', 'u', 'e'] (.bool true) cs
    | 'f' :: cs => readWord ['a', 'l', 's', 'e'] (.bool false) cs
    | 'n' :: cs => readWord ['u', 'l', 'l'] .null cs
    | cs => (readNumeral cs).map fun (n, rest) => (ofNumeral n, rest)

/-- The items of an array up to its closing bracket. -/
def readItems : Nat → List Char → Option (List Json × List Char)
  | 0, _ => none
  | fuel + 1, cs =>
    match readValue fuel cs with
    | none => none
    | some (item, rest) =>
      match skipSpaces rest with
      | ']' :: rest => some ([item], rest)
      | ',' :: rest => (readItems fuel rest).map fun (items, rest) => (item :: items, rest)
      | _ => none

/-- The members of an object up to its closing brace; they stand for nothing if a name does. -/
def readMembers : Nat → List Char → Option (Option (List (String × Json)) × List Char)
  | 0, _ => none
  | fuel + 1, cs =>
    match readMember fuel cs with
    | none => none
    | some (name, value, rest) =>
      match skipSpaces rest with
      | '\x7d' :: rest => some (name.map fun name => [(name, value)], rest)
      | ',' :: rest =>
        (readMembers fuel rest).map fun (ms, rest) =>
          (match name, ms with
            | some name, some ms => some ((name, value) :: ms)
            | _, _ => none, rest)
      | _ => none

/-- A name, a colon and a value. -/
def readMember : Nat → List Char → Option (Option String × Json × List Char)
  | 0, _ => none
  | fuel + 1, cs =>
    match skipSpaces cs with
    | '"' :: cs =>
      match readString cs with
      | none => none
      | some (name, rest) =>
        match skipSpaces rest with
        | ':' :: rest => (readValue fuel rest).map fun (value, rest) => (name, value, rest)
        | _ => none
    | _ => none
end

/-- Steps enough for any text of this length. -/
def fuelFor (cs : List Char) : Nat :=
  2 * cs.length + 2

/-- The value of a whole text. -/
def read? (s : String) : Option Json :=
  match readValue (fuelFor s.toList) s.toList with
  | some (j, rest) => if (skipSpaces rest).isEmpty then some j else none
  | none => none

/-- How the text of a record ends: with its closing bracket and nothing but white space behind it,
with other characters behind it, or at a place where it is no longer a record. -/
inductive RecordEnd where
  | closed
  | trailing
  | broken
  deriving DecidableEq

/-- The end of a record that is closed in front of the rest of a text. -/
def endBefore (rest : List Char) : RecordEnd :=
  if (skipSpaces rest).isEmpty then .closed else .trailing

/-- The members of an object one after the other, and how its text ends. -/
def membersUntilEnd (fuel : Nat) : Nat → List Char → List (String × Json) × RecordEnd
  | 0, _ => ([], .broken)
  | count + 1, cs =>
    match readMember fuel cs with
    | some (some name, value, rest) =>
      match skipSpaces rest with
      | '\x7d' :: rest => ([(name, value)], endBefore rest)
      | ',' :: rest =>
        let (ms, ending) := membersUntilEnd fuel count rest
        ((name, value) :: ms, ending)
      | _ => ([(name, value)], .broken)
    | _ => ([], .broken)

/-- The items of an array one after the other, as members of the names that they stand for, and
how its text ends. There are no more items than names. -/
def itemsUntilEnd (fuel : Nat) : List String → List Char → List (String × Json) × RecordEnd
  | [], _ => ([], .broken)
  | name :: names, cs =>
    match readValue fuel cs with
    | some (value, rest) =>
      match skipSpaces rest with
      | ']' :: rest => ([(name, value)], endBefore rest)
      | ',' :: rest =>
        let (ms, ending) := itemsUntilEnd fuel names rest
        ((name, value) :: ms, ending)
      | _ => ([(name, value)], .broken)
    | none => ([], .broken)

/-- The members of the record that a text spells, as an object or as an array of the fields with
these names, as far as they can be read. -/
def readRecord (names : List String) (s : String) : List (String × Json) × RecordEnd :=
  match skipSpaces s.toList with
  | '\x7b' :: cs =>
    match skipSpaces cs with
    | '\x7d' :: rest => ([], endBefore rest)
    | cs => membersUntilEnd (fuelFor cs) cs.length cs
  | '[' :: cs =>
    match skipSpaces cs with
    | ']' :: rest => ([], endBefore rest)
    | cs => itemsUntilEnd (fuelFor cs) names cs
  | _ => ([], .broken)

end LakehouseSql.Json
