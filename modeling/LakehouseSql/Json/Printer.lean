import LakehouseSql.Decimal.Layout
import LakehouseSql.Json.Value
/-! # JSON text

The compact text of a value: no blanks, members in their order, and only the quotation mark, the
backslash and the control characters escaped.
-/
namespace LakehouseSql.Json

/-- Numbers are written with the point at its place while the leading digit stands for a power of
ten from -5 to 15, always with a fraction, and in scientific form beyond. -/
def numberLayout : NumberLayout :=
  ⟨.toEven, some (-5, 15), true⟩

def hexDigit (n : Nat) : Char :=
  (Nat.digitChar n)

/-- One character inside a string. -/
def escapeChar (c : Char) : List Char :=
  if c = '"' then ['\\', '"']
  else if c = '\\' then ['\\', '\\']
  else if c.toNat = 0x08 then ['\\', 'b']
  else if c.toNat = 0x09 then ['\\', 't']
  else if c.toNat = 0x0A then ['\\', 'n']
  else if c.toNat = 0x0C then ['\\', 'f']
  else if c.toNat = 0x0D then ['\\', 'r']
  else if c.toNat < 0x20 then
    ['\\', 'u', '0', '0', hexDigit (c.toNat / 16), hexDigit (c.toNat % 16)]
  else [c]

/-- A string between quotation marks. -/
def quoted (s : String) : List Char :=
  '"' :: s.toList.flatMap escapeChar ++ ['"']

/-- A double precision number that is not finite is written as null. -/
def numberText : JsonNumber → List Char
  | .whole n => (toString n).toList
  | .real x => if x.isFinite then (numberLayout.text x).toList else ['n', 'u', 'l', 'l']

mutual
/-- The compact text of a value. -/
def chars : Json → List Char
  | .null => ['n', 'u', 'l', 'l']
  | .bool b => if b then ['t', 'r', 'u', 'e'] else ['f', 'a', 'l', 's', 'e']
  | .number n => numberText n
  | .string s => quoted s
  | .array items => '[' :: itemChars items
  | .object ms => '\x7b' :: memberChars ms
  | .unreadable => ['n', 'u', 'l', 'l']

/-- The items of an array and its closing bracket. -/
def itemChars : List Json → List Char
  | [] => [']']
  | item :: items =>
    match items with
    | [] => chars item ++ [']']
    | _ :: _ => chars item ++ ',' :: itemChars items

/-- The members of an object and its closing brace. -/
def memberChars : List (String × Json) → List Char
  | [] => ['\x7d']
  | (name, value) :: ms =>
    match ms with
    | [] => quoted name ++ ':' :: chars value ++ ['\x7d']
    | _ :: _ => quoted name ++ ':' :: chars value ++ ',' :: memberChars ms
end

def text (j : Json) : String :=
  String.ofList j.chars

end LakehouseSql.Json
