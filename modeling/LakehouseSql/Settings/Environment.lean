import LakehouseSql.Dictionary
import LakehouseSql.Json.Value
import LakehouseSql.Text.Basic
import LakehouseSql.Text.Case
/-! # Settings from environment variables

A variable whose name begins with the wanted letters sets the key that the rest of the name spells
in lower case; two underscores lead into a nested table. Values that read as whole numbers or
booleans become such, and the list of schemas is split at commas.
-/
namespace LakehouseSql.Environment

/-- The beginning of the variables that are read unless another is set. -/
def standardStart : String := "MEDALFLOW_"

/-- The text behind a beginning, if it begins so. -/
def dropStart? : List Char → List Char → Option (List Char)
  | [], cs => some cs
  | _ :: _, [] => none
  | s :: start, c :: cs => if s = c then dropStart? start cs else none

/-- The parts of a text between pairs of underscores. -/
def splitPath : List Char → List (List Char)
  | [] => [[]]
  | '_' :: '_' :: cs => [] :: splitPath cs
  | c :: cs =>
    match splitPath cs with
    | part :: parts => (c :: part) :: parts
    | [] => [[c]]

/-- The whole number in the signed 64-bit range that a text of a sign and digits spells. -/
def integer? (s : String) : Option Int :=
  let (negative, ds) := Text.splitSign s.toList
  if ds.isEmpty || !ds.all Char.isDigit then none else Text.signedValue? negative ds

/-- The items of a list with commas between them, without blanks around them and without the
empty ones. -/
def listItems (s : String) : List String :=
  ((s.toList.splitOn ',').map fun item => Text.trim (String.ofList item)).filter
    fun item => !item.isEmpty

/-- The value of a variable that sets a key. -/
def parseValue (key s : String) : Json :=
  if key == "skip_prefix_on_schema" then .strings (listItems s)
  else
    match integer? s with
    | some n => .whole n
    | none => if s == "true" then .bool true else if s == "false" then .bool false else .string s

/-- The members of a table; a value that is no table counts as an empty one. -/
def tableAt (key : String) (table : List (String × Json)) : List (String × Json) :=
  match table.lookup key with
  | some (.object inner) => inner
  | _ => []

/-- Set the value at the end of a path of keys. A value on the way that is no table gives way to
one. -/
def insertPath (j : Json) : List String → List (String × Json) → List (String × Json)
  | [], table => table
  | [key], table => Dictionary.insertEntry key j table
  | key :: path, table =>
    Dictionary.insertEntry key (.object (insertPath j path (tableAt key table))) table

/-- The path of keys that a variable sets, if its name begins as wanted. -/
def path? (start name : String) : Option (List String) :=
  (dropStart? start.toList name.toList).map fun rest =>
    (splitPath (Text.lowercase (String.ofList rest)).toList).map String.ofList

/-- Set what one variable sets. -/
def insertVariable (start : String) (table : List (String × Json)) (entry : String × String) :
    List (String × Json) :=
  match path? start entry.1 with
  | none => table
  | some path => insertPath (parseValue (path.getLast?.getD "") entry.2) path table

/-- The settings of a list of variables, the later ones over the earlier ones. -/
def load (start : String) (bindings : List (String × String)) : List (String × Json) :=
  bindings.foldl (insertVariable start) []

end LakehouseSql.Environment
