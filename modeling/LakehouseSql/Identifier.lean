import LakehouseSql.Text.Basic
/-! # Identifiers

Three rules for names. Each asks for 1 to 128 characters, an ASCII letter or underscore first and
ASCII letters, digits and a few signs after it. The rule for names that are about to be written
into SQL text also refuses fragments known from injections.
-/
namespace LakehouseSql

/-- Why a text is no identifier; `role` says what the identifier would name. -/
inductive IdentifierError where
  | empty (role : String)
  | tooLong (role : String) (length : Nat)
  | invalidFirstCharacter (role : String) (identifier : String)
  | invalidCharacter (role : String) (identifier : String) (character : Char)
  | dangerousPattern (role : String) (identifier : String)
  deriving DecidableEq

namespace Identifier

/-- The greatest number of characters of an identifier. -/
def maxLength : Nat := 128

end Identifier

namespace IdentifierError

def code (_ : IdentifierError) : String :=
  "INVALID_IDENTIFIER"

def message : IdentifierError → String
  | empty role => "Empty " ++ role ++ " name"
  | tooLong role length =>
    role ++ " name too long: " ++ toString length ++ " characters (max " ++
      toString Identifier.maxLength ++ ")"
  | invalidFirstCharacter role identifier =>
    "Invalid " ++ role ++ " name '" ++ identifier ++ "': must start with a letter or underscore"
  | invalidCharacter role identifier character =>
    "Invalid " ++ role ++ " name '" ++ identifier ++ "': character '" ++
      String.singleton character ++ "' is not allowed"
  | dangerousPattern role identifier =>
    "Potentially dangerous " ++ role ++ " name: '" ++ identifier ++ "'"

end IdentifierError

namespace Identifier

/-- The rules that names are checked against. -/
inductive Rule where
  /-- Names of schemas and objects that a statement carries. -/
  | object
  | column
  /-- Names that are about to be written into SQL text. -/
  | sql
  deriving DecidableEq

/-- The first character of a name. -/
def isFirst (c : Char) : Bool :=
  c.isAlpha || c == '_'

/-- The signs besides letters and digits that a rule admits after the first character. -/
def Rule.admitsSign : Rule → Char → Bool
  | .object, c => c == '_' || c == '$' || c == '#' || c == '@'
  | .column, c => c == '_'
  | .sql, c => c == '_' || c == '-'

/-- The characters after the first. -/
def Rule.admits (rule : Rule) (c : Char) : Bool :=
  c.isAlphanum || rule.admitsSign c

/-- Fragments that no name in SQL text may contain. -/
def dangerousPatterns : List Text.Pattern :=
  let word := Text.Pattern.word
  let afterSemicolon (w : String) := .char ';' :: .blanks :: word w
  [afterSemicolon "DROP", afterSemicolon "DELETE", afterSemicolon "UPDATE",
    afterSemicolon "INSERT", word "--", word "/*", word "*/",
    word "UNION" ++ .someBlanks :: word "SELECT",
    word "OR" ++ .someBlanks :: .char '1' :: .blanks :: .char '=' :: .blanks :: word "1",
    word "OR" ++ .someBlanks :: word "'1'" ++ .blanks :: .char '=' :: .blanks :: word "'1'"]

/-- The fragments that names under a rule may not contain. -/
def Rule.forbidden : Rule → List Text.Pattern
  | .sql => dangerousPatterns
  | _ => []

/-- Check a name: its length first, then its characters from left to right, then fragments. -/
def validate (rule : Rule) (role : String) (name : String) : Except IdentifierError Unit :=
  match name.toList with
  | [] => .error (.empty role)
  | first :: rest =>
    if maxLength < (first :: rest).length then .error (.tooLong role (first :: rest).length)
    else if !isFirst first then .error (.invalidFirstCharacter role name)
    else
      match rest.find? fun c => !rule.admits c with
      | some c => .error (.invalidCharacter role name c)
      | none =>
        if rule.forbidden.any fun pattern => pattern.occursIn name then
          .error (.dangerousPattern role name)
        else .ok ()

/-- Check the name of a column. -/
def validateColumn (name : String) : Except IdentifierError Unit :=
  validate .column "column" name

end Identifier

end LakehouseSql
