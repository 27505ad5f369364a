import LakehouseSql.Decimal.Layout
import LakehouseSql.Validation
/-! # Targets and values

The object that a statement is about, with hints for running it, and the values that statements
write into SQL text. A text stands there between single quotes, and a quote inside it is written
twice.
-/
namespace LakehouseSql

namespace Literal

/-- The characters of a text with every quote written twice. -/
def doubleQuotes : List Char → List Char
  | [] => []
  | c :: cs => if c = '\'' then '\'' :: '\'' :: doubleQuotes cs else c :: doubleQuotes cs

/-- The literal of a text. -/
def quote (s : String) : String :=
  String.ofList ('\'' :: doubleQuotes s.toList ++ ['\''])

theorem doubleQuotes_quote (cs : List Char) :
    doubleQuotes ('\'' :: cs) = '\'' :: '\'' :: doubleQuotes cs :=
  if_pos rfl

theorem doubleQuotes_other {c : Char} (h : c ≠ '\'') (cs : List Char) :
    doubleQuotes (c :: cs) = c :: doubleQuotes cs :=
  if_neg h

theorem toList_quote_append (s : String) (cs : List Char) :
    (quote s).toList ++ cs = '\'' :: (doubleQuotes s.toList ++ '\'' :: cs) := by
  simp [quote]

end Literal

inductive SqlValue where
  | null
  | bool (b : Bool)
  | integer (n : Int64)
  | float (x : Binary64)
  | text (s : String)
  /-- SQL text that is trusted and written as it is. -/
  | expression (sql : String)
  deriving DecidableEq

namespace SqlValue

/-- Numbers are written with the point at its place and without a forced fraction. -/
def numberLayout : NumberLayout :=
  ⟨.upward, none, false⟩

/-- The text of a number in SQL and in messages; the special ones have names. -/
def numberText (x : Binary64) : String :=
  if x.isFinite then numberLayout.text x
  else if x.isNaN then "NaN"
  else if x.isNegative then "-inf"
  else "inf"

/-- The SQL text of a value. Numbers that are not finite have none and become `NULL`. -/
def sql : SqlValue → String
  | null => "NULL"
  | bool b => if b then "1" else "0"
  | integer n => toString n.toInt
  | float x => if x.isFinite then numberText x else "NULL"
  | text s => Literal.quote s
  | expression e => e

end SqlValue

/-- What is known about an object beyond the statement; it is never written into SQL text. -/
structure Metadata where
  statsColumns : Option (List String)
  layer : Option Layer
  description : Option String
  deriving DecidableEq

structure Target where
  schema : String
  object : String
  engineHint : Option Engine
  loggingContext : Option String
  metadata : Option Metadata
  deriving DecidableEq

namespace Target

/-- The target of two object identifiers, without hints. -/
def create (schema object : String) : Checked Target := do
  Checked.name .object "schema_name" "schema" schema
  Checked.name .object "object_name" "object" object
  return ⟨schema, object, none, none, none⟩

def withEngineHint (t : Target) (engine : Engine) : Target :=
  { t with engineHint := some engine }

def withLoggingContext (t : Target) (context : String) : Target :=
  { t with loggingContext := some context }

def withMetadata (t : Target) (metadata : Metadata) : Target :=
  { t with metadata := some metadata }

/-- Schema and object with a dot between them, as the statement names them. -/
def fullName (t : Target) : String :=
  t.schema ++ "." ++ t.object

end Target

end LakehouseSql
