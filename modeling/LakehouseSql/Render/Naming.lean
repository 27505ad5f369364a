import LakehouseSql.Dictionary
import LakehouseSql.Identifier
import LakehouseSql.Settings.Compute
import LakehouseSql.Statement.Basic
import LakehouseSql.Validation
/-! # Names in SQL text

Names are checked right before they are written and stand in brackets. A name that is not safe is
one of the reasons why a platform has no SQL text for a statement.
-/
namespace LakehouseSql

inductive RenderError where
  /-- The platform has no such statement at all. -/
  | unsupported (platform : Platform) (kind : StatementKind) (reason : String)
  | identifier (source : IdentifierError)
  /-- Raw SQL that matches a screened pattern. -/
  | screened (pattern : String)
  | statistics (object reason : String)
  /-- The platform has such statements, but not with these fields. -/
  | unrenderable (platform : Platform) (kind : StatementKind) (object reason : String)
  deriving DecidableEq

namespace RenderError

def message : RenderError → String
  | unsupported platform kind reason =>
    "Operation type " ++ Vocabulary.word kind ++ " not supported by the " ++
      Vocabulary.word platform ++ " query builder: " ++ reason
  | identifier source => source.message
  | screened pattern => "Potentially dangerous SQL pattern detected: " ++ pattern
  | statistics object reason => "Cannot create statistics on " ++ object ++ ": " ++ reason
  | unrenderable platform kind object reason =>
    "Cannot render " ++ Vocabulary.word kind ++ " for " ++ object ++ " on " ++
      Vocabulary.word platform ++ ": " ++ reason

/-- A code for each kind of error that stays the same when wordings change. -/
def code : RenderError → String
  | unsupported .. => "OPERATION_NOT_SUPPORTED"
  | identifier source => source.code
  | screened _ => "UNSAFE_SQL"
  | statistics .. => "QUERY_BUILD_001"
  | unrenderable .. => "QUERY_BUILD_002"

/-- The error is that a name is not safe to write. -/
def isIdentifierError : RenderError → Bool
  | identifier _ => true
  | _ => false

end RenderError

/-- SQL text, or why there is none. -/
abbrev Rendered := Except RenderError String

/-- Names that are not safe make the rendering fail. -/
def Rendered.named {α : Type} (name : Except IdentifierError α) : Except RenderError α :=
  name.mapError .identifier

namespace Render

/-- A checked name in brackets. -/
def quoteName (role name : String) : Except IdentifierError String := do
  Identifier.validate .sql role name
  return "[" ++ name ++ "]"

/-- A checked name as it is. -/
def plainName (role name : String) : Except IdentifierError String := do
  Identifier.validate .sql role name
  return name

/-- Schema and physical object, each in brackets. -/
def qualifiedName (settings : Settings) (schema object : String) :
    Except IdentifierError String := do
  let quotedSchema ← quoteName "schema" schema
  let quotedObject ← quoteName "object" (settings.physicalName schema object)
  return quotedSchema ++ "." ++ quotedObject

def targetName (settings : Settings) (target : Target) : Except IdentifierError String :=
  qualifiedName settings target.schema target.object

/-- The parts of a text before and after its first dot. -/
def splitAtDot (name : String) : Option (String × String) :=
  match name.toList.span (· != '.') with
  | (_, []) => none
  | (before, _ :: after) => some (String.ofList before, String.ofList after)

/-- A name with a dot is a schema and an object, one without is an object as it stands. -/
def qualifyDotted (settings : Settings) (name : String) : Except IdentifierError String :=
  match splitAtDot name with
  | some (schema, object) => qualifiedName settings schema object
  | none => quoteName "object" name

def commaSeparated (items : List String) : String :=
  String.intercalate ", " items

def columnList (columns : List String) : Except IdentifierError String := do
  return commaSeparated (← columns.mapM (quoteName "column"))

/-- One assignment; the qualifier stands in front of the column. -/
def assignment (qualifier : String) (entry : String × SqlValue) :
    Except IdentifierError String := do
  return qualifier ++ (← quoteName "column" entry.1) ++ " = " ++ entry.2.sql

def assignments (entries : Dictionary SqlValue) (qualifier : String) :
    Except IdentifierError String := do
  return commaSeparated (← entries.entries.mapM (assignment qualifier))

/-- Write a text if there is something to write, else nothing. -/
def whenGiven {α : Type} (write : α → String) : Option α → String
  | none => ""
  | some a => write a

/-- A list in parentheses, with nothing written for the empty list. -/
def parenthesizedColumns (columns : List String) : Except IdentifierError String :=
  if columns.isEmpty then .ok "" else return " (" ++ (← columnList columns) ++ ")"

end Render

end LakehouseSql
