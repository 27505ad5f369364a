import LakehouseSql.Identifier
import LakehouseSql.Vocabulary
/-! # Rejected fields

Why the fields of a statement do not describe one: a cause for each rule, its stable code, the
field at fault and its message.
-/
namespace LakehouseSql

/-- Fields that are each possible but not together. -/
inductive Conflict where
  | computedDefault
  | cascadeRestrict
  | havingWithoutGroups
  | unevenRows
  | absentColumn (column : String)
  | sourceUpdateDelete
  | sampledFullScan
  | formatWithoutResults
  | namesForDefinitions
  | definitionsForNames (kind : StatementKind)
  deriving DecidableEq

namespace Conflict

/-- The fields that do not go together, the one at fault first. -/
def fields : Conflict → List String
  | computedDefault => ["computed_expression", "default_value"]
  | cascadeRestrict => ["cascade", "restrict"]
  | havingWithoutGroups => ["having", "group_by"]
  | unevenRows => ["values"]
  | absentColumn _ => ["columns", "values"]
  | sourceUpdateDelete =>
    ["when_not_matched_by_source_update", "when_not_matched_by_source_delete"]
  | sampledFullScan => ["sample_percent", "with_fullscan"]
  | formatWithoutResults => ["result_format", "returns_results"]
  | namesForDefinitions => ["columns"]
  | definitionsForNames _ => ["columns"]

def message : Conflict → String
  | computedDefault => "Computed columns cannot have default values"
  | cascadeRestrict => "Cannot specify both cascade and restrict"
  | havingWithoutGroups => "HAVING clause requires GROUP BY"
  | unevenRows => "All value rows must have the same columns"
  | absentColumn column => "Column '" ++ column ++ "' is not present in the value rows"
  | sourceUpdateDelete => "Cannot both update and delete rows not matched by source"
  | sampledFullScan => "Cannot specify both sample_percent and with_fullscan"
  | formatWithoutResults => "result_format can only be set when returns_results=true"
  | namesForDefinitions => "CREATE_TABLE columns must be column definitions"
  | definitionsForNames kind => Vocabulary.word kind ++ " columns must be column names"

end Conflict

/-- Something without which a statement says nothing. -/
inductive Omission where
  | tableDefinition
  | insertSource
  | mergeAction
  deriving DecidableEq

namespace Omission

def kind : Omission → StatementKind
  | tableDefinition => .createTable
  | insertSource => .insert
  | mergeAction => .merge

def message : Omission → String
  | tableDefinition =>
    "CreateTable requires at least one definition method: " ++
      "columns, select_query, source_table, or location"
  | insertSource => "Insert requires exactly one data source: source_query or values"
  | mergeAction => "Merge requires at least one action to be specified"

end Omission

/-- Why fields were rejected. -/
inductive ValidationError where
  | identifier (field : String) (source : IdentifierError)
  | emptyField (field : String)
  | outOfRange (field expected actual : String)
  | conflict (cause : Conflict)
  | incomplete (missing : Omission)
  | noStatisticsColumns (object : String)
  deriving DecidableEq

namespace ValidationError

def message : ValidationError → String
  | identifier field source => "Invalid " ++ field ++ ": " ++ source.message
  | emptyField field => field ++ " cannot be empty"
  | outOfRange field expected actual => field ++ " must be " ++ expected ++ ", got " ++ actual
  | conflict cause => cause.message
  | incomplete missing => missing.message
  | noStatisticsColumns object =>
    "No columns specified for statistics on " ++ object ++
      ". Either provide columns explicitly or enable auto_discover with a stats column " ++
      "provider configured."

/-- A code for each kind of rejection that stays the same when wordings change. -/
def code : ValidationError → String
  | identifier .. => "VALIDATION_001"
  | emptyField _ => "VALIDATION_002"
  | outOfRange .. => "VALIDATION_003"
  | conflict _ => "VALIDATION_004"
  | incomplete _ => "VALIDATION_005"
  | noStatisticsColumns _ => "VALIDATION_006"

/-- The field that the rejection is put down to, if there is one. -/
def field : ValidationError → Option String
  | identifier field _ | emptyField field | outOfRange field _ _ => some field
  | conflict cause => cause.fields.head?
  | noStatisticsColumns _ => some "columns"
  | incomplete _ => none

end ValidationError

/-- A value that passed the checks, or why it did not. -/
abbrev Checked (α : Type) := Except ValidationError α

namespace Checked

/-- Check a name that a field gives. -/
def name (rule : Identifier.Rule) (field role name : String) : Checked Unit :=
  (Identifier.validate rule role name).mapError (.identifier field)

/-- Check the names of columns from the first to the last. -/
def columns (field : String) : List String → Checked Unit
  | [] => .ok ()
  | name :: names => do
    Checked.name .column field "column" name
    columns field names

/-- Refuse a text of blanks alone. -/
def notBlank (field text : String) : Checked Unit :=
  if Text.isBlankText text then .error (.emptyField field) else .ok ()

/-- Refuse a text of blanks alone if there is a text. -/
def notBlankIfGiven (field : String) : Option String → Checked Unit
  | none => .ok ()
  | some text => notBlank field text

/-- Refuse a limit of zero rows. -/
def positiveLimit (limit : UInt64) : Checked Unit :=
  if limit = 0 then .error (.outOfRange "limit" "a positive integer" (toString limit.toNat))
  else .ok ()

end Checked

end LakehouseSql
