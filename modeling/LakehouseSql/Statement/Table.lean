import LakehouseSql.Dictionary
import LakehouseSql.Statement.Basic
import LakehouseSql.Validation
/-! # Tables and schemas

Statements that create and drop tables and schemas. A table is defined by columns, by a query, by
another table or by the place of its files, and a table that is created from a query always has a
place. A computed column has no default value. The target of a statement on a schema names the
schema; one that is made from the name of a schema alone takes it for both parts of the target.
-/
namespace LakehouseSql

structure ColumnDefinition where
  name : String
  dataType : String
  nullable : Bool
  defaultValue : Option SqlValue
  primaryKey : Bool
  unique : Bool
  checkConstraint : Option String
  collation : Option String
  computedExpression : Option String
  deriving DecidableEq

namespace ColumnDefinition

/-- A column that may be null and has no constraints. -/
def create (name dataType : String) : Checked ColumnDefinition := do
  Checked.name .column "name" "column" name
  Checked.notBlank "data_type" dataType
  return ⟨name, dataType, true, none, false, false, none, none, none⟩

/-- Refuse a computed column with a default value. -/
def validate (c : ColumnDefinition) : Checked Unit :=
  if c.computedExpression.isSome && c.defaultValue.isSome then
    .error (.conflict .computedDefault)
  else .ok ()

def withNullable (c : ColumnDefinition) (nullable : Bool) : ColumnDefinition :=
  { c with nullable }

def notNull (c : ColumnDefinition) : ColumnDefinition :=
  c.withNullable false

def asPrimaryKey (c : ColumnDefinition) : ColumnDefinition :=
  { c with primaryKey := true }

def asUnique (c : ColumnDefinition) : ColumnDefinition :=
  { c with unique := true }

def withCheckConstraint (c : ColumnDefinition) (check : String) : ColumnDefinition :=
  { c with checkConstraint := some check }

def withCollation (c : ColumnDefinition) (collation : String) : Checked ColumnDefinition := do
  Checked.name .object "collation" "collation" collation
  return { c with collation := some collation }

def withDefaultValue (c : ColumnDefinition) (value : SqlValue) : Checked ColumnDefinition := do
  let c := { c with defaultValue := some value }
  c.validate
  return c

def withComputedExpression (c : ColumnDefinition) (expression : String) :
    Checked ColumnDefinition := do
  Checked.notBlank "computed_expression" expression
  let c := { c with computedExpression := some expression }
  c.validate
  return c

end ColumnDefinition

/-- What a table is made of. -/
structure TableDefinition where
  columns : List ColumnDefinition
  selectQuery : Option String
  sourceTable : Option String
  location : Option String
  deriving DecidableEq

namespace TableDefinition

def empty : TableDefinition :=
  ⟨[], none, none, none⟩

def ofColumns (columns : List ColumnDefinition) : TableDefinition :=
  { empty with columns }

def ofSelect (query : String) : TableDefinition :=
  { empty with selectQuery := some query }

def ofSourceTable (table : String) : TableDefinition :=
  { empty with sourceTable := some table }

def ofLocation (location : String) : TableDefinition :=
  { empty with location := some location }

def withLocation (d : TableDefinition) (location : String) : TableDefinition :=
  { d with location := some location }

def withColumns (d : TableDefinition) (columns : List ColumnDefinition) : TableDefinition :=
  { d with columns }

def isEmpty (d : TableDefinition) : Bool :=
  d.columns.isEmpty && d.selectQuery.isNone && d.sourceTable.isNone && d.location.isNone

end TableDefinition

structure CreateTable where
  target : Target
  columns : List ColumnDefinition
  selectQuery : Option String
  sourceTable : Option String
  location : Option String
  fileFormat : FileFormat
  partitions : List String
  distribution : Option String
  properties : Dictionary String
  recreate : Bool
  deriving DecidableEq

namespace CreateTable

/-- The parts of a text between its dots. -/
def dottedParts (name : String) : List String :=
  (name.toList.splitOn '.').map String.ofList

/-- Check the parts of a source table from the first to the last. -/
def checkParts : List String → Checked Unit
  | [] => .ok ()
  | part :: parts => do
    Checked.name .object "source_table" "source table" part
    checkParts parts

def checkColumns : List ColumnDefinition → Checked Unit
  | [] => .ok ()
  | column :: columns => do
    column.validate
    checkColumns columns

/-- The place of the files: the one given, else for a query the folder named after the target. -/
def defaultLocation (target : Target) (d : TableDefinition) : Option String :=
  match d.location with
  | some location => some location
  | none => if d.selectQuery.isSome then some (target.schema ++ "/" ++ target.object) else none

/-- A table in the default file format, created anew if it exists. -/
def create (target : Target) (d : TableDefinition) : Checked CreateTable := do
  if d.isEmpty then throw (.incomplete .tableDefinition)
  checkColumns d.columns
  Checked.notBlankIfGiven "select_query" d.selectQuery
  Checked.notBlankIfGiven "source_table" d.sourceTable
  checkParts (d.sourceTable.elim [] dottedParts)
  Checked.notBlankIfGiven "location" d.location
  return ⟨target, d.columns, d.selectQuery, d.sourceTable, defaultLocation target d, default, [],
    none, .empty, true⟩

def asSelect (target : Target) (query : String) : Checked CreateTable :=
  create target (.ofSelect query)

def withFileFormat (t : CreateTable) (fileFormat : FileFormat) : CreateTable :=
  { t with fileFormat }

def withPartitions (t : CreateTable) (partitions : List String) : Checked CreateTable := do
  Checked.columns "partitions" partitions
  return { t with partitions }

def withDistribution (t : CreateTable) (distribution : String) : CreateTable :=
  { t with distribution := some distribution }

def withProperty (t : CreateTable) (key value : String) : CreateTable :=
  { t with properties := t.properties.insert key value }

def withRecreate (t : CreateTable) (recreate : Bool) : CreateTable :=
  { t with recreate }

end CreateTable

structure DropTable where
  target : Target
  ifExists : Bool
  cascade : Bool
  deriving DecidableEq

namespace DropTable

def create (target : Target) : DropTable :=
  ⟨target, true, false⟩

def withIfExists (t : DropTable) (ifExists : Bool) : DropTable :=
  { t with ifExists }

def withCascade (t : DropTable) (cascade : Bool) : DropTable :=
  { t with cascade }

end DropTable

structure CreateSchema where
  target : Target
  ifNotExists : Bool
  authorization : Option String
  deriving DecidableEq

namespace CreateSchema

def create (target : Target) : CreateSchema :=
  ⟨target, true, none⟩

def named (schema : String) : Checked CreateSchema := do
  return create (← Target.create schema schema)

def withIfNotExists (s : CreateSchema) (ifNotExists : Bool) : CreateSchema :=
  { s with ifNotExists }

def withAuthorization (s : CreateSchema) (owner : String) : Checked CreateSchema := do
  Checked.name .object "authorization" "authorization" owner
  return { s with authorization := some owner }

end CreateSchema

structure DropSchema where
  target : Target
  ifExists : Bool
  cascade : Bool
  restrict : Bool
  deriving DecidableEq

namespace DropSchema

def create (target : Target) : DropSchema :=
  ⟨target, true, false, false⟩

def named (schema : String) : Checked DropSchema := do
  return create (← Target.create schema schema)

/-- Refuse a drop that both takes dependants along and keeps them. -/
def validate (s : DropSchema) : Checked Unit :=
  if s.cascade && s.restrict then .error (.conflict .cascadeRestrict) else .ok ()

def withIfExists (s : DropSchema) (ifExists : Bool) : DropSchema :=
  { s with ifExists }

def withCascade (s : DropSchema) (cascade : Bool) : Checked DropSchema := do
  let s := { s with cascade }
  s.validate
  return s

def withRestrict (s : DropSchema) (restrict : Bool) : Checked DropSchema := do
  let s := { s with restrict }
  s.validate
  return s

end DropSchema

end LakehouseSql
