import LakehouseSql.Render.Query
import LakehouseSql.Render.Renderer
/-! # Fabric warehouses

Tables are Delta tables, so rows can be inserted, changed and merged, and files can be loaded.
-/
namespace LakehouseSql.Fabric
open Render

/-- The key of a column; a primary key needs no second word about being unique. -/
def keyText (c : ColumnDefinition) : String :=
  if c.primaryKey then " PRIMARY KEY NONCLUSTERED NOT ENFORCED"
  else if c.unique then " UNIQUE NOT ENFORCED"
  else ""

def columnDefinition (c : ColumnDefinition) : Except IdentifierError String := do
  let name ← quoteName "column" c.name
  return name ++ " " ++ c.dataType ++ whenGiven (" COLLATE " ++ ·) c.collation ++
    whenGiven (" GENERATED ALWAYS AS (" ++ · ++ ")") c.computedExpression ++
    (if c.nullable then "" else " NOT NULL") ++
    whenGiven (fun v => " DEFAULT " ++ SqlValue.sql v) c.defaultValue ++ keyText c

def columnDefinitions (columns : List ColumnDefinition) : Except IdentifierError String := do
  return String.intercalate ",\n    " (← columns.mapM columnDefinition)

/-- The columns of a table that is created, if it has any of its own. -/
def columnsText (columns : List ColumnDefinition) : Except IdentifierError String :=
  if columns.isEmpty then .ok ""
  else return " (\n    " ++ (← columnDefinitions columns) ++ "\n)"

def partitionsText (partitions : List String) : Except IdentifierError String :=
  if partitions.isEmpty then .ok ""
  else return "\nPARTITIONED BY (" ++ (← columnList partitions) ++ ")"

/-- The location, which is written only for a table that is not filled by a query. -/
def locationText (t : CreateTable) : String :=
  if t.selectQuery.isSome || t.sourceTable.isSome then ""
  else whenGiven (fun location => "\nLOCATION " ++ Literal.quote location) t.location

def propertyText (property : String × String) : String :=
  Literal.quote property.1 ++ " = " ++ Literal.quote property.2

def propertiesText (properties : Dictionary String) : String :=
  if properties.isEmpty then ""
  else "\nTBLPROPERTIES (" ++ commaSeparated (properties.entries.map propertyText) ++ ")"

/-- The query that fills the table, if there is one. -/
def contentText (settings : Settings) (t : CreateTable) : Except IdentifierError String :=
  match t.selectQuery, t.sourceTable with
  | some query, _ => .ok ("\nAS " ++ query)
  | none, some source => return "\nAS SELECT * FROM " ++ (← qualifyDotted settings source)
  | none, none => .ok ""

def createHead (recreate : Bool) (name : String) : String :=
  if recreate then "DROP TABLE IF EXISTS " ++ name ++ ";\nCREATE TABLE " ++ name
  else "CREATE TABLE IF NOT EXISTS " ++ name

def createTable (settings : Settings) (t : CreateTable) : Rendered := do
  let name ← Rendered.named (targetName settings t.target)
  let columns ← Rendered.named (columnsText t.columns)
  let partitions ← Rendered.named (partitionsText t.partitions)
  let content ← Rendered.named (contentText settings t)
  return createHead t.recreate name ++ columns ++ "\nUSING DELTA" ++ partitions ++
    locationText t ++ propertiesText t.properties ++ content

def dropTable (settings : Settings) (t : DropTable) : Rendered := do
  let name ← Rendered.named (targetName settings t.target)
  return (if t.ifExists then "DROP TABLE IF EXISTS " else "DROP TABLE ") ++ name

def createSchema (s : CreateSchema) : Rendered := do
  let schema ← Rendered.named (quoteName "schema" s.target.schema)
  let head := if s.ifNotExists then "CREATE SCHEMA IF NOT EXISTS " else "CREATE SCHEMA "
  match s.authorization with
  | none => return head ++ schema
  | some owner =>
    let owner ← Rendered.named (quoteName "owner" owner)
    return head ++ schema ++ " AUTHORIZATION " ++ owner

def dropSchema (s : DropSchema) : Rendered := do
  let schema ← Rendered.named (quoteName "schema" s.target.schema)
  return (if s.ifExists then "DROP SCHEMA IF EXISTS " else "DROP SCHEMA ") ++ schema ++
    if s.cascade then " CASCADE" else if s.restrict then " RESTRICT" else ""

/-- The values of a row for some columns; a column that the row does not have is null. -/
def rowText (columns : List String) (row : Dictionary SqlValue) : String :=
  "(" ++ commaSeparated (columns.map fun column => ((row.get? column).getD .null).sql) ++ ")"

def sourceText (columns : List String) : InsertSource → String
  | .query sql => "\n" ++ sql
  | .rows rows => "\nVALUES " ++ String.intercalate ",\n" (rows.map (rowText columns))

def insert (settings : Settings) (i : Insert) : Rendered := do
  let name ← Rendered.named (targetName settings i.target)
  let columns ← Rendered.named (parenthesizedColumns i.effectiveColumns)
  let keyword := match i.mode with
    | .append => "INSERT INTO "
    | .overwrite => "INSERT OVERWRITE "
  return keyword ++ name ++ columns ++ sourceText i.effectiveColumns i.source

def update (settings : Settings) (u : Update) : Rendered := do
  let name ← Rendered.named (targetName settings u.target)
  let changes ← Rendered.named (assignments u.assignments "")
  return "UPDATE " ++ name ++ "\nSET " ++ changes ++ whenGiven ("\nFROM " ++ ·) u.fromClause ++
    whenGiven ("\nWHERE " ++ ·) u.whereClause

def delete (settings : Settings) (d : Delete) : Rendered := do
  let name ← Rendered.named (targetName settings d.target)
  return "DELETE FROM " ++ name ++ whenGiven ("\nWHERE " ++ ·) d.whereClause

/-- Assignments to the target behind the words that call for them. -/
def updateText (head : String) : Option (Dictionary SqlValue) → Except IdentifierError String
  | none => .ok ""
  | some entries => return head ++ " THEN UPDATE SET " ++ (← assignments entries "target.")

def insertText : Option (Dictionary SqlValue) → Except IdentifierError String
  | none => .ok ""
  | some entries => return "\nWHEN NOT MATCHED THEN INSERT (" ++ (← columnList entries.keys) ++
      ") VALUES (" ++ commaSeparated (entries.values.map SqlValue.sql) ++ ")"

/-- What becomes of target rows without a source row. -/
def bySourceText (a : MergeActions) : Except IdentifierError String :=
  if a.bySourceUpdate.isNone && a.bySourceDelete then
    .ok "\nWHEN NOT MATCHED BY SOURCE THEN DELETE"
  else updateText "\nWHEN NOT MATCHED BY SOURCE" a.bySourceUpdate

/-- The clauses of a merge; a conditional clause on matched rows has to come first. -/
def merge (settings : Settings) (m : Merge) : Rendered := do
  let name ← Rendered.named (targetName settings m.target)
  let matched ← Rendered.named (updateText "\nWHEN MATCHED" m.actions.matchedUpdate)
  let inserted ← Rendered.named (insertText m.actions.notMatchedInsert)
  let bySource ← Rendered.named (bySourceText m.actions)
  return "MERGE INTO " ++ name ++ " AS target\nUSING (" ++ m.sourceQuery ++ ") AS source\nON " ++
    m.condition ++
    whenGiven ("\nWHEN MATCHED AND " ++ · ++ " THEN DELETE") m.actions.matchedDelete ++ matched ++
    inserted ++ bySource ++ ";"

/-- The word for a format that files are loaded from. -/
def loadFormat? : FileFormat → Option String
  | .parquet => some "PARQUET"
  | .csv => some "CSV"
  | .delta | .json => none

/-- An option of a load; its name is written in capitals. -/
def optionText (option : String × SqlValue) : String :=
  Text.uppercase option.1 ++ " = " ++ option.2.sql

def copy (settings : Settings) (c : Copy) : Rendered :=
  match loadFormat? c.fileFormat with
  | none => .error (.unrenderable .fabric .copy c.target.fullName
      "COPY INTO only loads PARQUET and CSV files")
  | some format => do
    let name ← Rendered.named (targetName settings c.target)
    let options := ("FILE_TYPE = '" ++ format ++ "'") :: c.options.entries.map optionText ++
      (c.credential.map fun credential => "CREDENTIAL = (" ++ credential ++ ")").toList
    return "COPY INTO " ++ name ++ "\nFROM " ++ Literal.quote c.sourcePath ++
      "\nWITH (\n    " ++ String.intercalate ",\n    " options ++ "\n)"

def createView (settings : Settings) (v : CreateView) : Rendered := do
  if v.materialized then
    throw (.unrenderable .fabric .createOrAlterView v.target.fullName
      "materialized views are not available in Fabric warehouses")
  let name ← Rendered.named (targetName settings v.target)
  let columns ← Rendered.named (parenthesizedColumns v.columns)
  return (if v.orReplace then "CREATE OR REPLACE VIEW " else "CREATE VIEW ") ++ name ++ columns ++
    "\nAS " ++ v.selectQuery

def createStatistics (settings : Settings) (s : CreateStatistics) : Rendered := do
  let statistics ← Rendered.named (statisticsName s)
  let name ← Rendered.named (targetName settings s.target)
  let columns ← Rendered.named (columnList s.columns)
  return "CREATE STATISTICS " ++ statistics ++ "\nON " ++ name ++ " (" ++ columns ++ ")" ++
    if s.fullScan then "\nWITH FULLSCAN"
    else whenGiven (fun p => "\nWITH SAMPLE " ++ SqlValue.numberText p ++ " PERCENT")
      s.samplePercent

/-- The patterns that raw SQL may not contain here. -/
def screened : List ScreenedPattern :=
  screenedProcedures ++ screenedSources

/-- Compaction of a Delta table, with its files ordered by some columns. -/
def optimizeTable (settings : Settings) (schema object : String) (orderedBy : List String) :
    Except IdentifierError String := do
  let name ← qualifiedName settings schema object
  if orderedBy.isEmpty then return "OPTIMIZE " ++ name
  else return "OPTIMIZE " ++ name ++ " ZORDER BY (" ++ (← columnList orderedBy) ++ ")"

/-- Removal of old files, kept for the configured time unless another is given. -/
def vacuumTable (settings : Settings) (schema object : String) (hours : Option UInt32) :
    Except IdentifierError String := do
  let name ← qualifiedName settings schema object
  let kept := hours.getD settings.fabric.defaultRetentionHours
  return "VACUUM " ++ name ++ " RETAIN " ++ toString kept.toNat ++ " HOURS"

/-- A name in a database, if one is configured. -/
def inDatabase (database : Option String) (name : String) : Except IdentifierError String :=
  match database with
  | none => .ok name
  | some database =>
    if database.isEmpty then .ok name
    else return (← quoteName "database" database) ++ "." ++ name

/-- The name of an object of the lakehouse, where tables have no prefix. -/
def lakehouseName (settings : Settings) (schema object : String) :
    Except IdentifierError String := do
  let quotedSchema ← quoteName "schema" schema
  let quotedObject ← quoteName "object" object
  inDatabase settings.fabric.lakehouseName (quotedSchema ++ "." ++ quotedObject)

def warehouseName (settings : Settings) (schema object : String) :
    Except IdentifierError String := do
  inDatabase settings.fabric.warehouseName (← qualifiedName settings schema object)

def renderer (settings : Settings) : Renderer :=
  { Renderer.basic .fabric settings with
    createTable := createTable settings
    dropTable := dropTable settings
    createSchema := createSchema
    dropSchema := dropSchema
    insert := insert settings
    update := update settings
    delete := delete settings
    merge := merge settings
    createView := createView settings
    createStatistics := createStatistics settings
    copy := copy settings
    rawSql := rawSql screened }

end LakehouseSql.Fabric
