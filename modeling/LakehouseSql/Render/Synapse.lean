import LakehouseSql.Render.Query
import LakehouseSql.Render.Renderer
/-! # Synapse serverless pools

Serverless pools read files of the lake and nothing else: tables are external tables over such
files, written by the queries that create them, and rows cannot be changed.
-/
namespace LakehouseSql.Synapse
open Render

/-- The configured name of a file format for external tables. -/
def fileFormatName (settings : Settings) (t : CreateTable) : Rendered :=
  match t.fileFormat with
  | .parquet => Rendered.named (plainName "file format" settings.synapse.parquetFileFormat)
  | .csv => Rendered.named (plainName "file format" settings.synapse.csvFileFormat)
  | .delta | .json => .error (.unrenderable .synapse .createTable t.target.fullName
      "external tables only support PARQUET and CSV file formats")

/-- A text without the slashes at its end. -/
def withoutTrailingSlashes (s : String) : String :=
  String.ofList (s.toList.reverse.dropWhile (· == '/')).reverse

/-- The folder of a target, under the configured folder if there is one. -/
def generatedLocation (settings : Settings) (target : Target) : String :=
  let folder := target.schema ++ "/" ++ target.object ++ "/"
  match settings.synapse.locationPrefix with
  | some root => if root.isEmpty then folder else withoutTrailingSlashes root ++ "/" ++ folder
  | none => folder

/-- The location of a table, generated if none was given. -/
def location (settings : Settings) (t : CreateTable) : String :=
  t.location.getD (generatedLocation settings t.target)

def externalOptions (settings : Settings) (location fileFormat : String) :
    Except IdentifierError String := do
  let dataSource ← plainName "data source" settings.synapse.processedExternalDataSource
  return "WITH (\n    DATA_SOURCE = " ++ dataSource ++ ",\n    LOCATION = " ++
    Literal.quote location ++ ",\n    FILE_FORMAT = " ++ fileFormat ++ "\n)"

def columnDefinition (c : ColumnDefinition) : Except IdentifierError String := do
  let name ← quoteName "column" c.name
  return name ++ " " ++ c.dataType ++ whenGiven (" COLLATE " ++ ·) c.collation

def columnDefinitions (columns : List ColumnDefinition) : Except IdentifierError String := do
  return String.intercalate ",\n    " (← columns.mapM columnDefinition)

/-- Drop an external table if there is one of this name. -/
def dropIfExists (name : String) : String :=
  "IF EXISTS (SELECT * FROM sys.external_tables WHERE object_id = OBJECT_ID('" ++ name ++
    "'))\n    DROP EXTERNAL TABLE " ++ name

/-- The statement that creates a table of a name, by its query, its source or its columns. -/
def createBody (settings : Settings) (t : CreateTable) (name fileFormat : String) :
    Rendered :=
  match t.selectQuery, t.sourceTable with
  | some query, _ => do
    let options ← Rendered.named (externalOptions settings (location settings t) fileFormat)
    return "CREATE EXTERNAL TABLE " ++ name ++ "\n" ++ options ++ "\nAS " ++ query
  | none, some source => do
    let options ← Rendered.named (externalOptions settings (location settings t) fileFormat)
    let source ← Rendered.named (qualifyDotted settings source)
    return "CREATE EXTERNAL TABLE " ++ name ++ "\n" ++ options ++ "\nAS SELECT * FROM " ++ source
  | none, none => do
    if t.columns.isEmpty then
      throw (.unrenderable .synapse .createTable t.target.fullName
        "columns are required for an external table over existing data")
    let columns ← Rendered.named (columnDefinitions t.columns)
    let options ← Rendered.named (externalOptions settings (location settings t) fileFormat)
    return "CREATE EXTERNAL TABLE " ++ name ++ " (\n    " ++ columns ++ "\n)\n" ++ options

def createTable (settings : Settings) (t : CreateTable) : Rendered := do
  let name ← Rendered.named (targetName settings t.target)
  let fileFormat ← fileFormatName settings t
  let body ← createBody settings t name fileFormat
  return if t.recreate then dropIfExists name ++ ";\n" ++ body else body

def dropTable (settings : Settings) (t : DropTable) : Rendered := do
  let name ← Rendered.named (targetName settings t.target)
  return if t.ifExists then dropIfExists name else "DROP EXTERNAL TABLE " ++ name

/-- Run a statement on a schema only if the schema exists or does not. -/
def guarded (condition schema statement : String) : String :=
  "IF " ++ condition ++ " (SELECT * FROM sys.schemas WHERE name = " ++ Literal.quote schema ++
    ")\nBEGIN\n    " ++ statement ++ "\nEND"

/-- The owner of a schema, if one is named. -/
def authorizationText : Option String → Except IdentifierError String
  | none => .ok ""
  | some owner => return " AUTHORIZATION " ++ (← quoteName "owner" owner)

def createSchema (s : CreateSchema) : Rendered := do
  let schema ← Rendered.named (quoteName "schema" s.target.schema)
  let authorization ← Rendered.named (authorizationText s.authorization)
  let create := "CREATE SCHEMA " ++ schema ++ authorization
  return if s.ifNotExists then guarded "NOT EXISTS" s.target.schema create else create

def dropSchema (s : DropSchema) : Rendered := do
  let schema ← Rendered.named (quoteName "schema" s.target.schema)
  let drop := "DROP SCHEMA " ++ schema
  return if s.ifExists then guarded "EXISTS" s.target.schema drop else drop

def createView (settings : Settings) (v : CreateView) : Rendered := do
  if v.materialized then
    throw (.unrenderable .synapse .createOrAlterView v.target.fullName
      "materialized views are not available in serverless pools")
  let name ← Rendered.named (targetName settings v.target)
  let columns ← Rendered.named (parenthesizedColumns v.columns)
  return "CREATE OR ALTER VIEW " ++ name ++ columns ++
    (if v.schemaBinding then " WITH SCHEMABINDING" else "") ++ " AS\n" ++ v.selectQuery

def createStatistics (settings : Settings) (s : CreateStatistics) : Rendered := do
  let name ← Rendered.named (targetName settings s.target)
  let statistics ← Rendered.named (statisticsName s)
  let columns ← Rendered.named (columnList s.columns)
  return "CREATE STATISTICS " ++ statistics ++ " ON " ++ name ++ " (" ++ columns ++ ")" ++
    if s.fullScan then " WITH FULLSCAN"
    else whenGiven (fun p => " WITH SAMPLE " ++ SqlValue.numberText p ++ " PERCENT")
      s.samplePercent

/-- The patterns that raw SQL may not contain here. -/
def screened : List ScreenedPattern :=
  screenedProcedures

/-- Why statements that change rows are not available. -/
def readOnly (kind : StatementKind) (reason : String) : Rendered :=
  .error (.unsupported .synapse kind reason)

/-- The physical names of a table as literals, for queries on the catalogue. -/
def catalogueNames (settings : Settings) (schema object : String) :
    Except IdentifierError (String × String) := do
  let physical := settings.physicalName schema object
  let _ ← quoteName "schema" schema
  let _ ← quoteName "object" physical
  return (Literal.quote schema, Literal.quote physical)

/-- A query that has a row if a table is an external one. -/
def isExternalTableQuery (settings : Settings) (schema object : String) :
    Except IdentifierError String := do
  let (schema, table) ← catalogueNames settings schema object
  return "SELECT 1 FROM sys.external_tables et\n" ++
    "JOIN sys.schemas s ON et.schema_id = s.schema_id\n" ++
    "WHERE s.name = " ++ schema ++ " AND et.name = " ++ table

/-- A query for the full location of an external table. -/
def externalTableLocationQuery (settings : Settings) (schema object : String) :
    Except IdentifierError String := do
  let (schema, table) ← catalogueNames settings schema object
  return "SELECT eds.location + '/' + et.location AS full_location\n" ++
    "FROM sys.external_tables et\n" ++
    "JOIN sys.schemas s ON et.schema_id = s.schema_id\n" ++
    "JOIN sys.external_data_sources eds ON et.data_source_id = eds.data_source_id\n" ++
    "WHERE s.name = " ++ schema ++ " AND et.name = " ++ table

/-- The word for a format that files are read in. -/
def openFormat? : FileFormat → Option String
  | .parquet => some "PARQUET"
  | .csv => some "CSV"
  | .delta => some "DELTA"
  | .json => none

/-- A query that reads files directly. -/
def openFilesQuery (settings : Settings) (path : String) (fileFormat : FileFormat) : Rendered :=
  match openFormat? fileFormat with
  | none => .error (.unrenderable .synapse .select path
      "OPENROWSET reads PARQUET, CSV and DELTA files")
  | some format => do
    let dataSource ← Rendered.named
      (plainName "data source" settings.synapse.rawExternalDataSource)
    return "SELECT *\nFROM OPENROWSET(\n    BULK " ++ Literal.quote path ++
      ",\n    DATA_SOURCE = " ++ Literal.quote dataSource ++ ",\n    FORMAT = '" ++ format ++
      "'\n) AS [rows]"

def renderer (settings : Settings) : Renderer :=
  { Renderer.basic .synapse settings with
    createTable := createTable settings
    dropTable := dropTable settings
    createSchema := createSchema
    dropSchema := dropSchema
    insert := fun _ => readOnly .insert
      ("Cannot INSERT into external tables in Synapse Serverless. " ++
        "Use CREATE EXTERNAL TABLE AS SELECT instead.")
    update := fun _ => readOnly .update
      "Cannot UPDATE external tables in Synapse Serverless. Data is read-only."
    delete := fun _ => readOnly .delete
      "Cannot DELETE from external tables in Synapse Serverless. Data is read-only."
    merge := fun _ => readOnly .merge
      "MERGE not supported for external tables in Synapse Serverless."
    createView := createView settings
    createStatistics := createStatistics settings
    copy := fun _ => readOnly .copy
      "COPY operation not implemented. Use OPENROWSET for ad-hoc queries."
    rawSql := rawSql screened }

end LakehouseSql.Synapse
