import LakehouseSql.Statement
/-! # Drafts

All fields that any statement may have, collected without checks. A draft becomes a statement of
its kind through the checked functions of that kind; fields that the kind does not have are
passed over.
-/
namespace LakehouseSql

structure Draft where
  kind : StatementKind
  schema : String
  object : String
  engineHint : Option Engine := none
  loggingContext : Option String := none
  metadata : Option Metadata := none
  columnDefinitions : List ColumnDefinition := []
  columns : List String := []
  selectQuery : Option String := none
  sourceTable : Option String := none
  location : Option String := none
  fileFormat : Option FileFormat := none
  partitions : List String := []
  distribution : Option String := none
  properties : Dictionary String := .empty
  recreate : Option Bool := none
  ifExists : Option Bool := none
  ifNotExists : Option Bool := none
  cascade : Option Bool := none
  restrict : Option Bool := none
  authorization : Option String := none
  distinct : Bool := false
  joinClause : Option String := none
  whereClause : Option String := none
  groupBy : List String := []
  having : Option String := none
  orderBy : List String := []
  limit : Option UInt64 := none
  offset : Option UInt64 := none
  assignments : Dictionary SqlValue := .empty
  fromClause : Option String := none
  rows : List (Dictionary SqlValue) := []
  insertMode : Option InsertMode := none
  mergeCondition : Option String := none
  mergeActions : MergeActions := .none
  orReplace : Option Bool := none
  schemaBinding : Option Bool := none
  materialized : Option Bool := none
  sql : Option String := none
  returnsResults : Option Bool := none
  resultFormat : Option ResultFormat := none
  sourcePath : Option String := none
  options : Dictionary SqlValue := .empty
  credential : Option String := none
  samplePercent : Option Binary64 := none
  fullScan : Option Bool := none
  statsName : Option String := none
  autoDiscover : Option Bool := none

/-- Why a draft is no statement. -/
inductive BuildError where
  | unsupported (kind : StatementKind)
  | invalid (kind : StatementKind) (source : ValidationError)
  deriving DecidableEq

def BuildError.message : BuildError → String
  | unsupported kind => "Unsupported operation type: " ++ Vocabulary.word kind
  | invalid kind source =>
    "Cannot create operation " ++ Vocabulary.word kind ++ ": " ++ source.message

namespace Draft

def addColumnDefinition (d : Draft) (column : ColumnDefinition) : Draft :=
  { d with columnDefinitions := d.columnDefinitions ++ [column] }

def addColumns (d : Draft) (columns : List String) : Draft :=
  { d with columns := d.columns ++ columns }

def addPartition (d : Draft) (column : String) : Draft :=
  { d with partitions := d.partitions ++ [column] }

def addProperty (d : Draft) (key value : String) : Draft :=
  { d with properties := d.properties.insert key value }

def addGroup (d : Draft) (column : String) : Draft :=
  { d with groupBy := d.groupBy ++ [column] }

def addOrder (d : Draft) (expression : String) : Draft :=
  { d with orderBy := d.orderBy ++ [expression] }

def assign (d : Draft) (column : String) (value : SqlValue) : Draft :=
  { d with assignments := d.assignments.insert column value }

def addRow (d : Draft) (row : List (String × SqlValue)) : Draft :=
  { d with rows := d.rows ++ [.ofList row] }

def addOption (d : Draft) (key : String) (value : SqlValue) : Draft :=
  { d with options := d.options.insert key value }

/-- The target with the hints of the draft. -/
def target (d : Draft) : Checked Target := do
  let t ← Target.create d.schema d.object
  return { t with
    engineHint := d.engineHint, loggingContext := d.loggingContext, metadata := d.metadata }

/-- Change a value if there is something to change it with. -/
def given {α β : Type} (field : Option β) (change : α → β → Checked α) (a : α) : Checked α :=
  match field with
  | none => .ok a
  | some b => change a b

/-- Change a value if a list has items. -/
def listed {α β : Type} (items : List β) (change : α → List β → Checked α) (a : α) :
    Checked α :=
  if items.isEmpty then .ok a else change a items

def tableDefinition (d : Draft) : TableDefinition :=
  ⟨d.columnDefinitions, d.selectQuery, d.sourceTable, d.location⟩

def createTable (d : Draft) (target : Target) : Checked CreateTable := do
  let table ← CreateTable.create target d.tableDefinition
  let table ← listed d.partitions CreateTable.withPartitions table
  return { table with
    fileFormat := d.fileFormat.getD default
    recreate := d.recreate.getD true
    distribution := d.distribution
    properties := d.properties }

def dropTable (d : Draft) (target : Target) : DropTable :=
  ⟨target, d.ifExists.getD true, d.cascade.getD false⟩

def createSchema (d : Draft) (target : Target) : Checked CreateSchema :=
  given d.authorization CreateSchema.withAuthorization
    ((CreateSchema.create target).withIfNotExists (d.ifNotExists.getD true))

def dropSchema (d : Draft) (target : Target) : Checked DropSchema := do
  let schema := (DropSchema.create target).withIfExists (d.ifExists.getD true)
  let schema ← schema.withCascade (d.cascade.getD false)
  schema.withRestrict (d.restrict.getD false)

def select (d : Draft) (target : Target) : Checked Select := do
  let query ← (Select.create target).withColumns d.columns
  let query := { query with
    orderBy := d.orderBy
    distinct := d.distinct
    joinClause := d.joinClause
    whereClause := d.whereClause
    offset := d.offset }
  let query ← listed d.groupBy Select.withGroupBy query
  let query ← given d.having Select.withHaving query
  given d.limit Select.withLimit query

/-- The source of an insert: a query or rows, but not both. -/
def insertSource (d : Draft) : Checked InsertSource :=
  match d.selectQuery, d.rows with
  | some query, [] => .ok (.query query)
  | none, row :: rows => .ok (.rows (row :: rows))
  | _, _ => .error (.incomplete .insertSource)

def insert (d : Draft) (target : Target) : Checked Insert := do
  let source ← d.insertSource
  let insert ← Insert.create target source
  listed d.columns Insert.withColumns (insert.withMode (d.insertMode.getD default))

def update (d : Draft) (target : Target) : Checked Update := do
  let update ← Update.create target d.assignments
  return { update with fromClause := d.fromClause, whereClause := d.whereClause }

def delete (d : Draft) (target : Target) : Delete :=
  ⟨target, d.whereClause⟩

def merge (d : Draft) (target : Target) : Checked Merge :=
  Merge.create target (d.selectQuery.getD "") (d.mergeCondition.getD "") d.mergeActions

def createView (d : Draft) (target : Target) : Checked CreateView := do
  let view ← CreateView.create target (d.selectQuery.getD "")
  listed d.columns CreateView.withColumns { view with
    orReplace := d.orReplace.getD true
    schemaBinding := d.schemaBinding.getD false
    materialized := d.materialized.getD false }

def dropView (d : Draft) (target : Target) : DropView :=
  ⟨target, d.ifExists.getD true⟩

/-- The scan is set before the sample, which a full scan would rule out. -/
def statisticsRequest (d : Draft) (target : Target) : Checked StatisticsRequest := do
  let request := StatisticsRequest.create target
  let request ← listed d.columns StatisticsRequest.withColumns request
  let request ← given d.fullScan StatisticsRequest.withFullScan request
  let request ← given d.samplePercent StatisticsRequest.withSamplePercent request
  let request ← given d.statsName StatisticsRequest.withName request
  return request.withAutoDiscover (d.autoDiscover.getD true)

def createStatistics (d : Draft) (target : Target) (provider : Option StatsProvider) :
    Checked CreateStatistics := do
  let request ← d.statisticsRequest target
  (request.resolve provider).result

/-- Add options from the first to the last. -/
def withOptions : List (String × SqlValue) → Copy → Checked Copy
  | [], c => .ok c
  | (key, value) :: entries, c => do
    let c ← c.withOption key value
    withOptions entries c

def copy (d : Draft) (target : Target) : Checked Copy := do
  let copy ← Copy.create target (d.sourcePath.getD "")
  let copy ← withOptions d.options.entries (copy.withFileFormat (d.fileFormat.getD default))
  return { copy with credential := d.credential }

/-- That results are wanted is set before their format, which asks for it. -/
def rawSql (d : Draft) (target : Target) : Checked RawSql := do
  let raw ← RawSql.create target (d.sql.getD "")
  let raw ← given d.returnsResults RawSql.withReturnsResults raw
  let raw ← given d.resultFormat RawSql.withResultFormat raw
  given d.limit RawSql.withLimit raw

/-- The statement of the draft's kind on a target; some kinds have none. -/
def assemble? (d : Draft) (provider : Option StatsProvider) (target : Target) :
    Option (Checked Statement) :=
  match d.kind with
  | .createTable => some ((d.createTable target).map .createTable)
  | .dropTable => some (.ok (.dropTable (d.dropTable target)))
  | .createSchema => some ((d.createSchema target).map .createSchema)
  | .dropSchema => some ((d.dropSchema target).map .dropSchema)
  | .select => some ((d.select target).map .select)
  | .insert => some ((d.insert target).map .insert)
  | .update => some ((d.update target).map .update)
  | .delete => some (.ok (.delete (d.delete target)))
  | .merge => some ((d.merge target).map .merge)
  | .createOrAlterView => some ((d.createView target).map .createView)
  | .dropView => some (.ok (.dropView (d.dropView target)))
  | .createStatistics => some ((d.createStatistics target provider).map .createStatistics)
  | .copy => some ((d.copy target).map .copy)
  | .executeSql => some ((d.rawSql target).map .rawSql)
  | .truncate | .alter | .dropStatistics | .unknown => none

/-- The statement of a draft, with a provider for columns that are still to be found. The target
is checked before anything else. -/
def buildWith (d : Draft) (provider : Option StatsProvider) : Except BuildError Statement :=
  match d.target with
  | .error e => .error (.invalid d.kind e)
  | .ok target =>
    match d.assemble? provider target with
    | none => .error (.unsupported d.kind)
    | some statement => statement.mapError (.invalid d.kind)

def build (d : Draft) : Except BuildError Statement :=
  d.buildWith none

end Draft

end LakehouseSql
