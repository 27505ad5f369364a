import LakehouseSql.Draft
import LakehouseSql.Json.Field
import LakehouseSql.Json.Reader
/-! # Statements from JSON

A record takes its members in their order and then feeds a draft, so that what was read passes the
same checks as what is built. Unknown members are passed over and missing ones have defaults.
-/
namespace LakehouseSql

/-- A column as it is read, before any check. -/
structure ColumnRecord where
  name : Option String := none
  dataType : Option String := none
  nullable : Bool := true
  defaultValue : Option SqlValue := none
  primaryKey : Bool := false
  unique : Bool := false
  checkConstraint : Option String := none
  collation : Option String := none
  computedExpression : Option String := none

/-- Columns are names alone or definitions. -/
inductive ColumnsRecord where
  | names (names : List String)
  | definitions (columns : List ColumnRecord)

/-- The fields that may feed a draft in more than one way, and a draft for the others. -/
structure StatementRecord where
  draft : Draft := { kind := .unknown, schema := "", object := "" }
  columns : ColumnsRecord := .names []
  sourceQuery : Option String := none
  source : Option InsertSource := none

/-- Why a JSON text is no statement. -/
inductive StatementError where
  | field (e : FieldError)
  | build (e : BuildError)
  deriving DecidableEq

namespace Json

/-- The value of a kind; only null may come without one. -/
def sqlValueOf (kind : String) (value : Option Json) : Decoded SqlValue :=
  match kind, value with
  | "null", none | "null", some .null => .ok .null
  | "bool", some j => (boolField j).map .bool
  | "integer", some j => (int64Field j).map .integer
  | "float", some j => (realField j).map .float
  | "text", some j => (stringField j).map .text
  | "expression", some j => (stringField j).map .expression
  | _, _ => .error .shape

/-- The name of a kind, or an object with null under that name and nothing else. -/
def kindField : Json → Decoded String
  | .string kind => .ok kind
  | .object [(kind, .null)] => .ok kind
  | _ => .error .shape

/-- A value as it is read, before its kind is looked at. -/
structure ValueRecord where
  kind : Option String := none
  value : Option Json := none

def valueMembers : RecordMembers ValueRecord :=
  [("kind", ⟨kindField, fun r v => { r with kind := some v }⟩),
    ("value", ⟨.ok, fun r v => { r with value := some v }⟩)]

/-- An object of a kind and a value, or an array of both. -/
def sqlValueField : Json → Decoded SqlValue
  | .object ms => do
    let r ← takeMembers valueMembers [] {} ms
    match r.kind with
    | some kind => sqlValueOf kind r.value
    | none => .error .shape
  | .array [kind, value] => do
    sqlValueOf (← kindField kind) (some value)
  | _ => .error .shape

/-- The source of an insert: an object with one member, named for the kind of source. -/
def insertSourceField : Json → Decoded InsertSource
  | .object [("query", j)] => (stringField j).map .query
  | .object [("values", j)] => (listField (dictionaryField sqlValueField) j).map .rows
  | _ => .error .shape

def columnMembers : RecordMembers ColumnRecord :=
  [("name", ⟨stringField, fun c v => { c with name := some v }⟩),
    ("data_type", ⟨stringField, fun c v => { c with dataType := some v }⟩),
    ("nullable", ⟨boolField, fun c v => { c with nullable := v }⟩),
    ("default_value", ⟨optionalField sqlValueField, fun c v => { c with defaultValue := v }⟩),
    ("primary_key", ⟨boolField, fun c v => { c with primaryKey := v }⟩),
    ("unique", ⟨boolField, fun c v => { c with unique := v }⟩),
    ("check_constraint", ⟨optionalField stringField, fun c v => { c with checkConstraint := v }⟩),
    ("collation", ⟨optionalField stringField, fun c v => { c with collation := v }⟩),
    ("computed_expression",
      ⟨optionalField stringField, fun c v => { c with computedExpression := v }⟩)]

/-- A column has at least a name and a type. -/
def columnField (j : Json) : Decoded ColumnRecord := do
  let c ← recordField columnMembers {} j
  if c.name.isNone || c.dataType.isNone then throw .shape
  return c

/-- The depth to which lists of columns may nest. -/
def columnsDepth : Nat := 126

/-- A list of names or a list of definitions; the empty list is one of names. -/
def columnsField (j : Json) : Decoded ColumnsRecord :=
  if !j.readableWithin columnsDepth then .error .shape
  else
    match listField stringField j with
    | .ok names => .ok (.names names)
    | .error _ => (listField columnField j).map .definitions

end Json

namespace ColumnRecord

/-- The definition of a column, checked step by step. -/
def toDefinition (c : ColumnRecord) : Checked ColumnDefinition := do
  let column ← ColumnDefinition.create (c.name.getD "") (c.dataType.getD "")
  let column := { column with
    nullable := c.nullable
    primaryKey := c.primaryKey
    unique := c.unique
    checkConstraint := c.checkConstraint }
  let column ← Draft.given c.collation ColumnDefinition.withCollation column
  let column ← Draft.given c.defaultValue ColumnDefinition.withDefaultValue column
  Draft.given c.computedExpression ColumnDefinition.withComputedExpression column

end ColumnRecord

namespace Json

namespace Member

/-- A member that goes into the draft. -/
def drafted {α : Type} (read : Json → Decoded α) (change : Draft → α → Draft) :
    Member StatementRecord :=
  ⟨read, fun r v => { r with draft := change r.draft v }⟩

def text (change : Draft → String → Draft) : Member StatementRecord :=
  drafted stringField change

def text? (change : Draft → Option String → Draft) : Member StatementRecord :=
  drafted (optionalField stringField) change

def texts (change : Draft → List String → Draft) : Member StatementRecord :=
  drafted (listField stringField) change

def flag (change : Draft → Bool → Draft) : Member StatementRecord :=
  drafted boolField change

def flag? (change : Draft → Option Bool → Draft) : Member StatementRecord :=
  drafted (optionalField boolField) change

def count? (change : Draft → Option UInt64 → Draft) : Member StatementRecord :=
  drafted (optionalField uint64Field) change

def word? {α : Type} [Vocabulary α] (change : Draft → Option α → Draft) :
    Member StatementRecord :=
  drafted (optionalField (wordField α)) change

def values (change : Draft → Dictionary SqlValue → Draft) : Member StatementRecord :=
  drafted (dictionaryField sqlValueField) change

/-- A member that goes into the actions of a merge. -/
def action {α : Type} (read : Json → Decoded α) (change : MergeActions → α → MergeActions) :
    Member StatementRecord :=
  drafted read fun d v => { d with mergeActions := change d.mergeActions v }

end Member

/-- The members that a statement may have. -/
def statementMembers : RecordMembers StatementRecord :=
  [("type", .word? fun d v => { d with kind := v.getD .unknown }),
    ("schema_name", .text fun d v => { d with schema := v }),
    ("object_name", .text fun d v => { d with object := v }),
    ("engine_hint", .word? fun d v => { d with engineHint := v }),
    ("logging_context", .text? fun d v => { d with loggingContext := v }),
    ("columns", ⟨columnsField, fun r v => { r with columns := v }⟩),
    ("select_query", .text? fun d v => { d with selectQuery := v }),
    ("source_table", .text? fun d v => { d with sourceTable := v }),
    ("location", .text? fun d v => { d with location := v }),
    ("file_format", .word? fun d v => { d with fileFormat := v }),
    ("partitions", .texts fun d v => { d with partitions := v }),
    ("distribution", .text? fun d v => { d with distribution := v }),
    ("properties", .drafted (dictionaryField stringField) fun d v => { d with properties := v }),
    ("recreate", .flag? fun d v => { d with recreate := v }),
    ("if_exists", .flag? fun d v => { d with ifExists := v }),
    ("if_not_exists", .flag? fun d v => { d with ifNotExists := v }),
    ("cascade", .flag? fun d v => { d with cascade := v }),
    ("restrict", .flag? fun d v => { d with restrict := v }),
    ("authorization", .text? fun d v => { d with authorization := v }),
    ("distinct", .flag fun d v => { d with distinct := v }),
    ("join_clause", .text? fun d v => { d with joinClause := v }),
    ("where_clause", .text? fun d v => { d with whereClause := v }),
    ("group_by", .texts fun d v => { d with groupBy := v }),
    ("having", .text? fun d v => { d with having := v }),
    ("order_by", .texts fun d v => { d with orderBy := v }),
    ("limit", .count? fun d v => { d with limit := v }),
    ("offset", .count? fun d v => { d with offset := v }),
    ("source", ⟨optionalField insertSourceField, fun r v => { r with source := v }⟩),
    ("mode", .word? fun d v => { d with insertMode := v }),
    ("set_columns", .values fun d v => { d with assignments := v }),
    ("from_clause", .text? fun d v => { d with fromClause := v }),
    ("source_query", ⟨optionalField stringField, fun r v => { r with sourceQuery := v }⟩),
    ("merge_condition", .text? fun d v => { d with mergeCondition := v }),
    ("when_matched_update",
      .action (optionalField (dictionaryField sqlValueField))
        fun a v => { a with matchedUpdate := v }),
    ("when_matched_delete",
      .action (optionalField stringField) fun a v => { a with matchedDelete := v }),
    ("when_not_matched_insert",
      .action (optionalField (dictionaryField sqlValueField))
        fun a v => { a with notMatchedInsert := v }),
    ("when_not_matched_by_source_update",
      .action (optionalField (dictionaryField sqlValueField))
        fun a v => { a with bySourceUpdate := v }),
    ("when_not_matched_by_source_delete",
      .action boolField fun a v => { a with bySourceDelete := v }),
    ("schemabinding", .flag? fun d v => { d with schemaBinding := v }),
    ("materialized", .flag? fun d v => { d with materialized := v }),
    ("or_replace", .flag? fun d v => { d with orReplace := v }),
    ("sample_percent", .drafted (optionalField realField) fun d v => { d with samplePercent := v }),
    ("with_fullscan", .flag? fun d v => { d with fullScan := v }),
    ("stats_name", .text? fun d v => { d with statsName := v }),
    ("auto_discover", .flag? fun d v => { d with autoDiscover := v }),
    ("source_path", .text? fun d v => { d with sourcePath := v }),
    ("options", .values fun d v => { d with options := v }),
    ("credential", .text? fun d v => { d with credential := v }),
    ("sql", .text? fun d v => { d with sql := v }),
    ("returns_results", .flag? fun d v => { d with returnsResults := v }),
    ("result_format", .word? fun d v => { d with resultFormat := v })]

end Json

namespace StatementRecord

/-- Definitions of columns from the first to the last. -/
def definitions : List ColumnRecord → Checked (List ColumnDefinition)
  | [] => .ok []
  | c :: cs => do
    let column ← c.toDefinition
    return column :: (← definitions cs)

/-- Tables that are created have definitions of columns, all other statements names. -/
def withColumns (r : StatementRecord) : Checked Draft :=
  match r.columns with
  | .names names =>
    if r.draft.kind = .createTable then
      if names.isEmpty then .ok r.draft else .error (.conflict .namesForDefinitions)
    else .ok { r.draft with columns := names }
  | .definitions columns =>
    if r.draft.kind = .createTable then do
      return { r.draft with columnDefinitions := ← definitions columns }
    else .error (.conflict (.definitionsForNames r.draft.kind))

/-- A query of the source comes before all others, and that of a merge after them. -/
def query (r : StatementRecord) : Option String :=
  match r.source with
  | some (.query sql) => some sql
  | _ => r.draft.selectQuery.or r.sourceQuery

def rows (r : StatementRecord) : List (Dictionary SqlValue) :=
  match r.source with
  | some (.rows rows) => rows
  | _ => []

def toDraft (r : StatementRecord) : Except BuildError Draft := do
  let d ← r.withColumns.mapError (.invalid r.draft.kind)
  return { d with selectQuery := r.query, rows := r.rows }

end StatementRecord

namespace Statement

/-- The statement that the members of an object spell. -/
def ofMembers (ms : List (String × Json)) : Except StatementError Statement := do
  let r ← (Json.takeMembers Json.statementMembers [] {} ms).mapError .field
  let d ← r.toDraft.mapError .build
  d.build.mapError .build

/-- The statement of a JSON text. Members are taken in their order, so that the first bad one
decides; what they amount to is looked at once the record is closed, and before anything that
follows it. -/
def ofJsonText (s : String) : Except StatementError Statement := do
  let (ms, ending) := Json.readRecord (Json.statementMembers.map (·.1)) s
  let r ← (Json.takeMembers Json.statementMembers [] {} ms).mapError .field
  if ending = .broken then throw (.field .shape)
  let d ← r.toDraft.mapError .build
  let statement ← d.build.mapError .build
  if ending = .trailing then throw (.field .shape)
  return statement

end Statement

end LakehouseSql
