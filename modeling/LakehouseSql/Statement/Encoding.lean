import LakehouseSql.Context
import LakehouseSql.Json.Printer
import LakehouseSql.Statement
/-! # Statements as JSON

The JSON object of a statement: its kind, the names and hints of its target, then its own fields.
Metadata and credentials stay out of it, and some lists are left out when they are empty.
-/
namespace LakehouseSql

/-- A word of a vocabulary as a JSON string. -/
def Json.word {α : Type} [Vocabulary α] (a : α) : Json :=
  .string (Vocabulary.word a)

/-- A member that is written only if there is a value. -/
def Json.ifSome {α : Type} (name : String) (encode : α → Json) : Option α → List (String × Json)
  | none => []
  | some a => [(name, encode a)]

def Json.ofDictionary {α : Type} (encode : α → Json) (d : Dictionary α) : Json :=
  .object (d.entries.map fun (key, value) => (key, encode value))

def Json.optionalString (s : Option String) : Json :=
  .optional .string s

def Json.optionalCount (n : Option UInt64) : Json :=
  .optional (fun n => .natural n.toNat) n

def Target.members (t : Target) : List (String × Json) :=
  [("schema_name", Json.string t.schema), ("object_name", Json.string t.object)] ++
    Json.ifSome "engine_hint" Json.word t.engineHint ++
    Json.ifSome "logging_context" Json.string t.loggingContext

/-- A value is written with its kind; null has no value beside it. -/
def SqlValue.toJson : SqlValue → Json
  | null => Json.object [("kind", Json.string "null")]
  | bool b => Json.object [("kind", Json.string "bool"), ("value", Json.bool b)]
  | integer n => Json.object [("kind", Json.string "integer"), ("value", Json.whole n.toInt)]
  | float x => Json.object [("kind", Json.string "float"), ("value", Json.number (.real x))]
  | text s => Json.object [("kind", Json.string "text"), ("value", Json.string s)]
  | expression s => Json.object [("kind", Json.string "expression"), ("value", Json.string s)]

def ColumnDefinition.toJson (c : ColumnDefinition) : Json :=
  Json.object ([("name", Json.string c.name), ("data_type", Json.string c.dataType),
    ("nullable", Json.bool c.nullable)] ++
    Json.ifSome "default_value" SqlValue.toJson c.defaultValue ++
    [("primary_key", Json.bool c.primaryKey), ("unique", Json.bool c.unique)] ++
    Json.ifSome "check_constraint" Json.string c.checkConstraint ++
    Json.ifSome "collation" Json.string c.collation ++
    Json.ifSome "computed_expression" Json.string c.computedExpression)

def CreateTable.members (t : CreateTable) : List (String × Json) :=
  t.target.members ++
    (if t.columns.isEmpty then [] else [("columns", Json.array (t.columns.map (·.toJson)))]) ++
    [("select_query", Json.optionalString t.selectQuery),
      ("source_table", Json.optionalString t.sourceTable),
      ("location", Json.optionalString t.location), ("file_format", Json.word t.fileFormat)] ++
    (if t.partitions.isEmpty then [] else [("partitions", Json.strings t.partitions)]) ++
    [("distribution", Json.optionalString t.distribution)] ++
    (if t.properties.isEmpty then []
      else [("properties", Json.ofDictionary Json.string t.properties)]) ++
    [("recreate", Json.bool t.recreate)]

def DropTable.members (t : DropTable) : List (String × Json) :=
  t.target.members ++ [("if_exists", Json.bool t.ifExists), ("cascade", Json.bool t.cascade)]

def CreateSchema.members (s : CreateSchema) : List (String × Json) :=
  s.target.members ++ [("if_not_exists", Json.bool s.ifNotExists),
    ("authorization", Json.optionalString s.authorization)]

def DropSchema.members (s : DropSchema) : List (String × Json) :=
  s.target.members ++ [("if_exists", Json.bool s.ifExists), ("cascade", Json.bool s.cascade),
    ("restrict", Json.bool s.restrict)]

def Select.members (s : Select) : List (String × Json) :=
  s.target.members ++ [("columns", Json.strings s.columns), ("distinct", Json.bool s.distinct),
    ("where_clause", Json.optionalString s.whereClause),
    ("join_clause", Json.optionalString s.joinClause), ("group_by", Json.strings s.groupBy),
    ("having", Json.optionalString s.having), ("order_by", Json.strings s.orderBy),
    ("limit", Json.optionalCount s.limit), ("offset", Json.optionalCount s.offset)]

/-- The source of an insert is an object with one member named for its kind. -/
def InsertSource.toJson : InsertSource → Json
  | query sql => Json.object [("query", Json.string sql)]
  | rows rs => Json.object [("values", Json.array (rs.map (Json.ofDictionary SqlValue.toJson)))]

def Insert.members (i : Insert) : List (String × Json) :=
  i.target.members ++ [("source", i.source.toJson), ("columns", Json.strings i.columns),
    ("mode", Json.word i.mode)]

def Update.members (u : Update) : List (String × Json) :=
  u.target.members ++ [("set_columns", Json.ofDictionary SqlValue.toJson u.assignments),
    ("where_clause", Json.optionalString u.whereClause),
    ("from_clause", Json.optionalString u.fromClause)]

def Delete.members (d : Delete) : List (String × Json) :=
  d.target.members ++ [("where_clause", Json.optionalString d.whereClause)]

def MergeActions.members (a : MergeActions) : List (String × Json) :=
  let assignments := Json.optional (Json.ofDictionary SqlValue.toJson)
  [("when_matched_update", assignments a.matchedUpdate),
    ("when_matched_delete", Json.optionalString a.matchedDelete),
    ("when_not_matched_insert", assignments a.notMatchedInsert),
    ("when_not_matched_by_source_update", assignments a.bySourceUpdate),
    ("when_not_matched_by_source_delete", Json.bool a.bySourceDelete)]

def Merge.members (m : Merge) : List (String × Json) :=
  m.target.members ++ [("source_query", Json.string m.sourceQuery),
    ("merge_condition", Json.string m.condition)] ++ m.actions.members

def CreateView.members (v : CreateView) : List (String × Json) :=
  v.target.members ++ [("select_query", Json.string v.selectQuery),
    ("columns", Json.strings v.columns), ("schemabinding", Json.bool v.schemaBinding),
    ("materialized", Json.bool v.materialized), ("or_replace", Json.bool v.orReplace)]

def DropView.members (v : DropView) : List (String × Json) :=
  v.target.members ++ [("if_exists", Json.bool v.ifExists)]

def CreateStatistics.members (s : CreateStatistics) : List (String × Json) :=
  s.target.members ++ [("columns", Json.strings s.columns),
    ("sample_percent", Json.optional (fun x => Json.number (.real x)) s.samplePercent),
    ("with_fullscan", Json.bool s.fullScan), ("stats_name", Json.optionalString s.name),
    ("auto_discover", Json.bool s.autoDiscover)]

def Copy.members (c : Copy) : List (String × Json) :=
  c.target.members ++ [("source_path", Json.string c.sourcePath),
    ("file_format", Json.word c.fileFormat)] ++
    if c.options.isEmpty then [] else [("options", Json.ofDictionary SqlValue.toJson c.options)]

def RawSql.members (r : RawSql) : List (String × Json) :=
  r.target.members ++ [("sql", Json.string r.sql), ("returns_results", Json.bool r.returnsResults),
    ("result_format", Json.word r.resultFormat), ("limit", Json.optionalCount r.limit)]

namespace Statement

/-- The members of a statement behind its kind. -/
def fields : Statement → List (String × Json)
  | createTable s => s.members
  | dropTable s => s.members
  | createSchema s => s.members
  | dropSchema s => s.members
  | select s => s.members
  | insert s => s.members
  | update s => s.members
  | delete s => s.members
  | merge s => s.members
  | createView s => s.members
  | dropView s => s.members
  | createStatistics s => s.members
  | copy s => s.members
  | rawSql s => s.members

def toJson (s : Statement) : Json :=
  .object (("type", .word s.kind) :: s.fields)

/-- The JSON text of a statement. -/
def jsonText (s : Statement) : String :=
  s.toJson.text

end Statement

def Context.toJson (c : Context) : Json :=
  .object [("engine_preference", .word c.engine),
    ("complexity_score", .natural c.complexity.toNat),
    ("estimated_rows", .natural c.estimatedRows.toNat),
    ("has_complex_transformations", .bool c.complexTransformations),
    ("timeout_seconds", .optionalCount c.timeoutSeconds)]

end LakehouseSql
