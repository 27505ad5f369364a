import LakehouseSql.Text.Basic
import LakehouseSql.Text.Case
/-! # Vocabularies

Closed sets of words with one fixed spelling each. A text names a member if it is the member's
word up to blanks at its ends and the case of ASCII letters.
-/
namespace LakehouseSql

/-- A type whose members are the words of a closed list. -/
class Vocabulary (α : Type) where
  /-- What a word of the list names, for messages. -/
  noun : String
  /-- All members in the order in which they are listed. -/
  members : List α
  word : α → String

/-- A text, as it was given, that is no word of a vocabulary. -/
structure UnknownWord where
  noun : String
  text : String
  deriving DecidableEq

def UnknownWord.message (e : UnknownWord) : String :=
  "Unknown " ++ e.noun ++ " '" ++ e.text ++ "'"

/-- The member that a text names. -/
def Vocabulary.parse (α : Type) [Vocabulary α] (text : String) : Except UnknownWord α :=
  match (members : List α).find? fun a => Text.sameIgnoringAsciiCase (Text.trim text) (word a) with
  | some a => .ok a
  | none => .error ⟨noun α, text⟩

/-- Kind of SQL statement. -/
inductive StatementKind where
  | select
  | insert
  | update
  | delete
  | merge
  | copy
  | truncate
  | createTable
  | dropTable
  | createOrAlterView
  | dropView
  | createSchema
  | dropSchema
  | alter
  | createStatistics
  | dropStatistics
  | executeSql
  | unknown
  deriving DecidableEq

instance : Vocabulary StatementKind where
  noun := "query type"
  members := [.select, .insert, .update, .delete, .merge, .copy, .truncate, .createTable,
    .dropTable, .createOrAlterView, .dropView, .createSchema, .dropSchema, .alter,
    .createStatistics, .dropStatistics, .executeSql, .unknown]
  word
    | .select => "SELECT"
    | .insert => "INSERT"
    | .update => "UPDATE"
    | .delete => "DELETE"
    | .merge => "MERGE"
    | .copy => "COPY"
    | .truncate => "TRUNCATE"
    | .createTable => "CREATE_TABLE"
    | .dropTable => "DROP_TABLE"
    | .createOrAlterView => "CREATE_OR_ALTER_VIEW"
    | .dropView => "DROP_VIEW"
    | .createSchema => "CREATE_SCHEMA"
    | .dropSchema => "DROP_SCHEMA"
    | .alter => "ALTER"
    | .createStatistics => "CREATE_STATISTICS"
    | .dropStatistics => "DROP_STATISTICS"
    | .executeSql => "EXECUTE_SQL"
    | .unknown => "UNKNOWN"

/-- Statements that change the objects of a schema. -/
def StatementKind.isDefinition : StatementKind → Bool
  | .createTable | .dropTable | .createOrAlterView | .dropView | .createSchema | .dropSchema
  | .alter | .truncate | .createStatistics | .dropStatistics => true
  | _ => false

/-- Statements that read or change the rows of a table. -/
def StatementKind.isManipulation : StatementKind → Bool
  | .select | .insert | .update | .delete | .merge | .copy => true
  | _ => false

/-- Medallion layer that a schema belongs to. -/
inductive Layer where
  | bronze
  | silver
  | gold
  | temp
  | staging
  | snapshot
  | archive
  | dbo
  deriving DecidableEq

instance : Vocabulary Layer where
  noun := "layer"
  members := [.bronze, .silver, .gold, .temp, .staging, .snapshot, .archive, .dbo]
  word
    | .bronze => "bronze"
    | .silver => "silver"
    | .gold => "gold"
    | .temp => "temp"
    | .staging => "staging"
    | .snapshot => "snapshot"
    | .archive => "archive"
    | .dbo => "dbo"

/-- Warehouse platform that a statement is written for. -/
inductive Platform where
  | synapse
  | fabric
  deriving DecidableEq

instance : Vocabulary Platform where
  noun := "compute type"
  members := [.synapse, .fabric]
  word
    | .synapse => "synapse"
    | .fabric => "fabric"

instance : Inhabited Platform := ⟨.synapse⟩

/-- Environment that a step of a pipeline runs in. -/
inductive Workload where
  | etl
  | consumption
  deriving DecidableEq

instance : Vocabulary Workload where
  noun := "compute environment"
  members := [.etl, .consumption]
  word
    | .etl => "etl"
    | .consumption => "consumption"

/-- Engine preferred for running a statement. -/
inductive Engine where
  | sql
  | spark
  | auto
  deriving DecidableEq

instance : Vocabulary Engine where
  noun := "engine type"
  members := [.sql, .spark, .auto]
  word
    | .sql => "sql"
    | .spark => "spark"
    | .auto => "auto"

instance : Inhabited Engine := ⟨.auto⟩

inductive ExecutionMode where
  | sequential
  | parallel
  deriving DecidableEq

instance : Vocabulary ExecutionMode where
  noun := "execution mode"
  members := [.sequential, .parallel]
  word
    | .sequential => "SEQUENTIAL"
    | .parallel => "PARALLEL"

instance : Inhabited ExecutionMode := ⟨.sequential⟩

inductive LakeZone where
  | processed
  | internal
  deriving DecidableEq

instance : Vocabulary LakeZone where
  noun := "lake type"
  members := [.processed, .internal]
  word
    | .processed => "processed"
    | .internal => "internal"

inductive Severity where
  | error
  | warning
  | info
  deriving DecidableEq

instance : Vocabulary Severity where
  noun := "validation level"
  members := [.error, .warning, .info]
  word
    | .error => "error"
    | .warning => "warning"
    | .info => "info"

/-- Shape in which the result of raw SQL is handed back. -/
inductive ResultFormat where
  | dataframe
  | dictList
  | scalar
  deriving DecidableEq

instance : Vocabulary ResultFormat where
  noun := "result format"
  members := [.dataframe, .dictList, .scalar]
  word
    | .dataframe => "dataframe"
    | .dictList => "dict_list"
    | .scalar => "scalar"

instance : Inhabited ResultFormat := ⟨.dataframe⟩

/-- Whether an insert appends to the rows of its target or replaces them. -/
inductive InsertMode where
  | append
  | overwrite
  deriving DecidableEq

instance : Vocabulary InsertMode where
  noun := "insert mode"
  members := [.append, .overwrite]
  word
    | .append => "append"
    | .overwrite => "overwrite"

instance : Inhabited InsertMode := ⟨.append⟩

/-- Storage format of lake files. -/
inductive FileFormat where
  | parquet
  | csv
  | delta
  | json
  deriving DecidableEq

instance : Vocabulary FileFormat where
  noun := "file format"
  members := [.parquet, .csv, .delta, .json]
  word
    | .parquet => "parquet"
    | .csv => "csv"
    | .delta => "delta"
    | .json => "json"

instance : Inhabited FileFormat := ⟨.parquet⟩

end LakehouseSql
