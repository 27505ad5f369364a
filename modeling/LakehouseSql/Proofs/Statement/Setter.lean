import LakehouseSql.Proofs.Lifecycle
import LakehouseSql.Statement
/-! # Setters of statements

The setters of each type of value as data, and what its constructors give. A statement is
constructible if constructors and setters lead to it, and so to all that it is made of.
-/
namespace LakehouseSql

namespace Target

inductive Setter where
  | engineHint (engine : Engine)
  | loggingContext (context : String)
  | metadata (metadata : Metadata)

def set (t : Target) : Setter → Checked Target
  | .engineHint engine => .ok (t.withEngineHint engine)
  | .loggingContext context => .ok (t.withLoggingContext context)
  | .metadata metadata => .ok (t.withMetadata metadata)

def lifecycle : Lifecycle Target where
  Made t := ∃ schema object, create schema object = .ok t
  Setter := Setter
  set := set

abbrev Reached : Target → Prop := lifecycle.Reached

end Target

namespace ColumnDefinition

inductive Setter where
  | nullable (nullable : Bool)
  | notNull
  | primaryKey
  | unique
  | checkConstraint (check : String)
  | collation (collation : String)
  | defaultValue (value : SqlValue)
  | computedExpression (expression : String)

def set (c : ColumnDefinition) : Setter → Checked ColumnDefinition
  | .nullable nullable => .ok (c.withNullable nullable)
  | .notNull => .ok c.notNull
  | .primaryKey => .ok c.asPrimaryKey
  | .unique => .ok c.asUnique
  | .checkConstraint check => .ok (c.withCheckConstraint check)
  | .collation collation => c.withCollation collation
  | .defaultValue value => c.withDefaultValue value
  | .computedExpression expression => c.withComputedExpression expression

def lifecycle : Lifecycle ColumnDefinition where
  Made c := ∃ name dataType, create name dataType = .ok c
  Setter := Setter
  set := set

abbrev Reached : ColumnDefinition → Prop := lifecycle.Reached

end ColumnDefinition

namespace CreateTable

inductive Setter where
  | fileFormat (fileFormat : FileFormat)
  | partitions (partitions : List String)
  | distribution (distribution : String)
  | property (key value : String)
  | recreate (recreate : Bool)

def set (t : CreateTable) : Setter → Checked CreateTable
  | .fileFormat fileFormat => .ok (t.withFileFormat fileFormat)
  | .partitions partitions => t.withPartitions partitions
  | .distribution distribution => .ok (t.withDistribution distribution)
  | .property key value => .ok (t.withProperty key value)
  | .recreate recreate => .ok (t.withRecreate recreate)

/-- The definition may combine its parts in any way, as long as its columns were reached. -/
def lifecycle : Lifecycle CreateTable where
  Made t := ∃ target d, target.Reached ∧ (∀ c ∈ d.columns, c.Reached) ∧ create target d = .ok t
  Setter := Setter
  set := set

end CreateTable

namespace DropTable

inductive Setter where
  | ifExists (ifExists : Bool)
  | cascade (cascade : Bool)

def set (t : DropTable) : Setter → Checked DropTable
  | .ifExists ifExists => .ok (t.withIfExists ifExists)
  | .cascade cascade => .ok (t.withCascade cascade)

def lifecycle : Lifecycle DropTable where
  Made t := ∃ target, target.Reached ∧ create target = t
  Setter := Setter
  set := set

end DropTable

namespace CreateSchema

inductive Setter where
  | ifNotExists (ifNotExists : Bool)
  | authorization (owner : String)

def set (s : CreateSchema) : Setter → Checked CreateSchema
  | .ifNotExists ifNotExists => .ok (s.withIfNotExists ifNotExists)
  | .authorization owner => s.withAuthorization owner

def lifecycle : Lifecycle CreateSchema where
  Made s := (∃ target, target.Reached ∧ create target = s) ∨ ∃ schema, named schema = .ok s
  Setter := Setter
  set := set

end CreateSchema

namespace DropSchema

inductive Setter where
  | ifExists (ifExists : Bool)
  | cascade (cascade : Bool)
  | restrict (restrict : Bool)

def set (s : DropSchema) : Setter → Checked DropSchema
  | .ifExists ifExists => .ok (s.withIfExists ifExists)
  | .cascade cascade => s.withCascade cascade
  | .restrict restrict => s.withRestrict restrict

def lifecycle : Lifecycle DropSchema where
  Made s := (∃ target, target.Reached ∧ create target = s) ∨ ∃ schema, named schema = .ok s
  Setter := Setter
  set := set

end DropSchema

namespace Select

inductive Setter where
  | columns (columns : List String)
  | distinct
  | whereClause (condition : String)
  | joinClause (join : String)
  | groupBy (columns : List String)
  | having (condition : String)
  | orderBy (expressions : List String)
  | limit (limit : UInt64)
  | offset (offset : UInt64)

def set (s : Select) : Setter → Checked Select
  | .columns columns => s.withColumns columns
  | .distinct => .ok s.withDistinct
  | .whereClause condition => .ok (s.withWhere condition)
  | .joinClause join => .ok (s.withJoin join)
  | .groupBy columns => s.withGroupBy columns
  | .having condition => s.withHaving condition
  | .orderBy expressions => .ok (s.withOrderBy expressions)
  | .limit limit => s.withLimit limit
  | .offset offset => .ok (s.withOffset offset)

def lifecycle : Lifecycle Select where
  Made s := ∃ target, target.Reached ∧ create target = s
  Setter := Setter
  set := set

end Select

namespace Insert

inductive Setter where
  | columns (columns : List String)
  | mode (mode : InsertMode)

def set (i : Insert) : Setter → Checked Insert
  | .columns columns => i.withColumns columns
  | .mode mode => .ok (i.withMode mode)

def lifecycle : Lifecycle Insert where
  Made i := ∃ target source, target.Reached ∧ create target source = .ok i
  Setter := Setter
  set := set

end Insert

namespace Update

inductive Setter where
  | whereClause (condition : String)
  | fromClause (source : String)

def set (u : Update) : Setter → Checked Update
  | .whereClause condition => .ok (u.withWhere condition)
  | .fromClause source => .ok (u.withFrom source)

def lifecycle : Lifecycle Update where
  Made u := ∃ target assignments, target.Reached ∧ create target assignments = .ok u
  Setter := Setter
  set := set

end Update

namespace Delete

inductive Setter where
  | whereClause (condition : String)

def set (d : Delete) : Setter → Checked Delete
  | .whereClause condition => .ok (d.withWhere condition)

def lifecycle : Lifecycle Delete where
  Made d := ∃ target, target.Reached ∧ create target = d
  Setter := Setter
  set := set

end Delete

/-- A merge has no setters. -/
def Merge.lifecycle : Lifecycle Merge where
  Made m := ∃ target sourceQuery condition actions, target.Reached ∧
    create target sourceQuery condition actions = .ok m
  Setter := Empty
  set _ setter := nomatch setter

namespace CreateView

inductive Setter where
  | columns (columns : List String)
  | schemaBinding (schemaBinding : Bool)
  | materialized (materialized : Bool)
  | orReplace (orReplace : Bool)

def set (v : CreateView) : Setter → Checked CreateView
  | .columns columns => v.withColumns columns
  | .schemaBinding schemaBinding => .ok (v.withSchemaBinding schemaBinding)
  | .materialized materialized => .ok (v.withMaterialized materialized)
  | .orReplace orReplace => .ok (v.withOrReplace orReplace)

def lifecycle : Lifecycle CreateView where
  Made v := ∃ target selectQuery, target.Reached ∧ create target selectQuery = .ok v
  Setter := Setter
  set := set

end CreateView

namespace DropView

inductive Setter where
  | ifExists (ifExists : Bool)

def set (v : DropView) : Setter → Checked DropView
  | .ifExists ifExists => .ok (v.withIfExists ifExists)

def lifecycle : Lifecycle DropView where
  Made v := ∃ target, target.Reached ∧ create target = v
  Setter := Setter
  set := set

end DropView

namespace StatisticsRequest

inductive Setter where
  | columns (columns : List String)
  | samplePercent (percent : Binary64)
  | fullScan (fullScan : Bool)
  | name (name : String)
  | autoDiscover (autoDiscover : Bool)

def set (r : StatisticsRequest) : Setter → Checked StatisticsRequest
  | .columns columns => r.withColumns columns
  | .samplePercent percent => r.withSamplePercent percent
  | .fullScan fullScan => r.withFullScan fullScan
  | .name name => r.withName name
  | .autoDiscover autoDiscover => .ok (r.withAutoDiscover autoDiscover)

def lifecycle : Lifecycle StatisticsRequest where
  Made r := ∃ target, target.Reached ∧ create target = r
  Setter := Setter
  set := set

abbrev Reached : StatisticsRequest → Prop := lifecycle.Reached

end StatisticsRequest

/-- Statistics come from a request; they have no setters of their own. -/
def CreateStatistics.lifecycle : Lifecycle CreateStatistics where
  Made s := ∃ (r : StatisticsRequest) (provider : Option StatsProvider),
    r.Reached ∧ (r.resolve provider).result = .ok s
  Setter := Empty
  set _ setter := nomatch setter

namespace Copy

inductive Setter where
  | fileFormat (fileFormat : FileFormat)
  | option (key : String) (value : SqlValue)
  | credential (credential : String)

def set (c : Copy) : Setter → Checked Copy
  | .fileFormat fileFormat => .ok (c.withFileFormat fileFormat)
  | .option key value => c.withOption key value
  | .credential credential => .ok (c.withCredential credential)

def lifecycle : Lifecycle Copy where
  Made c := ∃ target sourcePath, target.Reached ∧ create target sourcePath = .ok c
  Setter := Setter
  set := set

end Copy

namespace RawSql

inductive Setter where
  | returning (resultFormat : ResultFormat)
  | returnsResults (returnsResults : Bool)
  | resultFormat (resultFormat : ResultFormat)
  | limit (limit : UInt64)

def set (r : RawSql) : Setter → Checked RawSql
  | .returning resultFormat => .ok (r.returning resultFormat)
  | .returnsResults returnsResults => r.withReturnsResults returnsResults
  | .resultFormat resultFormat => r.withResultFormat resultFormat
  | .limit limit => r.withLimit limit

def lifecycle : Lifecycle RawSql where
  Made r := ∃ target sql, target.Reached ∧ create target sql = .ok r
  Setter := Setter
  set := set

end RawSql

/-- Constructors and setters lead to the statement. -/
def Statement.Constructible : Statement → Prop
  | createTable s => CreateTable.lifecycle.Reached s
  | dropTable s => DropTable.lifecycle.Reached s
  | createSchema s => CreateSchema.lifecycle.Reached s
  | dropSchema s => DropSchema.lifecycle.Reached s
  | select s => Select.lifecycle.Reached s
  | insert s => Insert.lifecycle.Reached s
  | update s => Update.lifecycle.Reached s
  | delete s => Delete.lifecycle.Reached s
  | merge s => Merge.lifecycle.Reached s
  | createView s => CreateView.lifecycle.Reached s
  | dropView s => DropView.lifecycle.Reached s
  | createStatistics s => CreateStatistics.lifecycle.Reached s
  | copy s => Copy.lifecycle.Reached s
  | rawSql s => RawSql.lifecycle.Reached s

end LakehouseSql
