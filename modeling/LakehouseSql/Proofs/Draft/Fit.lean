import LakehouseSql.Proofs.Draft.Setter
/-! # Drafts that fit their kind

For each kind of statement what the fields of a draft have to satisfy, said of the fields alone and
not of the order in which they are looked at, and the statement that they then amount to. Fields
that a kind does not have are never spoken of.
-/
namespace LakehouseSql.Draft
open Identifier (Conforms)

variable (d : Draft)

def plainTarget : Target :=
  ⟨d.schema, d.object, d.engineHint, d.loggingContext, d.metadata⟩

structure FitsCreateTable : Prop where
  given : d.columnDefinitions ≠ [] ∨ d.selectQuery.isSome ∨ d.sourceTable.isSome ∨
    d.location.isSome
  selectQuery : ∀ s ∈ d.selectQuery, Text.isBlankText s = false
  sourceTable : ∀ s ∈ d.sourceTable, Text.isBlankText s = false
  parts : ∀ s ∈ d.sourceTable, ∀ part ∈ CreateTable.dottedParts s, Conforms .object part
  location : ∀ s ∈ d.location, Text.isBlankText s = false
  partitions : ∀ c ∈ d.partitions, Conforms .column c

def plainCreateTable : CreateTable :=
  ⟨d.plainTarget, d.columnDefinitions, d.selectQuery, d.sourceTable,
    CreateTable.defaultLocation d.plainTarget d.tableDefinition, d.fileFormat.getD default,
    d.partitions, d.distribution, d.properties, d.recreate.getD true⟩

def FitsCreateSchema : Prop :=
  ∀ owner ∈ d.authorization, Conforms .object owner

def plainCreateSchema : CreateSchema :=
  ⟨d.plainTarget, d.ifNotExists.getD true, d.authorization⟩

def FitsDropSchema : Prop :=
  ¬(d.cascade = some true ∧ d.restrict = some true)

def plainDropSchema : DropSchema :=
  ⟨d.plainTarget, d.ifExists.getD true, d.cascade.getD false, d.restrict.getD false⟩

structure FitsSelect : Prop where
  columns : ∀ c ∈ d.columns, Conforms .column c
  groupBy : ∀ c ∈ d.groupBy, Conforms .column c
  having : d.having.isSome → d.groupBy ≠ []
  limit : d.limit ≠ some 0

def plainSelect : Select :=
  ⟨d.plainTarget, d.columns, d.distinct, d.whereClause, d.joinClause, d.groupBy, d.having,
    d.orderBy, d.limit, d.offset⟩

/-- Exactly one of a query and rows is given. Rows all have the keys of the first, and columns
that are listed beside rows are keys of them. -/
structure FitsInsert : Prop where
  source : d.selectQuery.isSome ↔ d.rows = []
  query : ∀ s ∈ d.selectQuery, Text.isBlankText s = false
  keys : ∀ first ∈ d.rows.head?, ∀ key ∈ first.keys, Conforms .column key
  even : ∀ first ∈ d.rows.head?, ∀ row ∈ d.rows, ∀ key, key ∈ row.keys ↔ key ∈ first.keys
  columns : ∀ c ∈ d.columns, Conforms .column c
  present : ∀ row ∈ d.rows, ∀ c ∈ d.columns, c ∈ row.keys

def plainInsert : Insert :=
  ⟨d.plainTarget, d.selectQuery.elim (.rows d.rows) .query, d.columns, d.insertMode.getD default⟩

def FitsUpdate : Prop :=
  d.assignments.Assigns

def plainUpdate : Update :=
  ⟨d.plainTarget, d.assignments, d.whereClause, d.fromClause⟩

structure FitsMerge : Prop where
  sourceQuery : ∃ s ∈ d.selectQuery, Text.isBlankText s = false
  condition : ∃ s ∈ d.mergeCondition, Text.isBlankText s = false
  actions : d.mergeActions.Sound

def plainMerge : Merge :=
  ⟨d.plainTarget, d.selectQuery.getD "", d.mergeCondition.getD "", d.mergeActions⟩

structure FitsCreateView : Prop where
  selectQuery : ∃ s ∈ d.selectQuery, Text.isBlankText s = false
  columns : ∀ c ∈ d.columns, Conforms .column c

def plainCreateView : CreateView :=
  ⟨d.plainTarget, d.selectQuery.getD "", d.columns, d.schemaBinding.getD false,
    d.materialized.getD false, d.orReplace.getD true⟩

/-- The columns that a provider answers; one that fails answers none. -/
def providedColumns : Option StatsProvider → List String
  | none => []
  | some provider => (provider d.object d.schema).toOption.getD []

/-- The columns of the metadata, else the provider's. -/
def discoveredColumns (provider : Option StatsProvider) : List String :=
  match d.metadata.bind (·.statsColumns) with
  | some (c :: cs) => c :: cs
  | _ => d.providedColumns provider

/-- The columns for statistics: those given, else those that are discovered if that is wanted. -/
def statisticsColumns (provider : Option StatsProvider) : List String :=
  if d.columns ≠ [] then d.columns
  else if d.autoDiscover = some false then []
  else d.discoveredColumns provider

/-- A sample asks for a scan that is switched off, because full scans are the default. -/
structure FitsCreateStatistics (provider : Option StatsProvider) : Prop where
  given : d.statisticsColumns provider ≠ []
  columns : ∀ c ∈ d.statisticsColumns provider, Conforms .column c
  range : ∀ x ∈ d.samplePercent, x.isFinite ∧ 0 ≤ x.value ∧ x.value ≤ 100
  sampled : d.samplePercent.isSome → d.fullScan = some false
  name : ∀ n ∈ d.statsName, Conforms .object n

def plainCreateStatistics (provider : Option StatsProvider) : CreateStatistics :=
  ⟨d.plainTarget, d.statisticsColumns provider, d.samplePercent, d.fullScan.getD true,
    d.statsName, d.autoDiscover.getD true⟩

structure FitsCopy : Prop where
  sourcePath : ∃ s ∈ d.sourcePath, Text.isBlankText s = false
  options : ∀ key ∈ d.options.keys, Conforms .sql key

def plainCopy : Copy :=
  ⟨d.plainTarget, d.sourcePath.getD "", d.fileFormat.getD default, d.options, d.credential⟩

structure FitsRawSql : Prop where
  sql : ∃ s ∈ d.sql, Text.isBlankText s = false
  format : ∀ f ∈ d.resultFormat, f ≠ default → d.returnsResults = some true
  limit : d.limit ≠ some 0

def plainRawSql : RawSql :=
  ⟨d.plainTarget, d.sql.getD "", d.returnsResults.getD false, d.resultFormat.getD default,
    d.limit⟩

/-- The rule for the fields of the draft's kind; kinds without a statement have none. -/
def Fits (provider : Option StatsProvider) : Prop :=
  match d.kind with
  | .createTable => d.FitsCreateTable
  | .createSchema => d.FitsCreateSchema
  | .dropSchema => d.FitsDropSchema
  | .select => d.FitsSelect
  | .insert => d.FitsInsert
  | .update => d.FitsUpdate
  | .merge => d.FitsMerge
  | .createOrAlterView => d.FitsCreateView
  | .createStatistics => d.FitsCreateStatistics provider
  | .copy => d.FitsCopy
  | .executeSql => d.FitsRawSql
  | .dropTable | .delete | .dropView => True
  | .truncate | .alter | .dropStatistics | .unknown => False

/-- The statement that the fields of the draft's kind spell. -/
def plainStatement? (provider : Option StatsProvider) : Option Statement :=
  match d.kind with
  | .createTable => some (.createTable d.plainCreateTable)
  | .dropTable => some (.dropTable ⟨d.plainTarget, d.ifExists.getD true, d.cascade.getD false⟩)
  | .createSchema => some (.createSchema d.plainCreateSchema)
  | .dropSchema => some (.dropSchema d.plainDropSchema)
  | .select => some (.select d.plainSelect)
  | .insert => some (.insert d.plainInsert)
  | .update => some (.update d.plainUpdate)
  | .delete => some (.delete ⟨d.plainTarget, d.whereClause⟩)
  | .merge => some (.merge d.plainMerge)
  | .createOrAlterView => some (.createView d.plainCreateView)
  | .dropView => some (.dropView ⟨d.plainTarget, d.ifExists.getD true⟩)
  | .createStatistics => some (.createStatistics (d.plainCreateStatistics provider))
  | .copy => some (.copy d.plainCopy)
  | .executeSql => some (.rawSql d.plainRawSql)
  | .truncate | .alter | .dropStatistics | .unknown => none

end LakehouseSql.Draft
