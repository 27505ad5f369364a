import LakehouseSql.Proofs.Draft.Build
/-! # Drafts of statements

A statement gives all its fields to a draft, those included that had been left to a default. A
statement that was built is built again from its draft, up to what only its target or its loading
knows: metadata and credentials do not go into a draft.
-/
namespace LakehouseSql
open Identifier (Conforms)

/-- A draft of a kind with the names and hints of the target. -/
def Target.draft (t : Target) (kind : StatementKind) : Draft :=
  { kind
    schema := t.schema
    object := t.object
    engineHint := t.engineHint
    loggingContext := t.loggingContext }

/-- The target without its metadata. -/
def Target.written (t : Target) : Target :=
  { t with metadata := none }

def CreateTable.draft (t : CreateTable) : Draft :=
  { t.target.draft .createTable with
    columnDefinitions := t.columns
    selectQuery := t.selectQuery
    sourceTable := t.sourceTable
    location := t.location
    fileFormat := some t.fileFormat
    partitions := t.partitions
    distribution := t.distribution
    properties := t.properties
    recreate := some t.recreate }

def DropTable.draft (t : DropTable) : Draft :=
  { t.target.draft .dropTable with ifExists := some t.ifExists, cascade := some t.cascade }

def CreateSchema.draft (s : CreateSchema) : Draft :=
  { s.target.draft .createSchema with
    ifNotExists := some s.ifNotExists, authorization := s.authorization }

def DropSchema.draft (s : DropSchema) : Draft :=
  { s.target.draft .dropSchema with
    ifExists := some s.ifExists, cascade := some s.cascade, restrict := some s.restrict }

def Select.draft (s : Select) : Draft :=
  { s.target.draft .select with
    columns := s.columns
    distinct := s.distinct
    whereClause := s.whereClause
    joinClause := s.joinClause
    groupBy := s.groupBy
    having := s.having
    orderBy := s.orderBy
    limit := s.limit
    offset := s.offset }

def InsertSource.query? : InsertSource → Option String
  | query sql => some sql
  | rows _ => none

def InsertSource.rowList : InsertSource → List (Dictionary SqlValue)
  | query _ => []
  | rows rs => rs

def Insert.draft (i : Insert) : Draft :=
  { i.target.draft .insert with
    selectQuery := i.source.query?
    rows := i.source.rowList
    columns := i.columns
    insertMode := some i.mode }

def Update.draft (u : Update) : Draft :=
  { u.target.draft .update with
    assignments := u.assignments, whereClause := u.whereClause, fromClause := u.fromClause }

def Delete.draft (d : Delete) : Draft :=
  { d.target.draft .delete with whereClause := d.whereClause }

def Merge.draft (m : Merge) : Draft :=
  { m.target.draft .merge with
    selectQuery := some m.sourceQuery
    mergeCondition := some m.condition
    mergeActions := m.actions }

def CreateView.draft (v : CreateView) : Draft :=
  { v.target.draft .createOrAlterView with
    selectQuery := some v.selectQuery
    columns := v.columns
    schemaBinding := some v.schemaBinding
    materialized := some v.materialized
    orReplace := some v.orReplace }

def DropView.draft (v : DropView) : Draft :=
  { v.target.draft .dropView with ifExists := some v.ifExists }

def CreateStatistics.draft (s : CreateStatistics) : Draft :=
  { s.target.draft .createStatistics with
    columns := s.columns
    samplePercent := s.samplePercent
    fullScan := some s.fullScan
    statsName := s.name
    autoDiscover := some s.autoDiscover }

def Copy.draft (c : Copy) : Draft :=
  { c.target.draft .copy with
    sourcePath := some c.sourcePath, fileFormat := some c.fileFormat, options := c.options }

def RawSql.draft (r : RawSql) : Draft :=
  { r.target.draft .executeSql with
    sql := some r.sql
    returnsResults := some r.returnsResults
    resultFormat := some r.resultFormat
    limit := r.limit }

namespace Statement

/-- The draft of the fields of a statement. -/
def draft : Statement → Draft
  | createTable s => s.draft
  | dropTable s => s.draft
  | createSchema s => s.draft
  | dropSchema s => s.draft
  | select s => s.draft
  | insert s => s.draft
  | update s => s.draft
  | delete s => s.draft
  | merge s => s.draft
  | createView s => s.draft
  | dropView s => s.draft
  | createStatistics s => s.draft
  | copy s => s.draft
  | rawSql s => s.draft

/-- The statement without what is never written: the metadata of its target and the credential of
a copy. -/
def written : Statement → Statement
  | createTable s => createTable { s with target := s.target.written }
  | dropTable s => dropTable { s with target := s.target.written }
  | createSchema s => createSchema { s with target := s.target.written }
  | dropSchema s => dropSchema { s with target := s.target.written }
  | select s => select { s with target := s.target.written }
  | insert s => insert { s with target := s.target.written }
  | update s => update { s with target := s.target.written }
  | delete s => delete { s with target := s.target.written }
  | merge s => merge { s with target := s.target.written }
  | createView s => createView { s with target := s.target.written }
  | dropView s => dropView { s with target := s.target.written }
  | createStatistics s => createStatistics { s with target := s.target.written }
  | copy s => copy { s with target := s.target.written, credential := none }
  | rawSql s => rawSql { s with target := s.target.written }

end Statement

namespace Draft

variable {d : Draft} {provider : Option StatsProvider}

theorem FitsCreateTable.redraft (h : d.FitsCreateTable) :
    d.plainCreateTable.draft.FitsCreateTable := by
  refine ⟨?_, h.selectQuery, h.sourceTable, h.parts, ?_, h.partitions⟩
  · exact h.given.imp_right fun h => h.imp_right fun h => h.imp_right fun hl =>
      CreateTable.defaultLocation_isSome (.inr hl)
  · exact CreateTable.defaultLocation_not_blank h.location

private theorem plainCreateTable_redraft :
    d.plainCreateTable.draft.plainCreateTable =
      { d.plainCreateTable with target := d.plainTarget.written } := by
  unfold CreateTable.draft plainCreateTable tableDefinition CreateTable.defaultLocation
  -- a place that was given by default is kept as if it had been given
  cases hl : d.location with
  | some location => rfl
  | none =>
    cases hq : d.selectQuery with
    | some query => rfl
    | none => rfl

theorem FitsDropSchema.redraft (h : d.FitsDropSchema) : d.plainDropSchema.draft.FitsDropSchema := by
  intro h
  obtain ⟨hc, hr⟩ := h
  refine h ⟨?_, ?_⟩
  · cases hd : d.cascade <;> simp_all [DropSchema.draft, plainDropSchema]
  · cases hd : d.restrict <;> simp_all [DropSchema.draft, plainDropSchema]

private theorem source_eq (h : d.selectQuery.isSome ↔ d.rows = []) :
    d.plainInsert.source.query? = d.selectQuery ∧ d.plainInsert.source.rowList = d.rows := by
  unfold plainInsert
  cases hq : d.selectQuery with
  | some query => exact ⟨rfl, (h.mp (by rw [hq]; rfl)).symm⟩
  | none => exact ⟨rfl, rfl⟩

theorem FitsInsert.redraft (h : d.FitsInsert) : d.plainInsert.draft.FitsInsert := by
  obtain ⟨hq, hr⟩ := source_eq h.source
  unfold Insert.draft
  rw [hq, hr]
  exact ⟨h.source, h.query, h.keys, h.even, h.columns, h.present⟩

private theorem plainInsert_redraft (h : d.FitsInsert) :
    d.plainInsert.draft.plainInsert = { d.plainInsert with target := d.plainTarget.written } := by
  obtain ⟨hq, hr⟩ := source_eq h.source
  unfold Insert.draft
  rw [hq, hr]
  rfl

private theorem getD_not_blank {text : Option String}
    (h : ∃ s ∈ text, Text.isBlankText s = false) :
    ∃ s ∈ some (text.getD ""), Text.isBlankText s = false := by
  obtain ⟨s, rfl, hs⟩ := h
  exact ⟨s, rfl, hs⟩

theorem FitsMerge.redraft (h : d.FitsMerge) : d.plainMerge.draft.FitsMerge :=
  ⟨getD_not_blank h.sourceQuery, getD_not_blank h.condition, h.actions⟩

theorem FitsCreateView.redraft (h : d.FitsCreateView) : d.plainCreateView.draft.FitsCreateView :=
  ⟨getD_not_blank h.selectQuery, h.columns⟩

private theorem statisticsColumns_redraft (h : d.FitsCreateStatistics provider) :
    (d.plainCreateStatistics provider).draft.statisticsColumns none =
      d.statisticsColumns provider :=
  if_pos h.given

theorem FitsCreateStatistics.redraft (h : d.FitsCreateStatistics provider) :
    (d.plainCreateStatistics provider).draft.FitsCreateStatistics none := by
  have hcolumns := statisticsColumns_redraft h
  refine ⟨hcolumns ▸ h.given, hcolumns ▸ h.columns, h.range, fun hs => ?_, h.name⟩
  have hscan : d.fullScan = some false := h.sampled hs
  simp [plainCreateStatistics, CreateStatistics.draft, hscan]

private theorem plainCreateStatistics_redraft (h : d.FitsCreateStatistics provider) :
    (d.plainCreateStatistics provider).draft.plainCreateStatistics none =
      { d.plainCreateStatistics provider with target := d.plainTarget.written } := by
  have hcolumns := statisticsColumns_redraft h
  unfold plainCreateStatistics at hcolumns ⊢
  rw [hcolumns]
  rfl

theorem FitsCopy.redraft (h : d.FitsCopy) : d.plainCopy.draft.FitsCopy :=
  ⟨getD_not_blank h.sourcePath, h.options⟩

theorem FitsRawSql.redraft (h : d.FitsRawSql) : d.plainRawSql.draft.FitsRawSql := by
  refine ⟨getD_not_blank h.sql, ?_, h.limit⟩
  rintro f ⟨⟩ hf
  cases hr : d.resultFormat with
  | none => exact absurd (by simp [plainRawSql, hr]) hf
  | some format =>
    have hne : format ≠ default := by simpa [plainRawSql, hr] using hf
    have hwanted : d.returnsResults = some true := h.format format hr hne
    simp [plainRawSql, RawSql.draft, hwanted]

theorem Fits.redraft {s : Statement} (h : d.Fits provider)
    (hs : d.plainStatement? provider = some s) :
    s.draft.Fits none ∧ s.draft.plainStatement? none = some s.written := by
  unfold Fits at h
  unfold plainStatement? at hs
  cases hk : d.kind <;> rw [hk] at h hs <;> cases hs
  case createTable =>
    exact ⟨h.redraft, congrArg (some ∘ Statement.createTable) plainCreateTable_redraft⟩
  case createSchema => exact ⟨h, rfl⟩
  case dropSchema => exact ⟨h.redraft, rfl⟩
  case select => exact ⟨⟨h.columns, h.groupBy, h.having, h.limit⟩, rfl⟩
  case insert => exact ⟨h.redraft, congrArg (some ∘ Statement.insert) (plainInsert_redraft h)⟩
  case update => exact ⟨h, rfl⟩
  case merge => exact ⟨h.redraft, rfl⟩
  case createOrAlterView => exact ⟨h.redraft, rfl⟩
  case createStatistics =>
    have hplain := plainCreateStatistics_redraft h
    exact ⟨h.redraft, congrArg (some ∘ Statement.createStatistics) hplain⟩
  case copy => exact ⟨h.redraft, rfl⟩
  case executeSql => exact ⟨h.redraft, rfl⟩
  case dropTable | delete | dropView => exact ⟨trivial, rfl⟩

private theorem redraft_names {s : Statement} (hs : d.plainStatement? provider = some s) :
    s.draft.schema = d.schema ∧ s.draft.object = d.object := by
  unfold plainStatement? at hs
  cases hk : d.kind <;> rw [hk] at hs <;> cases hs <;> exact ⟨rfl, rfl⟩

theorem redraft_columnsReached {s : Statement} (hd : d.ColumnsReached)
    (h : d.buildWith provider = .ok s) : s.draft.ColumnsReached := by
  obtain ⟨-, hs⟩ := (buildWith_eq_ok_iff hd).mp h
  unfold plainStatement? at hs
  cases hk : d.kind <;> rw [hk] at hs <;> cases hs
  case createTable => exact hd
  all_goals exact fun c hc => absurd hc List.not_mem_nil

/-- A statement that was built is built again from the draft of its own fields. -/
theorem buildWith_redraft {s : Statement} (hd : d.ColumnsReached)
    (h : d.buildWith provider = .ok s) : s.draft.build = .ok s.written := by
  obtain ⟨⟨hschema, hobject, hfits⟩, hs⟩ := (buildWith_eq_ok_iff hd).mp h
  obtain ⟨hrefits, hwritten⟩ := hfits.redraft hs
  obtain ⟨hschema', hobject'⟩ := redraft_names hs
  exact (buildWith_eq_ok_iff (redraft_columnsReached hd h)).mpr
    ⟨⟨hschema' ▸ hschema, hobject' ▸ hobject, hrefits⟩, hwritten⟩

end Draft

end LakehouseSql
