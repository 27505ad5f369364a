import LakehouseSql.Proofs.Render.Common
import LakehouseSql.Render.Fabric
import LakehouseSql.Render.Synapse
/-! # What can be rendered

Which of the statements that can be constructed the platforms have SQL text for, whatever the
settings and whether there is a context. A Fabric warehouse renders every kind of statement. What is
left to go wrong there are names that cannot be written, files that it does not load and views that
it does not have. A Synapse serverless pool renders nothing that changes rows. Its external tables
need a configured file format and data source, and something that says what they hold.
-/
namespace LakehouseSql.Fabric
open Identifier (Conforms)
open Render

/-- The statements that a Fabric warehouse can render. -/
def Renderable (settings : Settings) : Statement → Prop
  | .createTable t => WritableTarget settings t.target ∧
      (t.selectQuery = none → ∀ source ∈ t.sourceTable, WritableDotted settings source)
  | .createSchema s =>
    Conforms .sql s.target.schema ∧ ∀ owner ∈ s.authorization, Conforms .sql owner
  | .dropSchema s => Conforms .sql s.target.schema
  | .createView v => WritableTarget settings v.target ∧ v.materialized = false
  | .createStatistics s => WritableTarget settings s.target ∧ SingleStatistics s
  | .copy c => WritableTarget settings c.target ∧ (c.fileFormat = .parquet ∨ c.fileFormat = .csv)
  | .rawSql r => Unscreened screened r
  | .dropTable t => WritableTarget settings t.target
  | .select s => WritableTarget settings s.target
  | .insert i => WritableTarget settings i.target
  | .update u => WritableTarget settings u.target
  | .delete d => WritableTarget settings d.target
  | .merge m => WritableTarget settings m.target
  | .dropView v => WritableTarget settings v.target

variable {settings : Settings}

private theorem columnsText_succeeds {columns : List ColumnDefinition}
    (h : ∀ c ∈ columns, c.Consistent) : Succeeds (columnsText columns) := by
  have hnames : ∀ c ∈ columns, Conforms .sql c.name := fun c hc => (h c hc).name.sql_of_column
  unfold columnsText
  split
  · simp
  · simpa [columnDefinitions, columnDefinition, Succeeds.mapM_iff] using hnames

private theorem partitionsText_succeeds {partitions : List String}
    (h : ∀ c ∈ partitions, Conforms .column c) : Succeeds (partitionsText partitions) := by
  unfold partitionsText
  split
  · simp
  · simpa using columns_sql h

private theorem contentText_succeeds_iff {t : CreateTable} :
    Succeeds (contentText settings t) ↔
      (t.selectQuery = none → ∀ source ∈ t.sourceTable, WritableDotted settings source) := by
  unfold contentText
  cases t.selectQuery with
  | some query => simp
  | none =>
    cases t.sourceTable with
    | none => simp
    | some source => simp

theorem createTable_succeeds_iff {t : CreateTable} (ht : t.Consistent) :
    Succeeds (createTable settings t) ↔ WritableTarget settings t.target ∧
      (t.selectQuery = none → ∀ source ∈ t.sourceTable, WritableDotted settings source) := by
  have hcolumns := columnsText_succeeds ht.columns
  have hpartitions := partitionsText_succeeds ht.partitions
  simp [createTable, hcolumns, hpartitions, contentText_succeeds_iff]

theorem createSchema_succeeds_iff {s : CreateSchema} :
    Succeeds (createSchema s) ↔
      Conforms .sql s.target.schema ∧ ∀ owner ∈ s.authorization, Conforms .sql owner := by
  cases ha : s.authorization with
  | none => simp [createSchema, ha]
  | some owner => simp [createSchema, ha]

theorem insert_succeeds_iff {i : Insert} (hi : i.Consistent) :
    Succeeds (insert settings i) ↔ WritableTarget settings i.target := by
  have hcolumns : ∀ c ∈ i.effectiveColumns, Conforms .sql c :=
    columns_sql hi.effectiveColumns
  have hsteps : Succeeds (insert settings i) ↔ WritableTarget settings i.target ∧
      ∀ c ∈ i.effectiveColumns, Conforms .sql c := by
    simp [insert]
  rw [hsteps]
  exact and_iff_left hcolumns

theorem update_succeeds_iff {u : Update} (hu : u.Consistent) :
    Succeeds (update settings u) ↔ WritableTarget settings u.target := by
  have hsteps : Succeeds (update settings u) ↔ WritableTarget settings u.target ∧
      ∀ key ∈ u.assignments.keys, Conforms .sql key := by
    simp [update]
  rw [hsteps]
  exact and_iff_left (columns_sql hu.assignments.2)

private theorem updateText_succeeds (head : String) {assigned : Option (Dictionary SqlValue)}
    (h : ∀ d ∈ assigned, d.Assigns) : Succeeds (updateText head assigned) := by
  cases assigned with
  | none => simp [updateText]
  | some d => simpa [updateText] using columns_sql (h d rfl).2

private theorem insertText_succeeds {assigned : Option (Dictionary SqlValue)}
    (h : ∀ d ∈ assigned, d.Assigns) : Succeeds (insertText assigned) := by
  cases assigned with
  | none => simp [insertText]
  | some d => simpa [insertText] using columns_sql (h d rfl).2

theorem merge_succeeds_iff {m : Merge} (hm : m.Consistent) :
    Succeeds (merge settings m) ↔ WritableTarget settings m.target := by
  have hmatched := updateText_succeeds "\nWHEN MATCHED" hm.actions.matchedUpdate
  have hinserted := insertText_succeeds hm.actions.notMatchedInsert
  have hbySource : Succeeds (bySourceText m.actions) := by
    unfold bySourceText
    split
    · simp
    · exact updateText_succeeds _ hm.actions.bySourceUpdate
  simp [merge, hmatched, hinserted, hbySource]

theorem copy_succeeds_iff {c : Copy} :
    Succeeds (copy settings c) ↔
      WritableTarget settings c.target ∧ (c.fileFormat = .parquet ∨ c.fileFormat = .csv) := by
  cases hf : c.fileFormat <;> simp [copy, loadFormat?, hf]

theorem createView_succeeds_iff {v : CreateView} (hv : v.Consistent) :
    Succeeds (createView settings v) ↔
      WritableTarget settings v.target ∧ v.materialized = false := by
  have hcolumns : Succeeds (parenthesizedColumns v.columns) := by
    simpa using columns_sql hv.columns
  cases hm : v.materialized <;> simp [createView, hm, hcolumns]

theorem createStatistics_succeeds_iff {s : CreateStatistics} :
    Succeeds (createStatistics settings s) ↔ Succeeds (statisticsName s) ∧
      WritableTarget settings s.target ∧ Succeeds (columnList s.columns) := by
  simp [createStatistics]

/-- A Fabric warehouse renders a consistent statement exactly if its rule is met. -/
theorem render_succeeds_iff {s : Statement} (hs : s.Consistent) :
    Succeeds ((renderer settings).render s) ↔ Renderable settings s := by
  cases s with
  | createTable t => exact createTable_succeeds_iff hs
  | dropTable t => simp [Renderer.render, renderer, dropTable, Renderable]
  | createSchema s => exact createSchema_succeeds_iff
  | dropSchema s => simp [Renderer.render, renderer, dropSchema, Renderable]
  | select s => exact select_succeeds_iff hs
  | insert i => exact insert_succeeds_iff hs
  | update u => exact update_succeeds_iff hs
  | delete d => simp [Renderer.render, renderer, delete, Renderable]
  | merge m => exact merge_succeeds_iff hs
  | createView v => exact createView_succeeds_iff hs
  | dropView v => exact dropView_succeeds_iff
  | createStatistics s =>
    simp only [Renderer.render, renderer, Renderable, ← statistics_succeeds_iff hs]
    cases checkStatisticsColumns s with
    | error e => simp
    | ok u => simp [createStatistics_succeeds_iff, and_left_comm]
  | copy c => exact copy_succeeds_iff
  | rawSql r => exact rawSql_succeeds_iff

end LakehouseSql.Fabric

namespace LakehouseSql.Synapse
open Identifier (Conforms)
open Render

/-- The configured name of an external file format. -/
def WritableFormat (settings : Settings) (fileFormat : FileFormat) : Prop :=
  (fileFormat = .parquet ∧ Conforms .sql settings.synapse.parquetFileFormat) ∨
    (fileFormat = .csv ∧ Conforms .sql settings.synapse.csvFileFormat)

/-- A query decides alone what an external table holds, then its source, then its columns. -/
def Filled (settings : Settings) (t : CreateTable) : Prop :=
  t.selectQuery.isSome ∨
    (t.selectQuery = none ∧ ∃ source ∈ t.sourceTable, WritableDotted settings source) ∨
    (t.selectQuery = none ∧ t.sourceTable = none ∧ t.columns ≠ [])

/-- The statements that a Synapse serverless pool can render. -/
def Renderable (settings : Settings) : Statement → Prop
  | .createTable t => WritableTarget settings t.target ∧
      WritableFormat settings t.fileFormat ∧
      Conforms .sql settings.synapse.processedExternalDataSource ∧ Filled settings t
  | .createSchema s =>
    Conforms .sql s.target.schema ∧ ∀ owner ∈ s.authorization, Conforms .sql owner
  | .dropSchema s => Conforms .sql s.target.schema
  | .createView v => WritableTarget settings v.target ∧ v.materialized = false
  | .createStatistics s => WritableTarget settings s.target ∧ SingleStatistics s
  | .rawSql r => Unscreened screened r
  | .dropTable t => WritableTarget settings t.target
  | .select s => WritableTarget settings s.target
  | .dropView v => WritableTarget settings v.target
  | .insert _ | .update _ | .delete _ | .merge _ | .copy _ => False

variable {settings : Settings}

private theorem fileFormatName_succeeds_iff {t : CreateTable} :
    Succeeds (fileFormatName settings t) ↔ WritableFormat settings t.fileFormat := by
  unfold fileFormatName WritableFormat
  cases t.fileFormat <;> simp

private theorem externalOptions_succeeds_iff {location fileFormat : String} :
    Succeeds (externalOptions settings location fileFormat) ↔
      Conforms .sql settings.synapse.processedExternalDataSource := by
  simp [externalOptions]

private theorem columnDefinitions_succeeds {columns : List ColumnDefinition}
    (h : ∀ c ∈ columns, c.Consistent) : Succeeds (columnDefinitions columns) := by
  have hnames : ∀ c ∈ columns, Conforms .sql c.name := fun c hc => (h c hc).name.sql_of_column
  simpa [columnDefinitions, columnDefinition, Succeeds.mapM_iff] using hnames

private theorem createBody_succeeds_iff {t : CreateTable} {name fileFormat : String}
    (ht : t.Consistent) :
    Succeeds (createBody settings t name fileFormat) ↔
      Conforms .sql settings.synapse.processedExternalDataSource ∧ Filled settings t := by
  have hcolumns := columnDefinitions_succeeds ht.columns
  unfold createBody Filled
  cases hq : t.selectQuery with
  | some query => simp [externalOptions_succeeds_iff]
  | none =>
    cases hs : t.sourceTable with
    | some source => simp [externalOptions_succeeds_iff]
    | none =>
      by_cases hc : t.columns = []
      · simp [hc]
      · simp [hc, hcolumns, externalOptions_succeeds_iff]

theorem createTable_succeeds_iff {t : CreateTable} (ht : t.Consistent) :
    Succeeds (createTable settings t) ↔ WritableTarget settings t.target ∧
      WritableFormat settings t.fileFormat ∧
      Conforms .sql settings.synapse.processedExternalDataSource ∧ Filled settings t := by
  simp [createTable, fileFormatName_succeeds_iff, createBody_succeeds_iff ht]

theorem createSchema_succeeds_iff {s : CreateSchema} :
    Succeeds (createSchema s) ↔
      Conforms .sql s.target.schema ∧ ∀ owner ∈ s.authorization, Conforms .sql owner := by
  cases ha : s.authorization with
  | none => simp [createSchema, authorizationText, ha]
  | some owner => simp [createSchema, authorizationText, ha]

theorem createView_succeeds_iff {v : CreateView} (hv : v.Consistent) :
    Succeeds (createView settings v) ↔
      WritableTarget settings v.target ∧ v.materialized = false := by
  have hcolumns : Succeeds (parenthesizedColumns v.columns) := by
    simpa using columns_sql hv.columns
  cases hm : v.materialized <;> simp [createView, hm, hcolumns]

theorem createStatistics_succeeds_iff {s : CreateStatistics} :
    Succeeds (createStatistics settings s) ↔ WritableTarget settings s.target ∧
      Succeeds (statisticsName s) ∧ Succeeds (columnList s.columns) := by
  simp [createStatistics]

/-- A Synapse serverless pool renders a consistent statement exactly if its rule is met. -/
theorem render_succeeds_iff {s : Statement} (hs : s.Consistent) :
    Succeeds ((renderer settings).render s) ↔ Renderable settings s := by
  cases s with
  | createTable t => exact createTable_succeeds_iff hs
  | dropTable t => simp [Renderer.render, renderer, dropTable, Renderable]
  | createSchema s => exact createSchema_succeeds_iff
  | dropSchema s => simp [Renderer.render, renderer, dropSchema, Renderable]
  | select s => exact select_succeeds_iff hs
  | insert | update | delete | merge | copy =>
    simp [Renderer.render, renderer, readOnly, Renderable]
  | createView v => exact createView_succeeds_iff hs
  | dropView v => exact dropView_succeeds_iff
  | createStatistics s =>
    simp only [Renderer.render, renderer, Renderable, ← statistics_succeeds_iff hs]
    cases checkStatisticsColumns s with
    | error e => simp
    | ok u => simp [createStatistics_succeeds_iff]
  | rawSql r => exact rawSql_succeeds_iff

end LakehouseSql.Synapse

namespace LakehouseSql

theorem Renderer.renderTraced_result (r : Renderer) (s : Statement) (context : Option Context) :
    (r.renderTraced s context).result = r.render s :=
  rfl

/-- Each platform renders exactly the statements that its rule names. -/
theorem rendered_iff_renderable {s : Statement} (h : s.Constructible) (settings : Settings)
    (context : Option Context) :
    ((∃ sql, ((Fabric.renderer settings).renderTraced s context).result = .ok sql) ↔
      Fabric.Renderable settings s) ∧
    ((∃ sql, ((Synapse.renderer settings).renderTraced s context).result = .ok sql) ↔
      Synapse.Renderable settings s) := by
  simp only [Renderer.renderTraced_result]
  exact ⟨Fabric.render_succeeds_iff h.consistent, Synapse.render_succeeds_iff h.consistent⟩

/-- A dollar sign is admitted when a target is made and refused by both platforms. -/
theorem dollar_sign_not_rendered :
    let s : Statement := .dropTable (.create ⟨"sales", "orders$old", none, none, none⟩)
    s.Constructible ∧
    (¬∃ sql, ((Fabric.renderer .standard).renderTraced s none).result = .ok sql) ∧
    ¬∃ sql, ((Synapse.renderer .standard).renderTraced s none).result = .ok sql := by
  intro s
  have htarget : Target.Reached ⟨"sales", "orders$old", none, none, none⟩ :=
    Lifecycle.reached_of_made ⟨"sales", "orders$old", rfl⟩
  have hs : s.Constructible := Lifecycle.reached_of_made ⟨_, htarget, rfl⟩
  have hname : ¬Identifier.Conforms .sql "orders$old" := by
    rw [← Identifier.validate_eq_ok_iff .sql "object"]
    exact nofun
  obtain ⟨hfabric, hsynapse⟩ := rendered_iff_renderable hs .standard none
  exact ⟨hs, fun h => hname (hfabric.mp h).2, fun h => hname (hsynapse.mp h).2⟩

end LakehouseSql
