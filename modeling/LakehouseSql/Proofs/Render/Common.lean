import LakehouseSql.Proofs.Render.Naming
import LakehouseSql.Proofs.Statement.Consistency
import LakehouseSql.Render.Query
/-! # Rendering that platforms share

When queries, dropped views, statistics and raw SQL can be rendered. Names of columns were checked
when the statement was made, and what names a column can always be written.
-/
namespace LakehouseSql.Render
open Identifier (Conforms)

/-- No screened pattern occurs in the text that is run. -/
def Unscreened (patterns : List ScreenedPattern) (r : RawSql) : Prop :=
  ∀ p ∈ patterns, p.pattern.occursIn (Text.trim r.sql) = false

/-- One column, and a name for the statistics that can be written. -/
def SingleStatistics (s : CreateStatistics) : Prop :=
  ∃ column, s.columns = [column] ∧
    Conforms .sql (s.name.getD ("stat_" ++ s.target.object ++ "_" ++ column))

variable {settings : Settings}

theorem columns_sql {names : List String} (h : ∀ c ∈ names, Conforms .column c) :
    ∀ c ∈ names, Conforms .sql c :=
  fun c hc => (h c hc).sql_of_column

theorem select_succeeds_iff {s : Select} (hs : s.Consistent) :
    Succeeds (select settings s) ↔ WritableTarget settings s.target := by
  have hcolumns := columns_sql hs.columns
  have hgroups := columns_sql hs.groupBy
  have hsteps : Succeeds (select settings s) ↔ (∀ c ∈ s.columns, Conforms .sql c) ∧
      WritableTarget settings s.target ∧ ∀ c ∈ s.groupBy, Conforms .sql c := by
    simp [select]
  rw [hsteps]
  exact ⟨fun h => h.2.1, fun h => ⟨hcolumns, h, hgroups⟩⟩

theorem dropView_succeeds_iff {v : DropView} :
    Succeeds (dropView settings v) ↔ WritableTarget settings v.target := by
  simp [dropView]

private theorem screen_succeeds_iff {patterns : List ScreenedPattern} {sql : String} :
    Succeeds (screen patterns sql) ↔ ∀ p ∈ patterns, p.pattern.occursIn sql = false := by
  have hnone : (patterns.find? fun p => p.pattern.occursIn sql) = none ↔
      ∀ p ∈ patterns, p.pattern.occursIn sql = false := by
    simp
  rw [← hnone]
  unfold screen
  cases patterns.find? fun p => p.pattern.occursIn sql with
  | none => simp
  | some p => simp

theorem rawSql_succeeds_iff {patterns : List ScreenedPattern} {r : RawSql} :
    Succeeds (rawSql patterns r) ↔ Unscreened patterns r := by
  rw [Unscreened, ← screen_succeeds_iff]
  cases hw : wrapLimit? r (Text.trim r.sql) with
  | none => simp [rawSql, hw]
  | some limit => simp [rawSql, hw]

theorem statistics_succeeds_iff {s : CreateStatistics} (hs : s.Consistent) :
    Succeeds (checkStatisticsColumns s) ∧ Succeeds (statisticsName s) ∧
      Succeeds (columnList s.columns) ↔ SingleStatistics s := by
  have hcolumns : ∀ c ∈ s.columns, Conforms .sql c := columns_sql hs.request.columns
  unfold SingleStatistics checkStatisticsColumns
  simp only [succeeds_statisticsName, succeeds_columnList, generatedStatisticsName]
  cases hc : s.columns with
  | nil => simp
  | cons c cs =>
    rw [hc] at hcolumns
    cases cs with
    | nil => simpa using fun _ => hcolumns c (by simp)
    | cons c' cs => simp

end LakehouseSql.Render
