import LakehouseSql.Draft
import LakehouseSql.Proofs.Statement.Consistency
/-! # Setters of drafts

The setters of a draft as data. They never refuse; what they were given is looked at when the
draft is built. Only definitions of columns are checked values before they enter a draft.
-/
namespace LakehouseSql.Draft

inductive Setter where
  | engineHint (engine : Engine)
  | loggingContext (context : String)
  | metadata (metadata : Metadata)
  | column (column : ColumnDefinition) (reached : column.Reached)
  | columns (columns : List String)
  | selectQuery (query : String)
  | sourceTable (table : String)
  | location (location : String)
  | fileFormat (fileFormat : FileFormat)
  | partition (column : String)
  | distribution (distribution : String)
  | property (key value : String)
  | recreate (recreate : Bool)
  | ifExists (ifExists : Bool)
  | ifNotExists (ifNotExists : Bool)
  | cascade (cascade : Bool)
  | restrict (restrict : Bool)
  | authorization (owner : String)
  | distinct (distinct : Bool)
  | joinClause (join : String)
  | whereClause (condition : String)
  | groupBy (column : String)
  | having (condition : String)
  | orderBy (expression : String)
  | limit (limit : UInt64)
  | offset (offset : UInt64)
  | assign (column : String) (value : SqlValue)
  | fromClause (source : String)
  | row (row : List (String × SqlValue))
  | insertMode (mode : InsertMode)
  | mergeCondition (condition : String)
  | mergeActions (actions : MergeActions)
  | orReplace (orReplace : Bool)
  | schemaBinding (schemaBinding : Bool)
  | materialized (materialized : Bool)
  | sql (sql : String)
  | returnsResults (returnsResults : Bool)
  | resultFormat (resultFormat : ResultFormat)
  | sourcePath (path : String)
  | option (key : String) (value : SqlValue)
  | credential (credential : String)
  | samplePercent (percent : Binary64)
  | fullScan (fullScan : Bool)
  | statsName (name : String)
  | autoDiscover (autoDiscover : Bool)

def apply (d : Draft) : Setter → Draft
  | .engineHint engine => { d with engineHint := some engine }
  | .loggingContext context => { d with loggingContext := some context }
  | .metadata metadata => { d with metadata := some metadata }
  | .column column _ => d.addColumnDefinition column
  | .columns columns => d.addColumns columns
  | .selectQuery query => { d with selectQuery := some query }
  | .sourceTable table => { d with sourceTable := some table }
  | .location location => { d with location := some location }
  | .fileFormat fileFormat => { d with fileFormat := some fileFormat }
  | .partition column => d.addPartition column
  | .distribution distribution => { d with distribution := some distribution }
  | .property key value => d.addProperty key value
  | .recreate recreate => { d with recreate := some recreate }
  | .ifExists ifExists => { d with ifExists := some ifExists }
  | .ifNotExists ifNotExists => { d with ifNotExists := some ifNotExists }
  | .cascade cascade => { d with cascade := some cascade }
  | .restrict restrict => { d with restrict := some restrict }
  | .authorization owner => { d with authorization := some owner }
  | .distinct distinct => { d with distinct }
  | .joinClause join => { d with joinClause := some join }
  | .whereClause condition => { d with whereClause := some condition }
  | .groupBy column => d.addGroup column
  | .having condition => { d with having := some condition }
  | .orderBy expression => d.addOrder expression
  | .limit limit => { d with limit := some limit }
  | .offset offset => { d with offset := some offset }
  | .assign column value => d.assign column value
  | .fromClause source => { d with fromClause := some source }
  | .row row => d.addRow row
  | .insertMode mode => { d with insertMode := some mode }
  | .mergeCondition condition => { d with mergeCondition := some condition }
  | .mergeActions actions => { d with mergeActions := actions }
  | .orReplace orReplace => { d with orReplace := some orReplace }
  | .schemaBinding schemaBinding => { d with schemaBinding := some schemaBinding }
  | .materialized materialized => { d with materialized := some materialized }
  | .sql sql => { d with sql := some sql }
  | .returnsResults returnsResults => { d with returnsResults := some returnsResults }
  | .resultFormat resultFormat => { d with resultFormat := some resultFormat }
  | .sourcePath path => { d with sourcePath := some path }
  | .option key value => d.addOption key value
  | .credential credential => { d with credential := some credential }
  | .samplePercent percent => { d with samplePercent := some percent }
  | .fullScan fullScan => { d with fullScan := some fullScan }
  | .statsName name => { d with statsName := some name }
  | .autoDiscover autoDiscover => { d with autoDiscover := some autoDiscover }

/-- A draft starts with a kind, a schema and an object. -/
def lifecycle : Lifecycle Draft where
  Made d := ∃ kind schema object, ({ kind, schema, object } : Draft) = d
  Setter := Setter
  set d setter := .ok (d.apply setter)

abbrev Reached : Draft → Prop := lifecycle.Reached

/-- The definitions of columns are values that constructors and setters lead to. -/
def ColumnsReached (d : Draft) : Prop :=
  ∀ c ∈ d.columnDefinitions, c.Reached

theorem apply_columnsReached (d : Draft) (setter : Setter) (h : d.ColumnsReached) :
    (d.apply setter).ColumnsReached := by
  cases setter with
  | column column reached =>
    intro c hc
    rcases List.mem_append.mp hc with hc | hc
    · exact h c hc
    · exact (List.mem_singleton.mp hc) ▸ reached
  | _ => exact h

theorem Reached.columnsReached {d : Draft} (h : d.Reached) : d.ColumnsReached := by
  refine Lifecycle.Reached.keeps ?_ ?_ h
  · rintro a ⟨kind, schema, object, rfl⟩ c hc
    cases hc
  · intro a setter b ha hb
    cases hb
    exact apply_columnsReached a setter ha

end LakehouseSql.Draft
