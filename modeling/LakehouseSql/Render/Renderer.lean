import LakehouseSql.Context
import LakehouseSql.Event
import LakehouseSql.Render.Query
import LakehouseSql.Statement
/-! # Renderers

A renderer writes statements as the SQL text of one platform. Queries and dropped views read the
same everywhere; everything else a platform has to provide.
-/
namespace LakehouseSql

structure Renderer where
  platform : Platform
  settings : Settings
  createTable : CreateTable → Rendered
  dropTable : DropTable → Rendered
  createSchema : CreateSchema → Rendered
  dropSchema : DropSchema → Rendered
  select : Select → Rendered
  insert : Insert → Rendered
  update : Update → Rendered
  delete : Delete → Rendered
  merge : Merge → Rendered
  createView : CreateView → Rendered
  dropView : DropView → Rendered
  createStatistics : CreateStatistics → Rendered
  copy : Copy → Rendered
  rawSql : RawSql → Rendered

namespace Render

def dropView (settings : Settings) (v : DropView) : Rendered := do
  let name ← Rendered.named (targetName settings v.target)
  return (if v.ifExists then "DROP VIEW IF EXISTS " else "DROP VIEW ") ++ name

/-- Statistics are on exactly one column. -/
def checkStatisticsColumns (s : CreateStatistics) : Except RenderError Unit :=
  match s.columns with
  | [] => .error (.statistics s.target.fullName
      "No columns specified. Statistics operations require exactly one column.")
  | [_] => .ok ()
  | columns => .error (.statistics s.target.fullName
      ("Multiple columns specified (" ++ commaSeparated columns ++
        "). Both Synapse and Fabric only support single-column statistics. " ++
        "Create separate statistics for each column."))

/-- The name of statistics without one of their own. -/
def generatedStatisticsName (s : CreateStatistics) : String :=
  "stat_" ++ s.target.object ++ "_" ++ s.columns.head?.getD ""

def statisticsName (s : CreateStatistics) : Except IdentifierError String :=
  quoteName "statistics" (s.name.getD (generatedStatisticsName s))

end Render

namespace Renderer

/-- A renderer that knows only the statements which read the same on every platform. -/
def basic (platform : Platform) (settings : Settings) : Renderer :=
  let missing (kind : StatementKind) : Rendered :=
    .error (.unsupported platform kind "not implemented for this platform")
  { platform, settings
    createTable := fun _ => missing .createTable
    dropTable := fun _ => missing .dropTable
    createSchema := fun _ => missing .createSchema
    dropSchema := fun _ => missing .dropSchema
    select := Render.select settings
    insert := fun _ => missing .insert
    update := fun _ => missing .update
    delete := fun _ => missing .delete
    merge := fun _ => missing .merge
    createView := fun _ => missing .createOrAlterView
    dropView := Render.dropView settings
    createStatistics := fun _ => missing .createStatistics
    copy := fun _ => missing .copy
    rawSql := fun _ => missing .executeSql }

/-- The SQL text of a statement. -/
def render (r : Renderer) : Statement → Rendered
  | .createTable s => r.createTable s
  | .dropTable s => r.dropTable s
  | .createSchema s => r.createSchema s
  | .dropSchema s => r.dropSchema s
  | .select s => r.select s
  | .insert s => r.insert s
  | .update s => r.update s
  | .delete s => r.delete s
  | .merge s => r.merge s
  | .createView s => r.createView s
  | .dropView s => r.dropView s
  | .createStatistics s =>
    match Render.checkStatisticsColumns s with
    | .error e => .error e
    | .ok () => r.createStatistics s
  | .copy s => r.copy s
  | .rawSql s => r.rawSql s

/-- What rendering reports: its start, and either its end or that raw SQL was refused. A context
is reported with the start and does not change the text. -/
def renderTraced (r : Renderer) (s : Statement) (context : Option Context := none) :
    Traced Rendered :=
  let outcome := match r.render s with
    | .ok _ => [Event.rendered]
    | .error (.screened _) => [Event.rejectedSql]
    | .error _ => []
  ⟨.rendering s.kind r.platform s.fullName (context.map (·.suggestedEngine)) :: outcome,
    r.render s⟩

end Renderer

end LakehouseSql
