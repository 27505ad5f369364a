import LakehouseSql.Render.Naming
import LakehouseSql.Statement.Query
/-! # Queries and raw SQL as text

In a query a limit without an offset is written as `TOP`; an offset needs an order, and the limit
follows it as `FETCH NEXT`. Raw SQL is refused if one of the platform's patterns occurs in it. What
passes is written without the blanks at its ends; a query whose results are limited is wrapped into
one that takes the first rows.
-/
namespace LakehouseSql.Render

/-- The limit in front of the columns, which is used only without an offset. -/
def topText (s : Select) : String :=
  match s.limit, s.offset with
  | some limit, none => " TOP " ++ toString limit.toNat
  | _, _ => ""

def selectedColumns (columns : List String) : Except IdentifierError String :=
  if columns.isEmpty then .ok "*" else columnList columns

/-- The groups and the condition on them. -/
def groupText (s : Select) : Except IdentifierError String :=
  if s.groupBy.isEmpty then .ok ""
  else
    return " GROUP BY " ++ (← columnList s.groupBy) ++ whenGiven (" HAVING " ++ ·) s.having

/-- The order; an offset without one gets an order that means nothing. -/
def orderText (s : Select) : String :=
  if !s.orderBy.isEmpty then " ORDER BY " ++ commaSeparated s.orderBy
  else if s.offset.isSome then " ORDER BY (SELECT NULL)"
  else ""

def offsetText (s : Select) : String :=
  match s.offset with
  | none => ""
  | some offset =>
    " OFFSET " ++ toString offset.toNat ++ " ROWS" ++
      whenGiven (fun limit => " FETCH NEXT " ++ toString limit.toNat ++ " ROWS ONLY") s.limit

def select (settings : Settings) (s : Select) : Rendered := do
  let columns ← Rendered.named (selectedColumns s.columns)
  let name ← Rendered.named (targetName settings s.target)
  let groups ← Rendered.named (groupText s)
  return "SELECT" ++ (if s.distinct then " DISTINCT" else "") ++ topText s ++ " " ++ columns ++
    " FROM " ++ name ++ whenGiven (" " ++ ·) s.joinClause ++
    whenGiven (" WHERE " ++ ·) s.whereClause ++ groups ++ orderText s ++ offsetText s

/-- A pattern that raw SQL may not contain, and the name it goes by. -/
structure ScreenedPattern where
  name : String
  pattern : Text.Pattern

/-- A word that is its own name. -/
def ScreenedPattern.ofWord (word : String) : ScreenedPattern :=
  ⟨word, .word word⟩

/-- Procedures that reach beyond the database. -/
def screenedProcedures : List ScreenedPattern :=
  [.ofWord "xp_cmdshell", .ofWord "sp_configure", .ofWord "sp_addextendedproc",
    .ofWord "sp_execute_external_script"]

/-- Ways of reading files and other servers. -/
def screenedSources : List ScreenedPattern :=
  [⟨"OPENROWSET BULK", Text.Pattern.word "OPENROWSET" ++
      .blanks :: .char '(' :: .gap :: Text.Pattern.word "BULK"⟩,
    .ofWord "OPENDATASOURCE"]

/-- Refuse a text in which a pattern occurs; the first such pattern is named. -/
def screen (patterns : List ScreenedPattern) (sql : String) : Except RenderError Unit :=
  match patterns.find? fun p => p.pattern.occursIn sql with
  | some p => .error (.screened p.name)
  | none => .ok ()

/-- The limit that a text is wrapped for: one is set, results are wanted and it is a query. -/
def wrapLimit? (r : RawSql) (sql : String) : Option UInt64 :=
  if r.returnsResults && Text.startsWithWord "SELECT" sql then r.limit else none

/-- The screened text, wrapped if its rows are limited. -/
def rawSql (patterns : List ScreenedPattern) (r : RawSql) : Rendered := do
  let sql := Text.trim r.sql
  screen patterns sql
  match wrapLimit? r sql with
  | some limit =>
    return "SELECT TOP " ++ toString limit.toNat ++ " * FROM (" ++ sql ++ ") AS limited_results"
  | none => return sql

end LakehouseSql.Render
