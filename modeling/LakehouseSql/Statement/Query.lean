import LakehouseSql.Statement.Basic
/-! # Queries, views and raw SQL

A query on one table, which selects all columns if none are given; views; and SQL text that is run
as it stands, where a result format other than the default makes sense only if results are asked
for.
-/
namespace LakehouseSql

structure Select where
  target : Target
  columns : List String
  distinct : Bool
  whereClause : Option String
  joinClause : Option String
  groupBy : List String
  having : Option String
  orderBy : List String
  limit : Option UInt64
  offset : Option UInt64
  deriving DecidableEq

namespace Select

def create (target : Target) : Select :=
  ⟨target, [], false, none, none, [], none, [], none, none⟩

def withColumns (s : Select) (columns : List String) : Checked Select := do
  Checked.columns "columns" columns
  return { s with columns }

def withDistinct (s : Select) : Select :=
  { s with distinct := true }

def withWhere (s : Select) (condition : String) : Select :=
  { s with whereClause := some condition }

def withJoin (s : Select) (join : String) : Select :=
  { s with joinClause := some join }

def withGroupBy (s : Select) (columns : List String) : Checked Select := do
  Checked.columns "group_by" columns
  return { s with groupBy := columns }

/-- A condition on groups needs columns to group by. -/
def withHaving (s : Select) (condition : String) : Checked Select :=
  if s.groupBy.isEmpty then .error (.conflict .havingWithoutGroups)
  else .ok { s with having := some condition }

def withOrderBy (s : Select) (expressions : List String) : Select :=
  { s with orderBy := expressions }

def withLimit (s : Select) (limit : UInt64) : Checked Select := do
  Checked.positiveLimit limit
  return { s with limit := some limit }

def withOffset (s : Select) (offset : UInt64) : Select :=
  { s with offset := some offset }

end Select

structure CreateView where
  target : Target
  selectQuery : String
  columns : List String
  schemaBinding : Bool
  materialized : Bool
  orReplace : Bool
  deriving DecidableEq

namespace CreateView

/-- A plain view that replaces one of the same name. -/
def create (target : Target) (selectQuery : String) : Checked CreateView := do
  Checked.notBlank "select_query" selectQuery
  return ⟨target, selectQuery, [], false, false, true⟩

def withColumns (v : CreateView) (columns : List String) : Checked CreateView := do
  Checked.columns "columns" columns
  return { v with columns }

def withSchemaBinding (v : CreateView) (schemaBinding : Bool) : CreateView :=
  { v with schemaBinding }

def withMaterialized (v : CreateView) (materialized : Bool) : CreateView :=
  { v with materialized }

def withOrReplace (v : CreateView) (orReplace : Bool) : CreateView :=
  { v with orReplace }

end CreateView

structure DropView where
  target : Target
  ifExists : Bool
  deriving DecidableEq

namespace DropView

def create (target : Target) : DropView :=
  ⟨target, true⟩

def withIfExists (v : DropView) (ifExists : Bool) : DropView :=
  { v with ifExists }

end DropView

structure RawSql where
  target : Target
  sql : String
  returnsResults : Bool
  resultFormat : ResultFormat
  limit : Option UInt64
  deriving DecidableEq

namespace RawSql

def create (target : Target) (sql : String) : Checked RawSql := do
  Checked.notBlank "sql" sql
  return ⟨target, sql, false, default, none⟩

def validate (r : RawSql) : Checked Unit :=
  if !r.returnsResults && r.resultFormat != default then
    .error (.conflict .formatWithoutResults)
  else .ok ()

/-- Ask for the results in a format. -/
def returning (r : RawSql) (resultFormat : ResultFormat) : RawSql :=
  { r with returnsResults := true, resultFormat }

def withReturnsResults (r : RawSql) (returnsResults : Bool) : Checked RawSql := do
  let r := { r with returnsResults }
  r.validate
  return r

def withResultFormat (r : RawSql) (resultFormat : ResultFormat) : Checked RawSql := do
  let r := { r with resultFormat }
  r.validate
  return r

def withLimit (r : RawSql) (limit : UInt64) : Checked RawSql := do
  Checked.positiveLimit limit
  return { r with limit := some limit }

end RawSql

end LakehouseSql
