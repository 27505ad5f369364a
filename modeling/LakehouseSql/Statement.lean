import LakehouseSql.Statement.Change
import LakehouseSql.Statement.Query
import LakehouseSql.Statement.Statistics
import LakehouseSql.Statement.Table
/-! # Statements

One statement on a warehouse, whatever the platform that will run it.
-/
namespace LakehouseSql

inductive Statement where
  | createTable (s : CreateTable)
  | dropTable (s : DropTable)
  | createSchema (s : CreateSchema)
  | dropSchema (s : DropSchema)
  | select (s : Select)
  | insert (s : Insert)
  | update (s : Update)
  | delete (s : Delete)
  | merge (s : Merge)
  | createView (s : CreateView)
  | dropView (s : DropView)
  | createStatistics (s : CreateStatistics)
  | copy (s : Copy)
  | rawSql (s : RawSql)
  deriving DecidableEq

namespace Statement

def kind : Statement → StatementKind
  | createTable _ => .createTable
  | dropTable _ => .dropTable
  | createSchema _ => .createSchema
  | dropSchema _ => .dropSchema
  | select _ => .select
  | insert _ => .insert
  | update _ => .update
  | delete _ => .delete
  | merge _ => .merge
  | createView _ => .createOrAlterView
  | dropView _ => .dropView
  | createStatistics _ => .createStatistics
  | copy _ => .copy
  | rawSql _ => .executeSql

def target : Statement → Target
  | createTable s => s.target
  | dropTable s => s.target
  | createSchema s => s.target
  | dropSchema s => s.target
  | select s => s.target
  | insert s => s.target
  | update s => s.target
  | delete s => s.target
  | merge s => s.target
  | createView s => s.target
  | dropView s => s.target
  | createStatistics s => s.target
  | copy s => s.target
  | rawSql s => s.target

/-- Schema and object of the target, without any table prefix. -/
def fullName (s : Statement) : String :=
  s.target.fullName

end Statement

end LakehouseSql
