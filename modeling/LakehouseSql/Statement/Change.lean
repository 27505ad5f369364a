import LakehouseSql.Dictionary
import LakehouseSql.Statement.Basic
/-! # Changes of rows

Rows inserted, updated and deleted, a target brought into line with a source, and files of the lake
loaded into a table. Rows that are written out all have the columns of the first row, in any order.
-/
namespace LakehouseSql

inductive InsertSource where
  | query (sql : String)
  | rows (rows : List (Dictionary SqlValue))
  deriving DecidableEq

structure Insert where
  target : Target
  source : InsertSource
  columns : List String
  mode : InsertMode
  deriving DecidableEq

namespace Insert

/-- The row has exactly the columns of the first row. -/
def sameColumns (first row : Dictionary SqlValue) : Bool :=
  row.size == first.size && first.keys.all row.contains

/-- Refuse a source without rows, or with rows that do not belong together. -/
def checkSource : InsertSource → Checked Unit
  | .query sql => if Text.isBlankText sql then .error (.incomplete .insertSource) else .ok ()
  | .rows [] => .error (.incomplete .insertSource)
  | .rows (first :: rows) => do
    Checked.columns "values" first.keys
    if !(first :: rows).all (sameColumns first) then throw (.conflict .unevenRows)

def create (target : Target) (source : InsertSource) : Checked Insert := do
  checkSource source
  return ⟨target, source, [], default⟩

/-- The first of the columns that the rows do not have. -/
def absentColumn? (columns : List String) : InsertSource → Option String
  | .rows (first :: _) => columns.find? fun column => !first.contains column
  | _ => none

def withColumns (i : Insert) (columns : List String) : Checked Insert := do
  Checked.columns "columns" columns
  match absentColumn? columns i.source with
  | some column => throw (.conflict (.absentColumn column))
  | none => return { i with columns }

def withMode (i : Insert) (mode : InsertMode) : Insert :=
  { i with mode }

/-- The columns that the statement lists: those given, else those of the first row. -/
def effectiveColumns (i : Insert) : List String :=
  if !i.columns.isEmpty then i.columns
  else
    match i.source with
    | .rows (first :: _) => first.keys
    | _ => []

end Insert

structure Update where
  target : Target
  assignments : Dictionary SqlValue
  whereClause : Option String
  fromClause : Option String
  deriving DecidableEq

namespace Update

def create (target : Target) (assignments : Dictionary SqlValue) : Checked Update := do
  if assignments.isEmpty then throw (.emptyField "set_columns")
  Checked.columns "set_columns" assignments.keys
  return ⟨target, assignments, none, none⟩

def withWhere (u : Update) (condition : String) : Update :=
  { u with whereClause := some condition }

def withFrom (u : Update) (source : String) : Update :=
  { u with fromClause := some source }

end Update

structure Delete where
  target : Target
  whereClause : Option String
  deriving DecidableEq

namespace Delete

def create (target : Target) : Delete :=
  ⟨target, none⟩

def withWhere (d : Delete) (condition : String) : Delete :=
  { d with whereClause := some condition }

end Delete

structure MergeActions where
  matchedUpdate : Option (Dictionary SqlValue)
  matchedDelete : Option String
  notMatchedInsert : Option (Dictionary SqlValue)
  bySourceUpdate : Option (Dictionary SqlValue)
  bySourceDelete : Bool
  deriving DecidableEq

namespace MergeActions

def none : MergeActions :=
  ⟨.none, .none, .none, .none, false⟩

def isEmpty (a : MergeActions) : Bool :=
  a.matchedUpdate.isNone && a.matchedDelete.isNone && a.notMatchedInsert.isNone &&
    a.bySourceUpdate.isNone && !a.bySourceDelete

end MergeActions

structure Merge where
  target : Target
  sourceQuery : String
  condition : String
  actions : MergeActions
  deriving DecidableEq

namespace Merge

/-- Assignments that are asked for are not empty and name columns. -/
def checkAssignments (field : String) : Option (Dictionary SqlValue) → Checked Unit
  | none => .ok ()
  | some assignments => do
    if assignments.isEmpty then throw (.emptyField field)
    Checked.columns field assignments.keys

/-- Check the actions: at least one, at most one on rows without source, none of them empty. -/
def checkActions (a : MergeActions) : Checked Unit := do
  if a.isEmpty then throw (.incomplete .mergeAction)
  if a.bySourceUpdate.isSome && a.bySourceDelete then throw (.conflict .sourceUpdateDelete)
  Checked.notBlankIfGiven "when_matched_delete" a.matchedDelete
  checkAssignments "when_matched_update" a.matchedUpdate
  checkAssignments "when_not_matched_insert" a.notMatchedInsert
  checkAssignments "when_not_matched_by_source_update" a.bySourceUpdate

def create (target : Target) (sourceQuery condition : String) (actions : MergeActions) :
    Checked Merge := do
  Checked.notBlank "source_query" sourceQuery
  Checked.notBlank "merge_condition" condition
  checkActions actions
  return ⟨target, sourceQuery, condition, actions⟩

end Merge

structure Copy where
  target : Target
  sourcePath : String
  fileFormat : FileFormat
  options : Dictionary SqlValue
  credential : Option String
  deriving DecidableEq

namespace Copy

def create (target : Target) (sourcePath : String) : Checked Copy := do
  Checked.notBlank "source_path" sourcePath
  return ⟨target, sourcePath, default, .empty, none⟩

def withFileFormat (c : Copy) (fileFormat : FileFormat) : Copy :=
  { c with fileFormat }

/-- Names of options are written into SQL text without quotes. -/
def withOption (c : Copy) (key : String) (value : SqlValue) : Checked Copy := do
  Checked.name .sql "options" "option" key
  return { c with options := c.options.insert key value }

def withCredential (c : Copy) (credential : String) : Copy :=
  { c with credential := some credential }

end Copy

end LakehouseSql
