import LakehouseSql.Event
import LakehouseSql.Statement.Basic
import LakehouseSql.Statistics.Provider
/-! # Statistics

A request for statistics on a table, and the statement it becomes once its columns are known.
Statistics come from a full scan or from a sample, never from both. Columns that are to be found are
those of the target's metadata, else those that a provider answers for the object in its schema. A
provider that fails counts as one that knows no columns.
-/
namespace LakehouseSql

namespace Statistics

/-- The columns that a provider finds for a target. -/
def askProvider (target : Target) (provider : StatsProvider) : Traced (List String) :=
  match provider target.object target.schema with
  | .ok [] => ⟨[.statsProviderEmpty], []⟩
  | .ok (column :: columns) => ⟨[.statsDiscovered], column :: columns⟩
  | .error (.unavailable _) => ⟨[.statsUnavailable], []⟩
  | .error (.lookup _ _) => ⟨[.statsLookupFailed], []⟩

/-- The columns of a target, from its metadata or from a provider. -/
def discover (target : Target) (provider : Option StatsProvider) : Traced (List String) :=
  match target.metadata.bind (·.statsColumns) with
  | some (column :: columns) => ⟨[.statsFromMetadata], column :: columns⟩
  | _ =>
    match provider with
    | none => ⟨[.noStatsProvider], []⟩
    | some provider => askProvider target provider

end Statistics

structure CreateStatistics where
  target : Target
  columns : List String
  samplePercent : Option Binary64
  fullScan : Bool
  name : Option String
  autoDiscover : Bool
  deriving DecidableEq

/-- Statistics whose columns may still have to be found. -/
structure StatisticsRequest where
  target : Target
  columns : List String
  samplePercent : Option Binary64
  fullScan : Bool
  name : Option String
  autoDiscover : Bool
  deriving DecidableEq

namespace StatisticsRequest

/-- A full scan of columns that are to be found. -/
def create (target : Target) : StatisticsRequest :=
  ⟨target, [], none, true, none, true⟩

/-- Refuse a sample of a full scan. -/
def validate (r : StatisticsRequest) : Checked Unit :=
  if r.samplePercent.isSome && r.fullScan then .error (.conflict .sampledFullScan) else .ok ()

def withColumns (r : StatisticsRequest) (columns : List String) : Checked StatisticsRequest := do
  Checked.columns "columns" columns
  return { r with columns }

def withSamplePercent (r : StatisticsRequest) (percent : Binary64) :
    Checked StatisticsRequest := do
  if !percent.isBetweenZeroAnd 100 then
    throw (.outOfRange "sample_percent" "between 0 and 100" (SqlValue.numberText percent))
  let r := { r with samplePercent := some percent }
  r.validate
  return r

def withFullScan (r : StatisticsRequest) (fullScan : Bool) : Checked StatisticsRequest := do
  let r := { r with fullScan }
  r.validate
  return r

def withName (r : StatisticsRequest) (name : String) : Checked StatisticsRequest := do
  Checked.name .object "stats_name" "statistics" name
  return { r with name := some name }

def withAutoDiscover (r : StatisticsRequest) (autoDiscover : Bool) : StatisticsRequest :=
  { r with autoDiscover }

/-- The columns that were given, else those that discovery finds if it is wanted. -/
def findColumns (r : StatisticsRequest) (provider : Option StatsProvider) :
    Traced (List String) :=
  if !r.columns.isEmpty then ⟨[], r.columns⟩
  else if r.autoDiscover then Statistics.discover r.target provider
  else ⟨[], []⟩

/-- The statement for columns that were found. -/
def withFoundColumns (r : StatisticsRequest) (columns : List String) :
    Checked CreateStatistics := do
  if columns.isEmpty then throw (.noStatisticsColumns r.target.fullName)
  Checked.columns "columns" columns
  return ⟨r.target, columns, r.samplePercent, r.fullScan, r.name, r.autoDiscover⟩

/-- The statement of a request, its columns found with the help of a provider. -/
def resolve (r : StatisticsRequest) (provider : Option StatsProvider) :
    Traced (Checked CreateStatistics) :=
  match r.validate with
  | .error e => ⟨[], .error e⟩
  | .ok () =>
    let found := r.findColumns provider
    ⟨found.events, r.withFoundColumns found.result⟩

end StatisticsRequest

end LakehouseSql
