import LakehouseSql.Vocabulary
/-! # Compute settings

The platform that statements are written for and how names come out on it. Names of tables may get
a prefix, except in schemas that are listed to go without.
-/
namespace LakehouseSql

structure SynapseSettings where
  csvFileFormat : String
  parquetFileFormat : String
  rawExternalDataSource : String
  processedExternalDataSource : String
  locationPrefix : Option String
  deriving DecidableEq

def SynapseSettings.standard : SynapseSettings :=
  ⟨"csv_file_format", "parquet_file_format", "raw_data_source", "processed_data_source", none⟩

structure FabricSettings where
  warehouseName : Option String
  lakehouseName : Option String
  defaultRetentionHours : UInt32
  deriving DecidableEq

def FabricSettings.standard : FabricSettings :=
  ⟨none, none, 168⟩

structure Settings where
  platform : Platform
  dialect : String
  tablePrefix : Option String
  unprefixedSchemas : List String
  synapse : SynapseSettings
  fabric : FabricSettings
  deriving DecidableEq

namespace Settings

/-- The schemas whose tables go without a prefix unless others are set. -/
def standardUnprefixedSchemas : List String :=
  ["dbo", "gold", "snapshot"]

def standard : Settings :=
  ⟨default, "tsql", none, standardUnprefixedSchemas, .standard, .standard⟩

def forPlatform (platform : Platform) : Settings :=
  { standard with platform }

def withTablePrefix (s : Settings) (tablePrefix : String) : Settings :=
  { s with tablePrefix := some tablePrefix }

def withUnprefixedSchemas (s : Settings) (schemas : List String) : Settings :=
  { s with unprefixedSchemas := schemas }

/-- The schema is listed, in any letter case, as one whose tables go without a prefix. -/
def leavesUnprefixed (s : Settings) (schema : String) : Bool :=
  s.unprefixedSchemas.any fun listed => Text.sameIgnoringAsciiCase listed schema

/-- The name that an object has on the platform. -/
def physicalName (s : Settings) (schema object : String) : String :=
  match s.tablePrefix with
  | some tablePrefix => if s.leavesUnprefixed schema then object else tablePrefix ++ object
  | none => object

end Settings

end LakehouseSql
