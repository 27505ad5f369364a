import LakehouseSql.Json.Field
import LakehouseSql.Json.Printer
import LakehouseSql.Json.Reader
import LakehouseSql.Settings.Compute
/-! # Settings as JSON

The JSON object of settings, and settings from the members of an object: unknown members are
passed over, and missing ones keep their standard values.
-/
namespace LakehouseSql

def SynapseSettings.toJson (s : SynapseSettings) : Json :=
  .object [("csv_file_format", .string s.csvFileFormat),
    ("parquet_file_format", .string s.parquetFileFormat),
    ("raw_external_data_source", .string s.rawExternalDataSource),
    ("processed_external_data_source", .string s.processedExternalDataSource),
    ("location_prefix", .optional .string s.locationPrefix)]

def FabricSettings.toJson (s : FabricSettings) : Json :=
  .object [("warehouse_name", .optional .string s.warehouseName),
    ("lakehouse_name", .optional .string s.lakehouseName),
    ("default_retention_hours", .natural s.defaultRetentionHours.toNat)]

namespace Settings

def toMembers (s : Settings) : List (String × Json) :=
  [("compute_type", .string (Vocabulary.word s.platform)), ("dialect", .string s.dialect),
    ("table_prefix", .optional .string s.tablePrefix),
    ("skip_prefix_on_schema", .strings s.unprefixedSchemas), ("synapse", s.synapse.toJson),
    ("fabric", s.fabric.toJson)]

def toJson (s : Settings) : Json :=
  .object s.toMembers

end Settings

namespace Json

def synapseMembers : RecordMembers SynapseSettings :=
  [("csv_file_format", ⟨stringField, fun s v => { s with csvFileFormat := v }⟩),
    ("parquet_file_format", ⟨stringField, fun s v => { s with parquetFileFormat := v }⟩),
    ("raw_external_data_source", ⟨stringField, fun s v => { s with rawExternalDataSource := v }⟩),
    ("processed_external_data_source",
      ⟨stringField, fun s v => { s with processedExternalDataSource := v }⟩),
    ("location_prefix", ⟨optionalField stringField, fun s v => { s with locationPrefix := v }⟩)]

def fabricMembers : RecordMembers FabricSettings :=
  [("warehouse_name", ⟨optionalField stringField, fun s v => { s with warehouseName := v }⟩),
    ("lakehouse_name", ⟨optionalField stringField, fun s v => { s with lakehouseName := v }⟩),
    ("default_retention_hours", ⟨uint32Field, fun s v => { s with defaultRetentionHours := v }⟩)]

def synapseField : Json → Decoded SynapseSettings :=
  recordField synapseMembers .standard

def fabricField : Json → Decoded FabricSettings :=
  recordField fabricMembers .standard

def settingsMembers : RecordMembers Settings :=
  [("compute_type", ⟨wordField Platform, fun s v => { s with platform := v }⟩),
    ("dialect", ⟨stringField, fun s v => { s with dialect := v }⟩),
    ("table_prefix", ⟨optionalField stringField, fun s v => { s with tablePrefix := v }⟩),
    ("skip_prefix_on_schema",
      ⟨listField stringField, fun s v => { s with unprefixedSchemas := v }⟩),
    ("synapse", ⟨synapseField, fun s v => { s with synapse := v }⟩),
    ("fabric", ⟨fabricField, fun s v => { s with fabric := v }⟩)]

end Json

namespace Settings

/-- The settings that members spell, taken in their order. -/
def ofMembers (ms : List (String × Json)) : Json.Decoded Settings :=
  Json.takeMembers Json.settingsMembers [] .standard ms

/-- The settings of a value that is at hand as a whole: its members are taken in the order of
their names. -/
def ofTable (ms : List (String × Json)) : Json.Decoded Settings :=
  ofMembers (ms.mergeSort fun a b => a.1 ≤ b.1)

def ofJson : Json → Json.Decoded Settings
  | .object ms => ofTable ms
  | j => Json.recordField Json.settingsMembers .standard j

/-- The settings of a JSON text. Members are taken in their order, so that the first bad one
decides. -/
def ofJsonText (s : String) : Json.Decoded Settings := do
  let (ms, ending) := Json.readRecord (Json.settingsMembers.map (·.1)) s
  let settings ← ofMembers ms
  if ending = .closed then return settings else throw .shape

end Settings

end LakehouseSql
