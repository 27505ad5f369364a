import LakehouseSql.Dictionary
import LakehouseSql.Json.Field
import LakehouseSql.Text.Case
import LakehouseSql.Toml
/-! # Statistics providers

Sources that know which columns of a table deserve statistics, and a provider whose answers are
configured per layer. The columns of one layer can be read from a TOML document, which holds the
name of its schema and a table of lists of columns; they are kept in the order of the names of the
tables.
-/
namespace LakehouseSql

/-- Why a provider gives no answer. -/
inductive DiscoveryError where
  | unavailable (reason : String)
  | lookup (table cause : String)
  deriving DecidableEq

def DiscoveryError.message : DiscoveryError → String
  | .unavailable reason => "stats column provider unavailable: " ++ reason
  | .lookup table cause => "stats column lookup failed for " ++ table ++ ": " ++ cause

/-- The columns worth statistics, by the name of a table and of its layer. -/
abbrev StatsProvider := (table layer : String) → Except DiscoveryError (List String)

/-- Columns per table of one layer. -/
structure LayerStats where
  schema : String
  tables : Dictionary (List String)
  deriving DecidableEq

namespace LayerStats

def hasTable (s : LayerStats) (table : String) : Bool :=
  s.tables.contains table

def columns (s : LayerStats) (table : String) : List String :=
  (s.tables.get? table).getD []

end LayerStats

/-- Configured columns by the lower case of a layer's name. -/
structure ConfiguredStats where
  layers : Dictionary LayerStats
  deriving DecidableEq

namespace ConfiguredStats

def empty : ConfiguredStats :=
  ⟨.empty⟩

def withLayer (c : ConfiguredStats) (layer : String) (stats : LayerStats) : ConfiguredStats :=
  ⟨c.layers.insert (Text.lowercase layer) stats⟩

def layer? (c : ConfiguredStats) (layer : String) : Option LayerStats :=
  c.layers.get? (Text.lowercase layer)

/-- The configured columns of a table, found under the lower case of its name. -/
def columns (c : ConfiguredStats) (table layer : String) : List String :=
  ((c.layer? layer).map fun stats => stats.columns (Text.lowercase table)).getD []

/-- The configuration as a provider that always has an answer. -/
def provider (c : ConfiguredStats) : StatsProvider :=
  fun table layer => .ok (c.columns table layer)

end ConfiguredStats

namespace LayerStats

/-- The configuration that members spell; the name of the schema is required. -/
def ofMembers (ms : List (String × Json)) : Json.Decoded LayerStats := do
  let schema ← match ms.lookup "schema_name" with
    | some j => Json.stringField j
    | none => throw .shape
  let tables ← match ms.lookup "table_stats" with
    | some j => Json.dictionaryField (Json.listField Json.stringField) j
    | none => pure .empty
  return ⟨schema, tables.sortedByKey⟩

def ofToml? (s : String) : Option LayerStats :=
  (Toml.read? s).bind fun ms => (ofMembers ms).toOption

end LayerStats

/-- Add the configuration that a TOML document spells. -/
def ConfiguredStats.withLayerToml? (c : ConfiguredStats) (layer document : String) :
    Option ConfiguredStats :=
  (LayerStats.ofToml? document).map (c.withLayer layer)

end LakehouseSql
