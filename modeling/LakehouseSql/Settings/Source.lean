import LakehouseSql.Event
import LakehouseSql.Settings.Encoding
import LakehouseSql.Settings.Environment
import LakehouseSql.Toml
/-! # Sources of settings

Sources yield tables of settings and are laid over each other by ascending priority, those of one
priority in the order in which they were added. Tables are merged key by key; any other value
replaces what lies below it.
-/
namespace LakehouseSql

/-- Why settings could not be had from their sources. -/
inductive SourceError where
  | toml
  | io
  | json (e : FieldError)
  deriving DecidableEq

/-- What there is under the path of a file. -/
inductive FileContent where
  | missing
  | text (s : String)
  | directory

structure SettingsSource where
  description : String
  priority : UInt8
  load : Except SourceError (List (String × Json))

namespace SettingsSource

/-- The standard values of all settings. -/
def defaults : SettingsSource :=
  ⟨"Default settings", 0, .ok Settings.standard.toMembers⟩

/-- A file that does not exist sets nothing. -/
def loadToml : FileContent → Except SourceError (List (String × Json))
  | .missing => .ok []
  | .directory => .error .io
  | .text s =>
    match Toml.read? s with
    | some ms => .ok ms
    | none => .error .toml

def tomlFile (path : String) (content : FileContent) : SettingsSource :=
  ⟨"TOML file: " ++ path, 50, loadToml content⟩

def environment (start : String) (bindings : List (String × String)) : SettingsSource :=
  ⟨"Environment variables (prefix: " ++ start ++ ")", 100,
    .ok (Environment.load start bindings)⟩

/-- The sources by ascending priority. -/
def ordered (sources : List SettingsSource) : List SettingsSource :=
  sources.mergeSort fun a b => a.priority ≤ b.priority

mutual
/-- Lay one value over a table. -/
def mergeMember (table : List (String × Json)) (key : String) : Json → List (String × Json)
  | .object incoming =>
    match table.lookup key with
    | some (.object existing) =>
      Dictionary.insertEntry key (.object (mergeMembers existing incoming)) table
    | _ => Dictionary.insertEntry key (.object incoming) table
  | j => Dictionary.insertEntry key j table

/-- Lay the values of a table over another one. -/
def mergeMembers (table : List (String × Json)) : List (String × Json) → List (String × Json)
  | [] => table
  | (key, j) :: ms => mergeMembers (mergeMember table key j) ms
end

/-- Load sources and lay them over a table until one fails; each that loads is reported. -/
def mergeOver (table : List (String × Json)) :
    List SettingsSource → Traced (Except SourceError (List (String × Json)))
  | [] => ⟨[], .ok table⟩
  | source :: sources =>
    match source.load with
    | .error e => ⟨[], .error e⟩
    | .ok values =>
      let rest := mergeOver (mergeMembers table values) sources
      ⟨.layerLoaded :: rest.events, rest.result⟩

/-- The table of all sources together. -/
def merged (sources : List SettingsSource) :
    Traced (Except SourceError (List (String × Json))) :=
  mergeOver [] (ordered sources)

/-- The settings of all sources together. -/
def settings (sources : List SettingsSource) : Except SourceError Settings := do
  let table ← (merged sources).result
  (Settings.ofTable table).mapError .json

end SettingsSource

end LakehouseSql
