import LakehouseSql.Render.Fabric
import LakehouseSql.Render.Synapse
import LakehouseSql.Settings.Source
/-! # Choice of a renderer

The renderer for the platform of the settings, or for a platform that is named.
-/
namespace LakehouseSql

/-- Why there is no renderer. -/
inductive ChoiceError where
  /-- A name, as it was given, of no platform. -/
  | unknownPlatform (name : String)
  | settings (source : SourceError)
  deriving DecidableEq

namespace ChoiceError

def message : ChoiceError → String
  | unknownPlatform name =>
    "Unsupported compute type: " ++ name ++ ". Supported types: SYNAPSE, FABRIC"
  | settings _ => "Failed to load compute settings"

def code : ChoiceError → String
  | unknownPlatform _ => "PLATFORM_NOT_SUPPORTED"
  | settings _ => "SETTINGS_ERROR"

end ChoiceError

namespace Renderer

def ofSettings (settings : Settings) : Renderer :=
  match settings.platform with
  | .synapse => Synapse.renderer settings
  | .fabric => Fabric.renderer settings

/-- The renderer of the platform that the settings name. -/
def choose (settings : Settings) : Traced Renderer :=
  ⟨[.creatingRenderer], ofSettings settings⟩

/-- The renderer of a platform that is named, whatever platform the settings name. -/
def forPlatform (name : String) (settings : Settings) : Traced (Except ChoiceError Renderer) :=
  match Vocabulary.parse Platform (Text.trim name) with
  | .ok platform =>
    let chosen := choose { settings with platform }
    ⟨chosen.events, .ok chosen.result⟩
  | .error _ => ⟨[.unsupportedPlatform], .error (.unknownPlatform name)⟩

/-- The renderer for the settings of some sources. -/
def ofSources (sources : List SettingsSource) : Except ChoiceError Renderer := do
  let settings ← (SettingsSource.settings sources).mapError .settings
  return (choose settings).result

end Renderer

end LakehouseSql
