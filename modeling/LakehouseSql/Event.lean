import LakehouseSql.Vocabulary
/-! # Events

What a step of work has to report, as values beside its result.
-/
namespace LakehouseSql

inductive Event where
  | creatingRenderer
  | unsupportedPlatform
  /-- A statement on an object is about to be written; its context may suggest an engine. -/
  | rendering (kind : StatementKind) (platform : Platform) (object : String)
      (engine : Option Engine)
  | rendered
  | rejectedSql
  | statsFromMetadata
  | noStatsProvider
  | statsDiscovered
  | statsProviderEmpty
  | statsUnavailable
  | statsLookupFailed
  | layerLoaded
  deriving DecidableEq

/-- How much an event matters. -/
inductive EventLevel where
  | trace
  | debug
  | info
  | warn
  deriving DecidableEq

def EventLevel.name : EventLevel → String
  | trace => "TRACE"
  | debug => "DEBUG"
  | info => "INFO"
  | warn => "WARN"

namespace Event

def level : Event → EventLevel
  | rendered => .trace
  | creatingRenderer | rendering .. | noStatsProvider | statsProviderEmpty | statsUnavailable
  | layerLoaded => .debug
  | statsFromMetadata | statsDiscovered => .info
  | unsupportedPlatform | rejectedSql | statsLookupFailed => .warn

def message : Event → String
  | creatingRenderer => "creating query builder"
  | unsupportedPlatform => "unsupported compute type requested"
  | rendering .. => "building query"
  | rendered => "built query"
  | rejectedSql => "rejected raw SQL"
  | statsFromMetadata => "using stats columns from metadata"
  | noStatsProvider => "no stats column provider configured, skipping discovery"
  | statsDiscovered => "auto-discovered stats columns"
  | statsProviderEmpty => "stats column provider returned no columns"
  | statsUnavailable => "stats discovery unavailable, skipping"
  | statsLookupFailed => "failed to auto-discover stats columns"
  | layerLoaded => "loaded settings source"

/-- The line that a log shows for an event. -/
def line (e : Event) : String :=
  e.level.name ++ " " ++ e.message

end Event

/-- A result and the events on the way to it, the earliest first. -/
structure Traced (α : Type) where
  events : List Event
  result : α

end LakehouseSql
