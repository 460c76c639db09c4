import MappingMarkers.Text.Basic

namespace MappingMarkers

inductive LogLevel where
  | debug
  | info
  | warning
  | error
  deriving DecidableEq

namespace LogLevel

def label : LogLevel → Text
  | .debug => "DEBUG".toList
  | .info => "INFO".toList
  | .warning => "WARNING".toList
  | .error => "ERROR".toList

def rank : LogLevel → Nat
  | .debug => 0
  | .info => 1
  | .warning => 2
  | .error => 3

end LogLevel

structure LogEntry where
  level : LogLevel
  source : Text
  message : Text
  deriving DecidableEq

namespace LogEntry

def text (e : LogEntry) : Text :=
  ['['] ++ e.level.label ++ "] ".toList ++ e.source ++ ": ".toList ++ e.message

/-- Whether the entry is shown to readers who ask for this level and the graver ones. -/
def reaches (e : LogEntry) (level : LogLevel) : Bool := level.rank ≤ e.level.rank

end LogEntry
end MappingMarkers
