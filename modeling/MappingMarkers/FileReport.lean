import MappingMarkers.Fault

namespace MappingMarkers

open Text

inductive Outcome where
  /-- The file is not mapped to a table. -/
  | noTable
  /-- The file has all markers already. -/
  | unchanged
  | written (copy : Files.Path)
  /-- The copy would have been written but for a dry run. -/
  | dryRun (copy : Files.Path)
  | failed (fault : Fault)
  deriving DecidableEq

namespace Outcome

def status : Outcome → Text
  | noTable => "No [Table] - skipped".toList
  | unchanged => "Nothing to inject".toList
  | written copy => "Annotations injected into ".toList ++ copy.name
  | dryRun copy => "DRY-RUN: would write ".toList ++ copy.name ++ " with annotations".toList
  | failed fault => "Error: ".toList ++ fault.message

def copy? : Outcome → Option Files.Path
  | written copy | dryRun copy => some copy
  | _ => none

def fault? : Outcome → Option Fault
  | failed fault => some fault
  | _ => none

end Outcome

structure FileReport where
  path : Files.Path
  table : Option Text
  outcome : Outcome
  deriving DecidableEq

namespace FileReport

def success (r : FileReport) : Bool := r.outcome.fault?.isNone

def text (r : FileReport) : Text :=
  r.path.name ++ ": ".toList ++ r.outcome.status ++
    match r.table with
    | some table => " (Table: ".toList ++ table ++ [')']
    | none => []

end FileReport
end MappingMarkers
