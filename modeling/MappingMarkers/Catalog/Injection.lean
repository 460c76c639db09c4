import MappingMarkers.Catalog.Reply
import MappingMarkers.Fault
import MappingMarkers.Injection

namespace MappingMarkers.Catalog

open Text

/-- A request for which not every name need be known. -/
inductive Draft where
  | ready (r : Request)
  /-- The name of the target is missing. -/
  | untargeted
  /-- A name inside the marker is missing. -/
  | unmarked (target : Target) (guard : Text)
  deriving DecidableEq

namespace Draft

def ofPrimary : Cell → List Draft
  | some column => (Request.ofPrimary column).map ready
  | none => [untargeted]

def ofForeignColumn : Cell → Draft
  | some column => ready (Request.ofForeignColumn column)
  | none => untargeted

/-- The pairs of a foreign key, if all names are there. -/
def namedPairs? (pairs : List (Cell × Cell)) : Option (List (Text × Text)) :=
  pairs.mapM fun (column, refColumn) => do return (← column, ← refColumn)

def ofForeignKey (key : ForeignKey Cell) : List Draft :=
  if key.pairs.isEmpty then []
  else
    match key.refTable, namedPairs? key.pairs with
    | none, _ => [untargeted]
    | some refTable, none => [unmarked (.navigation key.name refTable) Marker.associationStart]
    | some refTable, some pairs =>
        (Request.ofForeignKey
          { name := key.name, table := key.table.getD [], refTable, pairs }).map ready

/-- What the keys of a table ask for, in order. -/
def ofKeys (keys : TableKeys Cell) : List Draft :=
  keys.primary.flatMap ofPrimary ++
    keys.foreign.flatMap (fun key => key.columns.map ofForeignColumn) ++
    keys.foreign.flatMap ofForeignKey

end Draft

/-- Fulfils the drafts in order, and tells what is logged on the way. There is no buffer in the end
when a missing name was needed. -/
def fulfilAll (b : SourceBuffer) : List Draft → Option SourceBuffer × List LogEntry
  | [] => (some b, [])
  | .untargeted :: _ => (none, [])
  | .unmarked target guard :: drafts =>
      if (Injection.place? b target guard).isSome then (none, [])
      else
        let (last, log) := fulfilAll b drafts
        (last, Injection.note b target [] ++ log)
  | .ready r :: drafts =>
      let (last, log) := fulfilAll (Injection.fulfil b r) drafts
      (last, Injection.note b r.target r.marker ++ log)

/-- Puts the markers of a table's keys into a source file, and tells what is logged. -/
def injectKeys (content : Text) (keys : TableKeys Cell) :
    Except Fault Injection × List LogEntry :=
  match fulfilAll (SourceBuffer.ofText content) (Draft.ofKeys keys) with
  | (none, log) => (.error .unnamedColumn, log)
  | (some b, log) => (.ok (Injection.ofBuffer content b), log ++ Injection.closing keys.table b)

end MappingMarkers.Catalog
