import MappingMarkers.Log
import MappingMarkers.Marker
import MappingMarkers.SourceBuffer

/-!
Putting the markers of a table's keys into a source file. Each marker is a request with a target
declaration; it is dropped when the file has no such declaration or when the declaration's attribute
lines already hold the request's guard.
-/

namespace MappingMarkers

open Text

/-- The declaration that a marker belongs to. -/
inductive Target where
  | property (name : Text)
  | navigation (key refTable : Text)
  deriving DecidableEq

/-- A marker to be put above its target, unless the guard stands there already. -/
structure Request where
  target : Target
  guard : Text
  marker : Text
  deriving DecidableEq

namespace Request

/-- A marker that is its own guard, above the property of a column. -/
def ofColumn (column marker : Text) : Request :=
  { target := .property (Identifier.pascal column), guard := marker, marker }

/-- The two markers of a primary key column. -/
def ofPrimary (column : Text) : List Request :=
  [ofColumn column Marker.primaryKey, ofColumn column (Marker.column column)]

/-- The marker of a foreign key's column. -/
def ofForeignColumn (column : Text) : Request := ofColumn column (Marker.column column)

/-- The association of a foreign key, if the key has any columns. -/
def ofForeignKey (key : ForeignKey Text) : List Request :=
  if key.pairs.isEmpty then []
  else
    [{ target := .navigation key.name key.refTable, guard := Marker.associationStart,
       marker := Marker.association key }]

end Request

/-- What a table's keys ask for, in order: the primary key, the foreign key columns, and the
associations. -/
def TableKeys.requests (keys : TableKeys Text) : List Request :=
  keys.primary.flatMap Request.ofPrimary ++
    keys.foreign.flatMap (fun key => key.columns.map Request.ofForeignColumn) ++
    keys.foreign.flatMap Request.ofForeignKey

namespace Injection

/-- The line that a target has at present. -/
def line? (b : SourceBuffer) : Target → Option Nat
  | .property name => b.lineOf? name
  | .navigation _ refTable => Declaration.navigation? b.lines refTable

/-- The line above which a request is to be put; `none` when it is dropped. -/
def place? (b : SourceBuffer) (target : Target) (guard : Text) : Option Nat :=
  (line? b target).filter fun i => !b.hasMarkerAbove i guard

def fulfil (b : SourceBuffer) (r : Request) : SourceBuffer :=
  match place? b r.target r.guard with
  | some i => b.insertAbove i r.marker
  | none => b

def logSource : Text := "annotator.transformers.marker_injector".toList

def missing (target : Target) (marker : Text) : LogEntry :=
  { level := .debug, source := logSource
    message :=
      match target with
      | .property name =>
          "No single-line property ".toList ++ name ++ "; skipping ".toList ++ marker
      | .navigation key refTable =>
          key ++ ": no navigation property for ".toList ++ refTable }

def note (b : SourceBuffer) (target : Target) (marker : Text) : List LogEntry :=
  match line? b target with
  | some _ => []
  | none => [missing target marker]

def closing (table : Text) (b : SourceBuffer) : List LogEntry :=
  if b.changed then
    [{ level := .debug, source := logSource
       message := table ++ ": ".toList ++ ofNat b.inserted.length ++
        " marker(s) inserted".toList }]
  else []

end Injection

structure Injection where
  changed : Bool
  text : Text
  inserted : List Text
  deriving DecidableEq

/-- The outcome for a buffer made from `content`. Without an insertion the text is the content
itself, with its own line ends. -/
def Injection.ofBuffer (content : Text) (b : SourceBuffer) : Injection :=
  if b.changed then { changed := true, text := b.text, inserted := b.inserted }
  else { changed := false, text := content, inserted := [] }

def inject (content : Text) (keys : TableKeys Text) : Injection :=
  Injection.ofBuffer content (keys.requests.foldl Injection.fulfil (SourceBuffer.ofText content))

end MappingMarkers
