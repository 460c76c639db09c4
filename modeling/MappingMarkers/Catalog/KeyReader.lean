import MappingMarkers.Catalog.Session
import MappingMarkers.Fault
import MappingMarkers.Keys
import MappingMarkers.Log
import MappingMarkers.Text.Case

namespace MappingMarkers.Catalog

open Text

/-- A row that names a key and tells two things about it. -/
structure KeyRow (Name : Type) where
  name : Text
  first : Name
  second : Name
  deriving DecidableEq

def firstCell : Row → Except RowError Cell
  | [] => .error .empty
  | cell :: _ => .ok cell

def keyRow : Row → Except RowError (KeyRow Cell)
  | [some name, first, second] => .ok { name, first, second }
  | [none, _, _] => .error .unnamed
  | row => .error (if row.length < 3 then .short row.length else .long)

section Grouping

variable {Name : Type}

/-- The capitals of its name, by which a key is known. -/
def KeyRow.key (r : KeyRow Name) : Text := upper r.name

/-- The last header with a key. -/
def header? (headers : List (KeyRow Name)) (key : Text) : Option (KeyRow Name) :=
  headers.reverse.find? (·.key == key)

/-- Adds the pair of a column row to its foreign key, or a new foreign key if it is the first one. A
row of a key without a header is left out. -/
def addPair (headers : List (KeyRow Name)) (keys : List (ForeignKey Name)) (row : KeyRow Name) :
    List (ForeignKey Name) :=
  match header? headers row.key with
  | none => keys
  | some header =>
      let pair := (row.first, row.second)
      if keys.any fun k => upper k.name == row.key then
        keys.map fun k =>
          if upper k.name = row.key then { k with pairs := k.pairs ++ [pair] } else k
      else
        keys ++ [{ name := row.name, table := header.first, refTable := header.second,
                   pairs := [pair] }]

/-- The foreign keys of column rows, in the order in which their columns first come up. -/
def groupPairs (headers rows : List (KeyRow Name)) : List (ForeignKey Name) :=
  rows.foldl (addPair headers) []

end Grouping

/-- An error of the database, told as a failure about a table; any other one as it is. -/
def explain (schema : Cell) (table : Text) (e : DriverError) : Fault :=
  if e.kind.isDatabase then .failure (.metadata e.message schema (some table)) else .driver e

/-- Executes a statement and reads every row of the answer. -/
def ask {α : Type} (explained : DriverError → Fault) (st : Statement)
    (read : Row → Except RowError α) (s : Session) : Except Fault (List α) × Session :=
  match s.execute st with
  | (.error e, s) => (.error (explained e), s)
  | (.ok rows, s) => ((rows.mapM read).mapError .row, s)

def queryKeys (owner table : Text) (s : Session) : Except Fault (TableKeys Cell) × Session :=
  let statement query : Statement := { query, binds := some { owner := some owner, table } }
  let explained := explain (some owner) table
  match ask explained (statement .primaryKey) firstCell s with
  | (.error f, s) => (.error f, s)
  | (.ok primary, s) =>
      match ask explained (statement .foreignKeys) keyRow s with
      | (.error f, s) => (.error f, s)
      | (.ok headers, s) =>
          match ask explained (statement .foreignKeyColumns) keyRow s with
          | (.error f, s) => (.error f, s)
          | (.ok rows, s) => (.ok { table, primary, foreign := groupPairs headers rows }, s)

/-- Reads the keys of a table. The schema is taken in capitals. -/
def loadKeys (schema table : Text) : Session → Except Fault (TableKeys Cell) × Session :=
  Session.withCursor (queryKeys (upper schema) table)

def loaded (schema : Text) (keys : TableKeys Cell) : LogEntry :=
  { level := .debug, source := "annotator.discovery.catalog".toList
    message :=
      "Loaded ".toList ++ upper schema ++ ['.'] ++ keys.table ++ ": pk=".toList ++
        shownCells keys.primary ++ ", fk=".toList ++
        shownCells (keys.foreign.map fun k => some k.name) }

end MappingMarkers.Catalog
