import MappingMarkers.Attribute
import MappingMarkers.Catalog.KeyReader

namespace MappingMarkers.Catalog

open Text

/-- The outcome for one source file: the table that was looked up, and the mapped columns that it
does not have. -/
structure TableCheck where
  entity : Text
  schema : Cell
  table : Text
  missing : List Text
  deriving DecidableEq

namespace TableCheck

def ok (c : TableCheck) : Bool := c.missing.isEmpty

def text (c : TableCheck) : Text :=
  ['['] ++ c.entity ++ "] ".toList ++ c.schema.getD "None".toList ++ ['.'] ++ c.table ++
    " => ".toList ++
    (if c.ok then "OK".toList else "Missing: ".toList ++ joined ", ".toList c.missing)

end TableCheck

/-- Fails when a check found missing columns, and tells about each such check. -/
def requireAll (checks : List TableCheck) : Except Failure Unit :=
  let offenders := checks.filter fun c => !c.ok
  if offenders.isEmpty then .ok ()
  else .error (.drift "Columns missing in the database:".toList (offenders.map (·.text)))

/-- A session, with the name of its user once that is known. -/
structure CheckSession where
  session : Session
  user : Cell := none
  deriving DecidableEq

namespace CheckSession

/-- A name in the form in which names are compared. -/
def normal (exactNames : Bool) (name : Text) : Text := if exactNames then name else upper name

/-- A cell in the form in which names are compared. Only as it is can a missing name be compared. -/
def normalCell (exactNames : Bool) : Cell → Except RowError Cell
  | some name => .ok (some (normal exactNames name))
  | none => if exactNames then .ok none else .error .unnamed

/-- The user that the answer to the user query names: the first cell of the first row, or the empty
name when there is none. -/
def userOf : List Row → Cell
  | (cell :: _) :: _ => cell
  | _ => some []

def explainUser (e : DriverError) : Fault :=
  if e.kind.isDatabase then
    .failure (.metadata ("Could not resolve session user: ".toList ++ e.message) none none)
  else .driver e

/-- The user of the session. The database is asked until it has named one. -/
def currentUser (c : CheckSession) : Except Fault Cell × CheckSession :=
  match c.user with
  | some user => (.ok (some user), c)
  | none =>
      match c.session.withCursor (Session.execute { query := .currentUser, binds := none }) with
      | (.error e, session) => (.error (explainUser e), { c with session })
      | (.ok rows, session) => (.ok (userOf rows), { session, user := userOf rows })

def columns (exactNames : Bool) (owner : Cell) (table : Text) (c : CheckSession) :
    Except Fault (List Cell) × CheckSession :=
  let statement : Statement := { query := .tableColumns, binds := some { owner, table } }
  match c.session.withCursor (Session.execute statement) with
  | (.error e, session) => (.error (explain owner table e), { c with session })
  | (.ok rows, session) =>
      let names := rows.mapM fun row => firstCell row >>= normalCell exactNames
      (names.mapError .row, { c with session })

/-- The owner of the mapped table: the schema that the source file names, else the given one, else
the user of the session. -/
def owner (content : Text) (schema : Option Text) (c : CheckSession) :
    Except Fault Cell × CheckSession :=
  match (Attribute.tableSchema? content).or (schema.filter (!·.isEmpty)) with
  | some name => (.ok (some name), c)
  | none => c.currentUser

/-- Checks the text of one source file. There is no outcome when it is not mapped to a table. -/
def check (exactNames : Bool) (content entity : Text) (schema : Option Text) (c : CheckSession) :
    Except Fault (Option TableCheck) × CheckSession :=
  match Attribute.tableName? content with
  | none => (.ok none, c)
  | some name =>
      match c.owner content schema with
      | (.error f, c) => (.error f, c)
      | (.ok owner, c) =>
          match normalCell exactNames owner with
          | .error e => (.error (.row e), c)
          | .ok owner =>
              let table := normal exactNames name
              match c.columns exactNames owner table with
              | (.error f, c) => (.error f, c)
              | (.ok present, c) =>
                  let mapped := (Attribute.mappedColumns content).map (normal exactNames)
                  let missing := mapped.filter fun m => !present.contains (some m)
                  (.ok (some { entity, schema := owner, table, missing := sortedSet missing }), c)

end CheckSession
end MappingMarkers.Catalog
