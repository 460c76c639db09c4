import MappingMarkers.Catalog.Credentials
import MappingMarkers.Catalog.Reply

/-!
A database session: the replies it still has in store, and what has happened on it so far.
-/

namespace MappingMarkers.Catalog

inductive Query where
  | primaryKey
  | foreignKeys
  | foreignKeyColumns
  | currentUser
  | tableColumns
  deriving DecidableEq

def Query.sqlLines : Query → List Text
  | .primaryKey =>
      ["SELECT acc.COLUMN_NAME FROM ALL_CONSTRAINTS ac".toList,
        "JOIN ALL_CONS_COLUMNS acc".toList,
        "ON acc.OWNER = ac.OWNER AND acc.CONSTRAINT_NAME = ac.CONSTRAINT_NAME".toList,
        "WHERE ac.OWNER = :owner AND ac.CONSTRAINT_TYPE = 'P'".toList,
        "AND ac.TABLE_NAME = :table_name".toList,
        "ORDER BY acc.POSITION".toList]
  | .foreignKeys =>
      ["SELECT a.CONSTRAINT_NAME, a.TABLE_NAME, a_r.TABLE_NAME FROM ALL_CONSTRAINTS a".toList,
        "JOIN ALL_CONSTRAINTS a_r".toList,
        "ON a_r.OWNER = a.R_OWNER AND a_r.CONSTRAINT_NAME = a.R_CONSTRAINT_NAME".toList,
        "WHERE a.OWNER = :owner AND a.CONSTRAINT_TYPE = 'R'".toList,
        "AND a.TABLE_NAME = :table_name".toList]
  | .foreignKeyColumns =>
      ["SELECT acc.CONSTRAINT_NAME, acc.COLUMN_NAME, acc_r.COLUMN_NAME".toList,
        "FROM ALL_CONS_COLUMNS acc".toList,
        "JOIN ALL_CONSTRAINTS ac".toList,
        "ON ac.OWNER = acc.OWNER AND ac.CONSTRAINT_NAME = acc.CONSTRAINT_NAME".toList,
        "JOIN ALL_CONS_COLUMNS acc_r".toList,
        "ON acc_r.OWNER = ac.R_OWNER AND acc_r.CONSTRAINT_NAME = ac.R_CONSTRAINT_NAME".toList,
        "AND acc_r.POSITION = acc.POSITION".toList,
        "WHERE ac.OWNER = :owner AND ac.CONSTRAINT_TYPE = 'R'".toList,
        "AND acc.TABLE_NAME = :table_name".toList,
        "ORDER BY acc.CONSTRAINT_NAME, acc.POSITION".toList]
  | .currentUser => ["SELECT USER FROM DUAL".toList]
  | .tableColumns =>
      ["SELECT COLUMN_NAME FROM ALL_TAB_COLUMNS".toList,
        "WHERE OWNER = :owner AND TABLE_NAME = :table_name".toList]

def Query.sql (q : Query) : Text := Text.joined [' '] q.sqlLines

structure Binds where
  owner : Cell
  table : Text
  deriving DecidableEq

structure Statement where
  query : Query
  binds : Option Binds
  deriving DecidableEq

/-- What can happen on a session. Cursors are closed in the reverse order of their opening. -/
inductive Event where
  | connected (c : Credentials)
  | refused (c : Credentials)
  /-- A time limit was set on the connection. -/
  | limited (milliseconds : Int)
  | cursorOpened
  | executed (st : Statement)
  | cursorClosed
  | disconnected
  deriving DecidableEq

/-- A session: the replies to come, and what has happened, oldest first. -/
structure Session where
  replies : List Reply
  events : List Event := []
  deriving DecidableEq

namespace Session

def record (s : Session) (e : Event) : Session := { s with events := s.events ++ [e] }

/-- Executes a statement. A session without further replies answers with no rows. -/
def execute (st : Statement) (s : Session) : Except DriverError (List Row) × Session :=
  let s := s.record (.executed st)
  match s.replies with
  | [] => (.ok [], s)
  | .rows rows :: replies => (.ok rows, { s with replies })
  | .error e :: replies => (.error e, { s with replies })

/-- Does its work with a cursor of its own, which is closed whatever the outcome. -/
def withCursor {α : Type} (work : Session → α × Session) (s : Session) : α × Session :=
  let (outcome, s) := work (s.record .cursorOpened)
  (outcome, s.record .cursorClosed)

def statements (s : Session) : List Statement :=
  s.events.filterMap fun
    | .executed st => some st
    | _ => none

def closeLast : List Bool → List Bool
  | [] => []
  | closed :: later => if later.all id then true :: later else closed :: closeLast later

/-- For each cursor opened so far, whether it is closed. -/
def cursors (s : Session) : List Bool :=
  s.events.foldl (fun closed e =>
    match e with
    | .cursorOpened => closed ++ [false]
    | .cursorClosed => closeLast closed
    | _ => closed) []

def attempts (s : Session) : List Credentials :=
  s.events.filterMap fun
    | .connected c | .refused c => some c
    | _ => none

def disconnects (s : Session) : Nat := s.events.count .disconnected

/-- The time limit that was set last. -/
def callTimeout? (s : Session) : Option Int :=
  s.events.reverse.findSome? fun
    | .limited milliseconds => some milliseconds
    | _ => none

end Session
end MappingMarkers.Catalog
