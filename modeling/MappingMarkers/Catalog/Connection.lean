import MappingMarkers.Catalog.Session
import MappingMarkers.Fault
import MappingMarkers.Log

namespace MappingMarkers.Catalog

open Text

/-- The failure when the driver refuses to connect; an error that is none of the database passes as
it is. -/
def explainRefusal (c : Credentials) (e : DriverError) : Fault :=
  if e.kind.isDatabase then
    .failure (.connection ("Failed to connect to Oracle: ".toList ++ e.message) (some c.dsn))
  else .driver e

/-- Connects, unless the driver refuses, and sets the time limit on the connection, unless it is
zero. -/
def connect (c : Credentials) (callTimeout : Int) (refusal : Option DriverError) (s : Session) :
    Except Fault Unit × Session :=
  match refusal with
  | some e => (.error (explainRefusal c e), s.record (.refused c))
  | none =>
      let s := s.record (.connected c)
      (.ok (), if callTimeout = 0 then s else s.record (.limited callTimeout))

def connectedEntry (c : Credentials) : LogEntry :=
  { level := .debug, source := "annotator.discovery.oracle_client".toList
    message := "Connected to ".toList ++ c.dsn ++ " as ".toList ++ c.user }

end MappingMarkers.Catalog
