import MappingMarkers.Catalog.Reply
import MappingMarkers.Failure
import MappingMarkers.Files.Tree
import MappingMarkers.Text.Integer

namespace MappingMarkers

open Text

inductive Fault where
  /-- A failure that the tool reports itself. -/
  | failure (f : Failure)
  /-- An error of the database driver, passed on as it is. -/
  | driver (e : Catalog.DriverError)
  | row (e : Catalog.RowError)
  /-- A key without a column name where a name is needed. -/
  | unnamedColumn
  | decoding (e : Utf8.DecodeError)
  | access (e : Files.AccessError)
  | name (e : Files.NameError)
  /-- A file pattern with two stars next to each other and something else. -/
  | pattern
  | integer (e : IntegerError)
  /-- A connection string without a user, a password or a place to connect to. -/
  | connectString
  deriving DecidableEq

def Fault.message : Fault → Text
  | .failure f => f.message
  | .driver e => e.message
  | .row e => e.message
  | .unnamedColumn => "expected string or bytes-like object, got 'NoneType'".toList
  | .decoding e => e.message
  | .access e => e.message
  | .name e => e.message
  | .pattern => "Invalid pattern: '**' can only be an entire path component".toList
  | .integer e => e.message
  | .connectString =>
      "Connection string must look like user/password@host:port/service".toList

end MappingMarkers
