import MappingMarkers.Text.Quoted

namespace MappingMarkers.Catalog

/-- A value of an answer, `none` where the database has none. -/
abbrev Cell := Option Text

abbrev Row := List Cell

inductive ErrorKind where
  | general
  | database
  | interface
  | operational
  | integrity
  | programming
  | data
  | notSupported
  | warning
  | unexpected
  | system
  deriving DecidableEq

/-- Whether the driver counts errors of this kind as errors of the database. -/
def ErrorKind.isDatabase : ErrorKind → Bool
  | .warning | .unexpected | .system => false
  | _ => true

structure DriverError where
  kind : ErrorKind
  message : Text
  deriving DecidableEq

inductive Reply where
  | rows (rows : List Row)
  | error (e : DriverError)
  deriving DecidableEq

/-- Why a row does not have the expected form. -/
inductive RowError where
  /-- The row is empty. -/
  | empty
  /-- Three cells are expected and the row has fewer. -/
  | short (count : Nat)
  /-- Three cells are expected and the row has more. -/
  | long
  /-- The cell holds no name. -/
  | unnamed
  deriving DecidableEq

def RowError.message : RowError → Text
  | .empty => "tuple index out of range".toList
  | .short n =>
      "not enough values to unpack (expected 3, got ".toList ++ Text.ofNat n ++ [')']
  | .long => "too many values to unpack (expected 3)".toList
  | .unnamed => "'NoneType' object has no attribute 'upper'".toList

def shownCell : Cell → Text
  | some t => Text.quoted t
  | none => "None".toList

def shownCells (cells : List Cell) : Text :=
  ['['] ++ Text.joined ", ".toList (cells.map shownCell) ++ [']']

end MappingMarkers.Catalog
