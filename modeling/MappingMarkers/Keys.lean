import MappingMarkers.Text.Basic

namespace MappingMarkers

/-- A reference from the columns of one table to those of another. The pairs hold the referring and
the referenced column in the order of the key. -/
structure ForeignKey (Name : Type) where
  name : Text
  table : Name
  refTable : Name
  pairs : List (Name × Name)
  deriving DecidableEq

def ForeignKey.columns {Name : Type} (key : ForeignKey Name) : List Name := key.pairs.map (·.1)

def ForeignKey.refColumns {Name : Type} (key : ForeignKey Name) : List Name := key.pairs.map (·.2)

/-- The primary key columns of a table, in the order of the key, and its foreign keys. -/
structure TableKeys (Name : Type) where
  table : Text
  primary : List Name
  foreign : List (ForeignKey Name)
  deriving DecidableEq

def TableKeys.isEmpty {Name : Type} (keys : TableKeys Name) : Bool :=
  keys.primary.isEmpty && keys.foreign.isEmpty

end MappingMarkers
