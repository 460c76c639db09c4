import MappingMarkers.Identifier
import MappingMarkers.Keys

namespace MappingMarkers.Marker

open Text

def primaryKey : Text := "[PrimaryKey]".toList

def column (name : Text) : Text := "[Column(Name = \"".toList ++ name ++ "\")]".toList

/-- Every association marker begins so. -/
def associationStart : Text := "[Association(".toList

/-- The association along a foreign key, with the property names of both sides in the order of the
key. -/
def association (key : ForeignKey Text) : Text :=
  associationStart ++ "ThisKey = \"".toList ++ Identifier.pascalList key.columns ++
    "\", OtherKey = \"".toList ++ Identifier.pascalList key.refColumns ++
    "\", CanBeNull = true)]".toList

end MappingMarkers.Marker
