import MappingMarkers.Identifier

namespace MappingMarkers.Declaration

open Text

/-- The type of a public member and what stands behind the white space after the type. -/
def head? (line : Text) : Option (Text × Text) := do
  let rest ← after? "public".toList (skipBlanks line)
  let typed ← afterBlanks? rest
  let named ← afterBlanks? (typed.dropWhile (!isBlank ·))
  return (typed.takeWhile (!isBlank ·), named)

/-- Whether the text is a property's accessors `get;` and `set;` in braces, with white space
wherever it likes. -/
def isAccessors (t : Text) : Bool :=
  let closed := do
    let t ← after? ['{'] (skipBlanks t)
    let t ← after? "get;".toList (skipBlanks t)
    let t ← after? "set;".toList (skipBlanks t)
    after? ['}'] (skipBlanks t)
  closed.any (·.all isBlank)

def isNameStart (c : Char) : Bool := c.isAlpha || c == '_'

def isNamePart (c : Char) : Bool := c.isAlphanum || c == '_'

/-- The name of the property that the line declares. -/
def property? (line : Text) : Option Text := do
  let (_, named) ← head? line
  let name := named.takeWhile isNamePart
  if name.head?.any isNameStart && isAccessors (named.dropWhile isNamePart) then some name else none

/-- The declared properties by their names in small letters, each with the index of its line. A
later line stands before an earlier one, so that it is found first. -/
def index (lines : List Text) : List (Text × Nat) :=
  (lines.zipIdx.filterMap fun (line, i) => (property? line).map fun name => (lower name, i)).reverse

/-- The entries of an index that a look-up can find, ordered by name. -/
def visible (entries : List (Text × Nat)) : List (Text × Nat) :=
  (entries.eraseDupsBy fun a b => a.1 == b.1).mergeSort fun a b => notAfter a.1 b.1

/-- Whether the line declares a property whose type, but for a question mark, and whose name are
both `type`. -/
def isNavigation (type line : Text) : Bool :=
  (head? line).any fun (found, named) =>
    (found == type || found == type ++ ['?']) && (after? type named).any isAccessors

/-- The index of the first line that declares a navigation property for the referenced table. -/
def navigation? (lines : List Text) (refTable : Text) : Option Nat :=
  let type := Identifier.pascal refTable
  if type.isEmpty then none else lines.findIdx? (isNavigation type)

end MappingMarkers.Declaration
