import MappingMarkers.Declaration
import MappingMarkers.Text.Lines

/-!
A source file while markers are put into it: its lines, where its properties are declared, and the
markers so far. The declared lines keep up with the lines that are put above them.
-/

namespace MappingMarkers

open Text

structure SourceBuffer where
  lines : List Text
  properties : List (Text × Nat)
  inserted : List Text
  deriving DecidableEq

namespace SourceBuffer

def ofText (content : Text) : SourceBuffer :=
  let lines := splitLines content
  { lines, properties := Declaration.index lines, inserted := [] }

def text (b : SourceBuffer) : Text := joinLines b.lines

def changed (b : SourceBuffer) : Bool := !b.inserted.isEmpty

/-- The line of the property with this name, in whatever case it is written. -/
def lineOf? (b : SourceBuffer) (name : Text) : Option Nat := b.properties.lookup (lower name)

/-- Whether the first character that is not blank is an opening bracket. -/
def opensAttribute (line : Text) : Bool := (skipBlanks line).head? == some '['

/-- The attribute lines that stand right above line `i`, from the nearest one upwards. -/
def attributeBlock (b : SourceBuffer) (i : Nat) : List Text :=
  (b.lines.take i).reverse.takeWhile opensAttribute

/-- Whether an attribute line right above line `i` holds the marker. -/
def hasMarkerAbove (b : SourceBuffer) (i : Nat) (marker : Text) : Bool :=
  (b.attributeBlock i).any (occursIn marker)

/-- Puts a marker above a line, as far from the margin as that line. The declarations from line
`first` on move down. There is no answer when there is no such line. -/
def put? (b : SourceBuffer) (line first : Nat) (marker : Text) : Option SourceBuffer :=
  b.lines[line]?.map fun target =>
    { lines := b.lines.insertIdx line (indent target ++ marker)
      properties := b.properties.map fun (name, i) => (name, if first ≤ i then i + 1 else i)
      inserted := b.inserted ++ [marker] }

/-- Puts a marker above line `i`, if there is one. -/
def insertAbove (b : SourceBuffer) (i : Nat) (marker : Text) : SourceBuffer :=
  (b.put? i i marker).getD b

/-- The line that an index means. A negative index counts from the end. -/
def position? (b : SourceBuffer) (i : Int) : Option Nat :=
  let count := b.lines.length
  if 0 ≤ i ∧ i < count then some i.toNat
  else if i < 0 ∧ 0 ≤ i + count then some (i + count).toNat
  else none

/-- The attribute block above an index, as long as the index is not beyond the end. -/
def attributeBlockAt? (b : SourceBuffer) (i : Int) : Option (List Text) :=
  if i ≤ b.lines.length then some (b.attributeBlock i.toNat) else none

def hasMarkerAboveAt? (b : SourceBuffer) (i : Int) (marker : Text) : Option Bool :=
  (b.attributeBlockAt? i).map (·.any (occursIn marker))

/-- Puts a marker above the line that an index means. The declarations from that index on move down,
and for a negative index those are all. -/
def insertAboveAt? (b : SourceBuffer) (i : Int) (marker : Text) : Option SourceBuffer :=
  (b.position? i).bind fun line => b.put? line i.toNat marker

end SourceBuffer
end MappingMarkers
