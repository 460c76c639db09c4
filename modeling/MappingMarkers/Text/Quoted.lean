import MappingMarkers.Text.Basic
import MappingMarkers.Text.UnprintableTable

namespace MappingMarkers.Text

/-- The last `width` hexadecimal digits of a number, in small letters. -/
def hex (width n : Nat) : Text :=
  let digits := Nat.toDigits 16 n
  List.replicate (width - digits.length) '0' ++ digits

def isPrintable (c : Char) : Bool := !inRanges unprintableRanges c

/-- A character inside quotes: the quote and the backslash after a backslash, the common controls by
their letter, anything else that cannot be printed by its code point. -/
def escaped (quote c : Char) : Text :=
  let n := c.toNat
  if c = quote ∨ c = '\\' then ['\\', c]
  else if c = '\t' then ['\\', 't']
  else if c = '\n' then ['\\', 'n']
  else if c = '\r' then ['\\', 'r']
  else if 32 ≤ n ∧ isPrintable c then [c]
  else if n ≤ 0xFF then ['\\', 'x'] ++ hex 2 n
  else if n ≤ 0xFFFF then ['\\', 'u'] ++ hex 4 n
  else ['\\', 'U'] ++ hex 8 n

/-- The text between single quotes, or between double quotes when it holds single ones only. -/
def quoted (t : Text) : Text :=
  let quote := if t.contains '\'' && !t.contains '"' then '"' else '\''
  quote :: t.flatMap (escaped quote) ++ [quote]

end MappingMarkers.Text
