import MappingMarkers.Text.Basic

namespace MappingMarkers.Text

/-- Every carriage return that a line feed follows is dropped. -/
def mergePairs : Text → Text
  | [] => []
  | '\r' :: '\n' :: cs => '\n' :: mergePairs cs
  | c :: cs => c :: mergePairs cs

/-- Every carriage return becomes a line feed. -/
def feedReturns (t : Text) : Text := t.map fun c => if c = '\r' then '\n' else c

/-- The lines of a text, without what ends them; a text with no line end is one line. -/
def splitLines (t : Text) : List Text := (feedReturns (mergePairs t)).splitOn '\n'

def joinLines (lines : List Text) : Text := joined ['\n'] lines

end MappingMarkers.Text
