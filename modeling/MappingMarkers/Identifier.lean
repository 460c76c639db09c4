import MappingMarkers.Text.Case

namespace MappingMarkers.Identifier

open Text

/-- Underscores and white space separate the words of a catalog name. -/
def isSeparator (c : Char) : Bool := c == '_' || isBlank c

def words (name : Text) : List Text := (name.splitOnP isSeparator).filter (!·.isEmpty)

/-- A word with a capital in front and small letters behind it. -/
def capitalized : Text → Text
  | [] => []
  | c :: cs => capital c ++ lower cs

/-- The words of a name, each with a capital in front, and nothing between them. -/
def pascal (name : Text) : Text := (words name).flatMap capitalized

def pascalList (names : List Text) : Text := joined [','] (names.map pascal)

end MappingMarkers.Identifier
