namespace MappingMarkers.Text

/-- The code points from the first bound to the second, both included. -/
abbrev CodeRange := Nat × Nat

/-- Whether the character's code point lies in one of the ranges. -/
def inRanges (ranges : List CodeRange) (c : Char) : Bool :=
  ranges.any fun r => r.1 ≤ c.toNat && c.toNat ≤ r.2

end MappingMarkers.Text
