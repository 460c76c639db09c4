import MappingMarkers.Text.Basic
import MappingMarkers.Text.CaseTable
import MappingMarkers.Text.LetterTable

namespace MappingMarkers.Text

/-- The form of a character beyond ASCII in one case: its expansion, else the image of its run, else
itself. -/
def mapCase (expansions : List (Nat × List Nat)) (runs : List CaseRun) (c : Char) : Text :=
  match expansions.lookup c.toNat with
  | some form => form.map Char.ofNat
  | none =>
      match runs.findSome? (·.image? c.toNat) with
      | some image => [Char.ofNat image]
      | none => [c]

def capital (c : Char) : Text :=
  if c.toNat < 128 then [c.toUpper] else mapCase capitalExpansions capitalRuns c

/-- The small form of a character, taken by itself. -/
def small (c : Char) : Text :=
  if c.toNat < 128 then [c.toLower] else mapCase smallExpansions smallRuns c

def upper (t : Text) : Text := t.flatMap capital

def isCased (c : Char) : Bool := inRanges casedRanges c

def isPassedOver (c : Char) : Bool := inRanges passedOverRanges c

/-- Whether the first character that is not passed over is a letter with case. -/
def startsCased (t : Text) : Bool := (t.find? fun c => !isPassedOver c).any isCased

/-- The small form of a text that follows a letter with case (`cased`) or does not. A sigma that
ends a word, with a letter before it and none after it, is a final one. -/
def lowerAfter (cased : Bool) : Text → Text
  | [] => []
  | c :: cs =>
      let form := if c = 'Σ' then [if cased && !startsCased cs then 'ς' else 'σ'] else small c
      form ++ lowerAfter (if isPassedOver c then cased else isCased c) cs

def lower (t : Text) : Text := lowerAfter false t

/-- Whether the character is the given small ASCII letter, its capital, or the long form of `s`. -/
def isLetter (letter c : Char) : Bool :=
  c == letter || c == letter.toUpper || (letter == 's' && c == 'ſ')

/-- What follows a word in a text that begins with it, whatever the case of its letters. The word is
given in small ASCII letters. -/
def afterWord? : (word : Text) → Text → Option Text
  | [], t => some t
  | _ :: _, [] => none
  | w :: ws, c :: cs => if isLetter w c then afterWord? ws cs else none

end MappingMarkers.Text
