namespace MappingMarkers

/-- A text, one character after the other. -/
abbrev Text := List Char

namespace Text

/-- White space: the horizontal, vertical and paragraph separators of Unicode, the line controls and
the four information separators. The zero-width space and the byte order mark are not blank. -/
def isBlank (c : Char) : Bool :=
  let n := c.toNat
  (9 ≤ n && n ≤ 13) || (28 ≤ n && n ≤ 32) || n == 0x85 || n == 0xA0 || n == 0x1680 ||
    (0x2000 ≤ n && n ≤ 0x200A) || n == 0x2028 || n == 0x2029 || n == 0x202F || n == 0x205F ||
    n == 0x3000

def skipBlanks (t : Text) : Text := t.dropWhile isBlank

def indent (t : Text) : Text := t.takeWhile isBlank

/-- What follows the leading white space of a text that has some. -/
def afterBlanks? : Text → Option Text
  | [] => none
  | c :: cs => if isBlank c then some (skipBlanks cs) else none

/-- What follows `head` in a text that begins with it. -/
def after? : (head : Text) → Text → Option Text
  | [], t => some t
  | _ :: _, [] => none
  | h :: hs, c :: cs => if h = c then after? hs cs else none

/-- The first answer of a reader that is tried at every place of the text, from the left. -/
def findFirst? {α : Type} (read? : Text → Option α) : Text → Option α
  | [] => read? []
  | c :: cs => (read? (c :: cs)).or (findFirst? read? cs)

/-- Whether `piece` stands somewhere in the text. -/
def occursIn (piece : Text) : Text → Bool
  | [] => piece.isEmpty
  | c :: cs => piece.isPrefixOf (c :: cs) || occursIn piece cs

/-- The decimal digits of a count. -/
def ofNat (n : Nat) : Text := Nat.toDigits 10 n

def ofInt : Int → Text
  | .ofNat n => ofNat n
  | .negSucc n => '-' :: ofNat (n + 1)

/-- The texts in order, with `separator` between each two of them. -/
def joined (separator : Text) (ts : List Text) : Text := separator.intercalate ts

/-- Dictionary order: whether the first list does not come after the second one. The first place
where they differ decides by the order `le` of the elements, and a list comes before its
extensions. -/
def inOrder {α : Type} [DecidableEq α] (le : α → α → Bool) : List α → List α → Bool
  | [], _ => true
  | _ :: _, [] => false
  | a :: as, b :: bs => if a = b then inOrder le as bs else le a b

/-- Whether `t` does not come after `u` in the dictionary order of their code points. -/
def notAfter (t u : Text) : Bool := inOrder (fun a b => decide (a.toNat ≤ b.toNat)) t u

def sortedSet (ts : List Text) : List Text := ts.eraseDups.mergeSort notAfter

/-- The text before it and the text after it, at the first place where `mark` stands. -/
def cutFirst? (mark : Char) : Text → Option (Text × Text)
  | [] => none
  | c :: cs =>
      if c = mark then some ([], cs)
      else (cutFirst? mark cs).map fun (before, rest) => (c :: before, rest)

/-- The text before it and the text after it, at the last place where `mark` stands. -/
def cutLast? (mark : Char) (t : Text) : Option (Text × Text) :=
  (cutFirst? mark t.reverse).map fun (rest, before) => (before.reverse, rest.reverse)

end Text
end MappingMarkers
