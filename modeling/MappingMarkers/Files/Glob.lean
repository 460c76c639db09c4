import MappingMarkers.Files.Tree

/-!
Patterns for file names, and the paths below a directory that a row of patterns selects. A star
stands for any characters, a question mark for one, brackets for one of a set; two stars by
themselves stand for any number of directories.
-/

namespace MappingMarkers.Files.Glob

open Text

/-- One piece of a name pattern. A set is given by its ranges of characters. -/
inductive Piece where
  | star
  | any
  | char (c : Char)
  | set (negated : Bool) (ranges : List (Char × Char))
  deriving DecidableEq

/-- The text up to the bracket that closes a set, and what follows that bracket. A bracket that
comes first, also after an exclamation mark, is a member of the set. -/
def setBody? (t : Text) : Option (Text × Text) :=
  let (mark, t) := if t.head? = some '!' then (['!'], t.tail) else ([], t)
  let (first, t) := if t.head? = some ']' then ([']'], t.tail) else ([], t)
  match t.dropWhile (· != ']') with
  | [] => none
  | _ :: rest => some (mark ++ first ++ t.takeWhile (· != ']'), rest)

/-- Cuts a set at the hyphens that stand between the ends of ranges: those with at least `least`
characters before them, and after a cut with at least two. A hyphen at the end is a member. -/
def cutRanges (least : Nat) (chunk : Text) : Text → List Text
  | [] => [chunk]
  | c :: cs =>
      if c = '-' ∧ least ≤ chunk.length then
        if cs.isEmpty then [chunk ++ ['-']] else chunk :: cutRanges 2 [] cs
      else cutRanges least (chunk ++ [c]) cs

/-- Drops the ranges that end before they start, from the last one to the first. -/
def dropEmptyRanges : List Text → List Text
  | [] => []
  | chunk :: chunks =>
      match dropEmptyRanges chunks with
      | [] => [chunk]
      | next :: rest =>
          match chunk.getLast?, next.head? with
          | some low, some high =>
              if high < low then (chunk.dropLast ++ next.tail) :: rest else chunk :: next :: rest
          | _, _ => chunk :: next :: rest

/-- The ranges of a set that was cut: the end of one chunk and the start of the next make a range,
and any other character is a range of its own. -/
def rangesOf : List Text → List (Char × Char)
  | [] => []
  | [chunk] => chunk.map fun c => (c, c)
  | chunk :: next :: rest =>
      match chunk.getLast?, next with
      | some low, high :: others =>
          chunk.dropLast.map (fun c => (c, c)) ++ (low, high) :: rangesOf (others :: rest)
      | _, _ => ('-', '-') :: rangesOf (next :: rest)
termination_by chunks => chunks.length

def setPiece (body : Text) : Piece :=
  let least := if body.head? = some '!' then 2 else 1
  match dropEmptyRanges (cutRanges least [] body) with
  | ('!' :: chunk) :: chunks => .set true (rangesOf (chunk :: chunks))
  | chunks => .set false (rangesOf chunks)

/-- The pieces of a name pattern. A bracket that is never closed is a character like any other. -/
def pieces : Nat → Text → List Piece
  | 0, _ => []
  | _ + 1, [] => []
  | fuel + 1, '*' :: cs => .star :: pieces fuel cs
  | fuel + 1, '?' :: cs => .any :: pieces fuel cs
  | fuel + 1, '[' :: cs =>
      match setBody? cs with
      | some (body, rest) => setPiece body :: pieces fuel rest
      | none => .char '[' :: pieces fuel cs
  | fuel + 1, c :: cs => .char c :: pieces fuel cs

/-- Whether one character fits a piece that stands for one. -/
def Piece.admits : Piece → Char → Bool
  | .star, _ => false
  | .any, _ => true
  | .char c, d => c == d
  | .set negated ranges, d => ranges.any (fun (low, high) => low ≤ d && d ≤ high) != negated

/-- Whether a whole name fits a pattern. -/
def fits : List Piece → Text → Bool
  | [], name => name.isEmpty
  | .star :: ps, [] => fits ps []
  | .star :: ps, c :: cs => fits ps (c :: cs) || fits (.star :: ps) cs
  | _ :: _, [] => false
  | p :: ps, c :: cs => p.admits c && fits ps cs
termination_by ps name => ps.length + name.length

/-- One step on the way to a selected path. -/
inductive Component where
  /-- Any number of directories, links not included. -/
  | anyDepth
  | name (name : Text)
  | pattern (pieces : List Piece)
  /-- Nothing further; what was reached has to be a directory. -/
  | stop
  deriving DecidableEq

/-- Whether a text has a character with a meaning in patterns. -/
def isPattern (t : Text) : Bool := t.any fun c => c == '*' || c == '?' || c == '['

/-- The step that a component of a pattern means; `none` when it has two stars next to each other
and something else. -/
def Component.ofText? (t : Text) : Option Component :=
  if t = ['*', '*'] then some .anyDepth
  else if occursIn ['*', '*'] t then none
  else if isPattern t then some (.pattern (pieces t.length t))
  else some (.name t)

/-- The components of a pattern with slashes. -/
def components? (pattern : Text) : Option (List Component) :=
  ((Path.names pattern).mapM Component.ofText?).map fun steps =>
    if pattern.getLast? = some '/' then steps ++ [.stop] else steps

/-- All answers of a search at several places, from the first place to the last. -/
def collect {α β ε : Type} (search : α → Except ε (List β)) (places : List α) : Except ε (List β) :=
  List.flatten <$> places.mapM search

/-- The directory at a path and those below it that are reached without following a link. -/
def directories (t : Tree) (p : Path) : Except AccessError (List Path) := do
  let (top, _) ← t.entryAt p.text
  let deeper := t.entries.filterMap fun (names, entry) =>
    if entry = .directory ∧ top.names.isPrefixOf names ∧ top.names ≠ names then
      some { p with parts := p.parts ++ names.drop top.names.length }
    else none
  return p :: deeper

def list (t : Tree) (p : Path) : Except AccessError (List Text) := do
  let (top, _) ← t.entryAt p.text
  return t.children top.names

/-- The paths that the components select from a path on. Where components follow, only directories
are of use. -/
def select (t : Tree) : List Component → Path → Except AccessError (List Path)
  | [], p => .ok [p]
  | .stop :: _, p => .ok [p]
  | .name n :: rest, p => do
      let next := p.child n
      let found ← if rest.isEmpty then t.exists? next.text else t.isDirectory next.text
      if found then select t rest next else return []
  | .pattern ps :: rest, p => do
      let visit (n : Text) : Except AccessError (List Path) := do
        let enters ← if rest.isEmpty then pure true else t.isDirectory (p.entryText n)
        if enters && fits ps n then select t rest (p.child n) else return []
      collect visit (← list t p)
  | .anyDepth :: rest, p => do
      List.eraseDups <$> collect (select t rest) (← directories t p)

/-- The paths at any depth below a directory that a pattern selects; none when there is no such
directory. -/
def below (t : Tree) (root : Path) (steps : List Component) :
    Except AccessError (List Path) := do
  if ← t.isDirectory root.text then select t (.anyDepth :: steps) root else return []

end MappingMarkers.Files.Glob
