import MappingMarkers.Text.Quoted

namespace MappingMarkers.Files

open Text

/-- A path. The root is empty in a relative path; elsewhere it is one slash, or exactly two. -/
structure Path where
  root : Text
  parts : List Text
  deriving DecidableEq

/-- Why a path cannot get another name. -/
inductive NameError where
  /-- The path has no name to be replaced. -/
  | noName (path : Path)
  /-- The new name is empty, or it is no name of a single file. -/
  | invalid (name : Text)
  deriving DecidableEq

namespace Path

/-- The names in a text with slashes. -/
def names (t : Text) : List Text := (t.splitOn '/').filter fun n => !n.isEmpty && n != ['.']

def parse (t : Text) : Path :=
  let slashes := (t.takeWhile (· == '/')).length
  let root := if slashes = 0 then [] else if slashes = 2 then ['/', '/'] else ['/']
  { root, parts := names t }

def text (p : Path) : Text :=
  if p.root.isEmpty && p.parts.isEmpty then ['.'] else p.root ++ joined ['/'] p.parts

def name (p : Path) : Text := p.parts.getLast?.getD []

/-- A name before and after its last dot, if the dot is neither the first nor the last character. -/
def splitName? (name : Text) : Option (Text × Text) :=
  (cutLast? '.' name).filter fun (stem, rest) => !stem.isEmpty && !rest.isEmpty

def stem (p : Path) : Text :=
  match splitName? p.name with
  | some (stem, _) => stem
  | none => p.name

def suffix (p : Path) : Text :=
  match splitName? p.name with
  | some (_, rest) => '.' :: rest
  | none => []

def child (p : Path) (name : Text) : Path := { p with parts := p.parts ++ [name] }

/-- The text of a path to an entry of the directory at `p`, as it is asked for when the directory is
listed: also the current directory is named. -/
def entryText (p : Path) (name : Text) : Text :=
  if p.text.getLast? = some '/' then p.text ++ name else p.text ++ '/' :: name

def sortKey (p : Path) : List Text := if p.root.isEmpty then p.parts else p.root :: p.parts

/-- Whether the text can stand as the name of a path. -/
def isName (name : Text) : Bool :=
  let p := parse name
  p.root.isEmpty && p.parts.length == 1 && name.getLast? != some '/'

def withName (p : Path) (name : Text) : Except NameError Path :=
  if p.name.isEmpty then .error (.noName p)
  else if isName name then .ok { p with parts := p.parts.dropLast ++ [name] }
  else .error (.invalid name)

end Path

def NameError.message : NameError → Text
  | .noName p => "PosixPath(".toList ++ quoted p.text ++ ") has an empty name".toList
  | .invalid name => "Invalid name ".toList ++ quoted name

end MappingMarkers.Files
