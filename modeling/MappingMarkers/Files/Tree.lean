import MappingMarkers.Files.Path
import MappingMarkers.Text.Utf8

/-!
A tree of files, directories and symbolic links, and what the operating system answers about paths.
A path that begins with a slash starts at the root of the tree, and any other one at the working
directory.
-/

namespace MappingMarkers.Files

open Text

/-- What a name in a directory stands for. -/
inductive Entry where
  | file (bytes : List UInt8)
  | directory
  | link (target : Text)
  deriving DecidableEq

/-- The entries of a tree, each under the names that lead to it from the root through directories,
and the names of the working directory. -/
structure Tree where
  entries : List (List Text × Entry)
  home : List Text := []
  deriving DecidableEq

/-- The answers of the operating system that stand for an error. -/
inductive SystemCode where
  | noEntry
  | notDirectory
  | isDirectory
  | nameTooLong
  | linkLoop
  deriving DecidableEq

namespace SystemCode

def number : SystemCode → Nat
  | noEntry => 2
  | notDirectory => 20
  | isDirectory => 21
  | nameTooLong => 36
  | linkLoop => 40

def description : SystemCode → Text
  | noEntry => "No such file or directory".toList
  | notDirectory => "Not a directory".toList
  | isDirectory => "Is a directory".toList
  | nameTooLong => "File name too long".toList
  | linkLoop => "Too many levels of symbolic links".toList

/-- Whether the code only says that there is nothing to be found at a path. -/
def isAbsence : SystemCode → Bool
  | noEntry | notDirectory | linkLoop => true
  | isDirectory | nameTooLong => false

end SystemCode

/-- Why a path cannot be used. -/
inductive AccessError where
  | system (code : SystemCode) (path : Text)
  /-- The path holds the character that ends a path inside the operating system. -/
  | nul
  deriving DecidableEq

def AccessError.message : AccessError → Text
  | .system code path =>
      "[Errno ".toList ++ ofNat code.number ++ "] ".toList ++ code.description ++ ": ".toList ++
        quoted path
  | .nul => "embedded null byte".toList

namespace Tree

def empty : Tree := { entries := [] }

/-- What stands under names from the root. The working directory is there, and so is all that is
above it. -/
def find? (t : Tree) (names : List Text) : Option Entry :=
  if names <+: t.home then some .directory else t.entries.lookup names

def children (t : Tree) (directory : List Text) : List Text :=
  t.entries.filterMap fun (names, _) =>
    if names.dropLast = directory then names.getLast? else none

/-- The tree with an entry put in, in place of what stood there. -/
def set (t : Tree) (names : List Text) (entry : Entry) : Tree :=
  if (t.entries.lookup names).isSome then
    { t with entries := t.entries.map fun e => if e.1 = names then (names, entry) else e }
  else { t with entries := t.entries ++ [(names, entry)] }

/-- The tree without an entry and all that lies below it. -/
def remove (t : Tree) (names : List Text) : Tree :=
  { t with entries := t.entries.filter fun e => !names.isPrefixOf e.1 }

/-- The most bytes in one name. -/
def nameLimit : Nat := 255

/-- The most bytes in a path. -/
def pathLimit : Nat := 4095

/-- The most links that are followed on the way along one path. -/
def linkLimit : Nat := 40

/-- A place that is there, by the names that lead to it from the root. -/
structure Location where
  inside ::
  names : List Text
  deriving DecidableEq

/-- The root is above itself. -/
def Location.parent (l : Location) : Location := inside l.names.dropLast

def entry? (t : Tree) (l : Location) : Option Entry := t.find? l.names

/-- Where a path leads. -/
inductive Place where
  /-- To something that is no link. -/
  | occupied (l : Location)
  /-- To a free name in a directory of the tree. -/
  | vacant (names : List Text)
  deriving DecidableEq

def startOf (path : Text) (here : Location) : Location :=
  if path.head? = some '/' then .inside [] else here

/-- Walks from a location along names. A link on the way is followed, also at the end, as long as
`links` are left; an empty name and a single dot stay where they are, which has to be a directory.
-/
def walk (t : Tree) (links : Nat) (here : Location) : List Text → Except SystemCode Place
  | [] => .ok (.occupied here)
  | name :: rest =>
      if t.entry? here ≠ some .directory then .error .notDirectory
      else if name = [] ∨ name = ['.'] then t.walk links here rest
      else if name = ['.', '.'] then t.walk links here.parent rest
      else if nameLimit < (Utf8.encode name).length then .error .nameTooLong
      else
        match t.find? (here.names ++ [name]) with
        | none => if rest.isEmpty then .ok (.vacant (here.names ++ [name])) else .error .noEntry
        | some (.link target) =>
            match links with
            | 0 => .error .linkLoop
            | links + 1 => t.walk links (startOf target here) (target.splitOn '/' ++ rest)
        | some _ => t.walk links (.inside (here.names ++ [name])) rest
termination_by names => (links, names.length)

def locate (t : Tree) (path : Text) : Except AccessError Place :=
  if path.contains '\x00' then .error .nul
  else if pathLimit < (Utf8.encode path).length then .error (.system .nameTooLong path)
  else if path.isEmpty then .error (.system .noEntry path)
  else
    (t.walk linkLimit (startOf path (.inside t.home)) (path.splitOn '/')).mapError (.system · path)

/-- What a path leads to, and where it is. -/
def entryAt (t : Tree) (path : Text) : Except AccessError (Location × Entry) := do
  match ← t.locate path with
  | .vacant _ => .error (.system .noEntry path)
  | .occupied l =>
      match t.entry? l with
      | some entry => return (l, entry)
      | none => .error (.system .noEntry path)

/-- Whether a path leads to an entry of which the condition holds. That nothing is found is no
error. -/
def holdsAt (t : Tree) (path : Text) (condition : Entry → Bool) : Except AccessError Bool :=
  match t.entryAt path with
  | .ok (_, entry) => .ok (condition entry)
  | .error .nul => .ok false
  | .error (.system code p) => if code.isAbsence then .ok false else .error (.system code p)

def exists? (t : Tree) (path : Text) : Except AccessError Bool := t.holdsAt path fun _ => true

def isDirectory (t : Tree) (path : Text) : Except AccessError Bool :=
  t.holdsAt path (· == .directory)

def isFile (t : Tree) (path : Text) : Except AccessError Bool :=
  t.holdsAt path fun
    | .file _ => true
    | _ => false

def read (t : Tree) (path : Text) : Except AccessError (List UInt8) := do
  match ← t.entryAt path with
  | (_, .file bytes) => return bytes
  | _ => .error (.system .isDirectory path)

/-- The tree after a file was written at a path. A file that is there gets the new bytes. -/
def write (t : Tree) (path : Text) (bytes : List UInt8) : Except AccessError Tree := do
  match ← t.locate path with
  | .vacant names => return t.set names (.file bytes)
  | .occupied l =>
      if t.entry? l = some .directory then .error (.system .isDirectory path)
      else return t.set l.names (.file bytes)

end Tree
end MappingMarkers.Files
