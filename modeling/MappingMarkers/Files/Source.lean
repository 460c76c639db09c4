import MappingMarkers.Files.Glob
import MappingMarkers.Settings

namespace MappingMarkers.Files

open Text

/-- The source files below a directory: all files with the given ending except copies, in the order
of their paths. -/
def sources (t : Tree) (root : Path) (s : Settings) : Except Fault (List Path) := do
  let some steps := Glob.components? ('*' :: s.fileSuffix) | throw .pattern
  let selected ← (Glob.below t root steps).mapError .access
  let files ← (selected.filterM fun p => t.isFile p.text).mapError .access
  let sources := files.filter fun p => !s.isGenerated p
  return sources.mergeSort fun p q => inOrder notAfter p.sortKey q.sortKey

def readSource (t : Tree) (path : Text) : Except Fault Text := do
  let bytes ← (t.read path).mapError .access
  (Utf8.decodeFile bytes).mapError .decoding

/-- Writes the copy of a source file, and tells where it is. -/
def writeCopy (t : Tree) (source : Path) (content : Text) (s : Settings) :
    Except Fault (Path × Tree) := do
  let copy ← (s.outputPath source).mapError .name
  match t.write copy.text (Utf8.encode content) with
  | .ok t => return (copy, t)
  | .error .nul => throw (.access .nul)
  | .error e =>
      throw (.failure (.write ("Failed to write annotated copy: ".toList ++ e.message)
        (some copy.text)))

end MappingMarkers.Files
