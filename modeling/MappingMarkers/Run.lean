import MappingMarkers.Attribute
import MappingMarkers.Catalog.ColumnCheck
import MappingMarkers.Catalog.Injection
import MappingMarkers.FileReport
import MappingMarkers.Files.Source

/-!
The two runs over a directory: putting markers into copies of the source files, and checking the
columns that the files map. A fault in one file ends neither the first run nor the file itself; the
second run ends with the first fault.
-/

namespace MappingMarkers

open Text Catalog

/-- What a run works on, and its log. -/
structure Workspace where
  tree : Files.Tree
  session : Session
  log : List LogEntry := []
  deriving DecidableEq

def Workspace.note (w : Workspace) (entries : List LogEntry) : Workspace :=
  { w with log := w.log ++ entries }

namespace Run

def logSource : Text := "annotator.pipeline".toList

def entry (level : LogLevel) (message : Text) : LogEntry :=
  { level, source := logSource, message }

/-- What is found out about a source file before anything is written. -/
inductive Examination where
  | noTable
  | failed (table : Option Text) (fault : Fault)
  | unchanged (table : Text)
  | ready (table : Text) (copy : Files.Path) (injection : Injection)
  deriving DecidableEq

def keyless (path : Files.Path) (schema table : Text) (keys : TableKeys Cell) : List LogEntry :=
  if keys.isEmpty then
    [entry .warning
      (path.name ++ ": no keys found for ".toList ++ schema ++ ['.'] ++ table)]
  else []

/-- Reads a source file and the keys of its table, and puts the markers in. -/
def examine (s : Settings) (schema : Text) (path : Files.Path) (w : Workspace) :
    Examination × Workspace :=
  match Files.readSource w.tree path.text with
  | .error f => (.failed none f, w)
  | .ok content =>
      match Attribute.tableName? content with
      | none => (.noTable, w)
      | some table =>
          match loadKeys schema table w.session with
          | (.error f, session) => (.failed (some table) f, { w with session })
          | (.ok keys, session) =>
              let (injected, log) := injectKeys content keys
              let w := Workspace.note { w with session }
                (loaded schema keys :: keyless path schema table keys ++ log)
              match injected with
              | .error f => (.failed (some table) f, w)
              | .ok injection =>
                  if injection.changed then
                    match s.outputPath path with
                    | .error e => (.failed (some table) (.name e), w)
                    | .ok copy => (.ready table copy injection, w)
                  else (.unchanged table, w)

def fail (path : Files.Path) (table : Option Text) (fault : Fault) (w : Workspace) :
    FileReport × Workspace :=
  ({ path, table, outcome := .failed fault },
    w.note [entry .error
      ("Failed to annotate ".toList ++ path.name ++ ": ".toList ++ fault.message)])

def annotateFile (s : Settings) (schema : Text) (path : Files.Path) (w : Workspace) :
    FileReport × Workspace :=
  match examine s schema path w with
  | (.noTable, w) => ({ path, table := none, outcome := .noTable }, w)
  | (.failed table f, w) => fail path table f w
  | (.unchanged table, w) => ({ path, table := some table, outcome := .unchanged }, w)
  | (.ready table copy injection, w) =>
      let count := ofNat injection.inserted.length
      if s.dryRun then
        ({ path, table := some table, outcome := .dryRun copy },
          w.note [entry .info
            ("Dry-run: ".toList ++ path.name ++ " would get ".toList ++ count ++
              " marker(s)".toList)])
      else
        match Files.writeCopy w.tree path injection.text s with
        | .error f => fail path (some table) f w
        | .ok (copy, tree) =>
            ({ path, table := some table, outcome := .written copy },
              Workspace.note { w with tree }
                [entry .info
                  ("Wrote ".toList ++ copy.text ++ " (".toList ++ count ++
                    " marker(s))".toList)])

/-- Goes through the source files one after the other. -/
def annotateEach (s : Settings) (schema : Text) :
    List Files.Path → Workspace → List FileReport × Workspace
  | [], w => ([], w)
  | path :: paths, w =>
      let (report, w) := annotateFile s schema path w
      let (reports, w) := annotateEach s schema paths w
      (report :: reports, w)

def annotate (s : Settings) (root schema : Text) (w : Workspace) :
    Except Fault (List FileReport) × Workspace :=
  match Files.sources w.tree (.parse root) s with
  | .error f => (.error f, w)
  | .ok [] =>
      (.ok [], w.note [entry .warning
        ("No files ending with '".toList ++ s.fileSuffix ++ "' found under ".toList ++ root)])
  | .ok paths =>
      let w := w.note [entry .info
        ("Found ".toList ++ ofNat paths.length ++ " candidate file(s) under ".toList ++ root)]
      let (reports, w) := annotateEach s schema paths w
      (.ok reports, w)

def checkSource : Text := "annotator.discovery.column_check".toList

def checkEntry (path : Files.Path) : Option TableCheck → List LogEntry
  | none =>
      [{ level := .debug, source := checkSource
         message := path.name ++ " has no [Table]; not checked".toList }]
  | some c =>
      if c.ok then [] else [{ level := .warning, source := checkSource, message := c.text }]

/-- Checks source files one after the other, as far as the first fault. -/
def checkEach (tree : Files.Tree) (exactNames : Bool) (schema : Option Text) :
    List Files.Path → CheckSession → Except Fault (List TableCheck) × CheckSession × List LogEntry
  | [], c => (.ok [], c, [])
  | path :: paths, c =>
      match Files.readSource tree path.text with
      | .error f => (.error f, c, [])
      | .ok content =>
          match c.check exactNames content path.name schema with
          | (.error f, c) => (.error f, c, [])
          | (.ok outcome, c) =>
              let (others, c, log) := checkEach tree exactNames schema paths c
              (others.map (outcome.toList ++ ·), c, checkEntry path outcome ++ log)

def check (s : Settings) (root : Text) (schema : Option Text) (w : Workspace) :
    Except Fault (List TableCheck) × Workspace :=
  match Files.sources w.tree (.parse root) s with
  | .error f => (.error f, w)
  | .ok paths =>
      let (outcome, c, log) :=
        checkEach w.tree s.exactNames schema paths { session := w.session }
      (outcome, Workspace.note { w with session := c.session } log)

end Run
end MappingMarkers
