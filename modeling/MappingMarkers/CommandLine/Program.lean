import MappingMarkers.Catalog.Connection
import MappingMarkers.CommandLine.Arguments
import MappingMarkers.Run

namespace MappingMarkers.CommandLine

open Text Catalog

/-- A piece of what is printed for errors: an entry of the log, or a text. -/
inductive Report where
  | entry (e : LogEntry)
  | text (t : Text)
  deriving DecidableEq

/-- What the program finds around it: the environment, the files, and the database, which refuses
the connection, or answers, and may fail to close. -/
structure Surroundings where
  environment : Environment
  tree : Files.Tree
  replies : List Reply
  refusal : Option DriverError
  closingError : Option DriverError
  deriving DecidableEq

/-- How a program has ended: with an exit code or a fault, with what it printed, and what it left.
-/
structure Ending where
  exit : Except Fault Nat
  output : Text := []
  reports : List Report := []
  tree : Files.Tree
  session : Session

/-- The printed errors. Log entries below `level` are left out, and the others are stamped. -/
def Ending.errors (e : Ending) (level : LogLevel) (stamp : Text) : Text :=
  e.reports.flatMap fun
    | .text t => t
    | .entry entry => if entry.reaches level then stamp ++ [' '] ++ entry.text ++ ['\n'] else []

def Surroundings.session (s : Surroundings) : Session := { replies := s.replies }

/-- An ending before any connection. -/
def Surroundings.idle (s : Surroundings) (exit : Except Fault Nat) : Ending :=
  { exit, tree := s.tree, session := s.session }

def line (t : Text) : Text := t ++ ['\n']

def errorLine (t : Text) : Report := .text (line ("ERROR: ".toList ++ t))

/-- The settings of the environment, with those of the command line before them. -/
def settings (env : Environment) (a : Arguments) : Except Fault Settings := do
  let s ← Settings.load env {}
  return { s with
    fileSuffix := (a.suffix.filter (!·.isEmpty)).getD s.fileSuffix
    dryRun := a.dryRun || s.dryRun }

/-- The credentials: the connection string of the command line, else the environment. -/
def credentials (env : Environment) (a : Arguments) : Except Text Credentials :=
  match a.conn.filter (!·.isEmpty) with
  | some t =>
      match Credentials.parse? t with
      | some c => .ok c
      | none => .error Fault.connectString.message
  | none =>
      let value (key : Text) : Text := (env.lookup key).getD []
      let keys := ["DB_DSN".toList, "DB_USER".toList, "DB_PASSWORD".toList]
      let missing := keys.filter fun key => (value key).isEmpty
      if missing.isEmpty then
        .ok { dsn := value "DB_DSN".toList, user := value "DB_USER".toList,
              password := value "DB_PASSWORD".toList }
      else
        .error ("No --conn given and missing environment variable(s): ".toList ++
          joined ", ".toList missing)

def closingEntry (e : DriverError) : LogEntry :=
  { level := .warning, source := "dto_annotator".toList
    message := "Error closing connection: ".toList ++ e.message }

/-- What is left to be done with an open connection: the exit code, what is printed, what is
reported before the connection is closed and after it, and the workspace in the end. -/
structure Work where
  exit : Except Fault Nat
  output : Text := []
  before : List Report := []
  after : List Report := []
  workspace : Workspace

def annotateWork (s : Settings) (a : Arguments) (w : Workspace) : Work :=
  match Run.annotate s a.rootDir (a.schema.getD []) w with
  | (.error f, w) => { exit := .error f, workspace := w }
  | (.ok [], w) =>
      { exit := .ok 0, workspace := w
        output := line ("No files ending with '".toList ++ s.fileSuffix ++ "' found in ".toList ++
          a.rootDir ++ ['.']) }
  | (.ok reports, w) =>
      { exit := .ok 0, workspace := w
        output := "\nSummary:\n".toList ++
          reports.flatMap fun r => line ("- ".toList ++ r.text) }

def checkWork (s : Settings) (a : Arguments) (w : Workspace) : Work :=
  match Run.check s a.rootDir a.schema w with
  | (.error (.failure f), w) =>
      { exit := .ok 2, before := [errorLine f.message], workspace := w }
  | (.error f, w) => { exit := .error f, workspace := w }
  | (.ok checks, w) =>
      let output := checks.flatMap fun c => line c.text
      match if a.strict then requireAll checks else .ok () with
      | .ok () => { exit := .ok 0, output, workspace := w }
      | .error f => { exit := .ok 1, output, after := [.text (line f.message)], workspace := w }

/-- Does the work of a command on an open connection, and closes it whatever comes of the work. -/
def work (settings : Settings) (a : Arguments) (c : Credentials) (s : Surroundings)
    (session : Session) : Ending :=
  let w : Workspace := { tree := s.tree, session, log := [connectedEntry c] }
  let done :=
    match a.command with
    | .annotate => annotateWork settings a w
    | .check => checkWork settings a w
  { exit := done.exit
    output := done.output
    reports := done.workspace.log.map .entry ++ done.before ++
      s.closingError.toList.map (fun e => .entry (closingEntry e)) ++ done.after
    tree := done.workspace.tree
    session := done.workspace.session.record .disconnected }

def perform (a : Arguments) (s : Surroundings) : Ending :=
  match settings s.environment a with
  | .error f => s.idle (.error f)
  | .ok settings =>
      match credentials s.environment a with
      | .error message => { s.idle (.ok 2) with reports := [errorLine message] }
      | .ok c =>
          match connect c settings.callTimeout s.refusal s.session with
          | (.ok (), session) => work settings a c s session
          | (.error (.failure f), session) =>
              { s.idle (.ok 2) with reports := [errorLine f.message], session }
          | (.error f, session) => { s.idle (.error f) with session }

def level (args : List Text) : LogLevel :=
  match parse args with
  | .ok a => if a.verbose then .debug else .info
  | .error _ => .info

def run (args : List Text) (s : Surroundings) : Ending :=
  match parse args with
  | .ok a => perform a s
  | .error (.help t) => { s.idle (.ok 0) with output := t }
  | .error (.misuse t) => { s.idle (.ok 2) with reports := [.text t] }

end MappingMarkers.CommandLine
