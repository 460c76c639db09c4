import MappingMarkers.CommandLine.Options

namespace MappingMarkers.CommandLine

open Text

inductive Command where
  | annotate
  | check
  deriving DecidableEq

/-- The options of the tool and of its commands. -/
inductive Key where
  | help
  | verbose
  | rootDir
  | suffix
  | conn
  | schema
  | dryRun
  | strict
  deriving DecidableEq

structure Arguments where
  command : Command
  verbose : Bool
  rootDir : Text
  suffix : Option Text
  conn : Option Text
  schema : Option Text
  dryRun : Bool
  strict : Bool
  deriving DecidableEq

/-- The answer to a command line that asks for no work. -/
inductive Dismissal where
  | help (text : Text)
  | misuse (text : Text)
  deriving DecidableEq

def Command.name : Command → Text
  | .annotate => "annotate".toList
  | .check => "check".toList

def commands : List Command := [.annotate, .check]

def program : Text := "dto-annotator".toList

def page (lines : List String) : Text := lines.flatMap fun line => line.toList ++ ['\n']

def usage : Text := page ["usage: dto-annotator [-h] [--verbose] \x7bannotate,check\x7d ..."]

def help : Text :=
  usage ++ page [
    "",
    "Inject [PrimaryKey]/[Column]/[Association] into C# DTOs and save as *.novo.cs",
    "",
    "positional arguments:",
    "  \x7bannotate,check\x7d",
    "    annotate        Inject markers into DTO copies",
    "    check           Check mapped columns exist in Oracle",
    "",
    "options:",
    "  -h, --help        show this help message and exit",
    "  --verbose, -v",
    "",
    "Credentials come from --conn or from DB_DSN, DB_USER, DB_PASSWORD (environment",
    "or .env file)."]

def Command.usage : Command → Text
  | .annotate => page [
      "usage: dto-annotator annotate [-h] --root-dir ROOT_DIR [--suffix SUFFIX]",
      "                              [--conn CONN] --schema SCHEMA [--dry-run]"]
  | .check => page [
      "usage: dto-annotator check [-h] --root-dir ROOT_DIR [--suffix SUFFIX]",
      "                           [--conn CONN] [--schema SCHEMA] [--strict]"]

def Command.help : Command → Text
  | .annotate =>
      Command.usage .annotate ++ page [
        "",
        "options:",
        "  -h, --help           show this help message and exit",
        "  --root-dir ROOT_DIR  Root directory to scan",
        "  --suffix SUFFIX      File-name suffix to include (default: DTO.cs)",
        "  --conn CONN          Oracle connection string user/password@dsn",
        "  --schema SCHEMA      Oracle schema/owner",
        "  --dry-run            Don't write files, only report"]
  | .check =>
      Command.usage .check ++ page [
        "",
        "options:",
        "  -h, --help           show this help message and exit",
        "  --root-dir ROOT_DIR  Root directory to scan",
        "  --suffix SUFFIX      File-name suffix to include (default: DTO.cs)",
        "  --conn CONN          Oracle connection string user/password@dsn",
        "  --schema SCHEMA      Oracle schema/owner (default: [Table] Schema, then",
        "                       session user)",
        "  --strict             Exit 1 if any mapped column is missing"]

def helpOption : OptionSpec Key := { key := .help, names := ["-h".toList, "--help".toList] }

/-- The options in front of the command. -/
def options : List (OptionSpec Key) :=
  [helpOption, { key := .verbose, names := ["--verbose".toList, "-v".toList] }]

def Command.options (c : Command) : List (OptionSpec Key) :=
  [helpOption,
    { key := .rootDir, names := ["--root-dir".toList], takesValue := true, required := true },
    { key := .suffix, names := ["--suffix".toList], takesValue := true },
    { key := .conn, names := ["--conn".toList], takesValue := true }] ++
  match c with
  | .annotate =>
      [{ key := .schema, names := ["--schema".toList], takesValue := true, required := true },
        { key := .dryRun, names := ["--dry-run".toList] }]
  | .check =>
      [{ key := .schema, names := ["--schema".toList], takesValue := true },
        { key := .strict, names := ["--strict".toList] }]

/-- The answer to a misuse: the usage, and what is wrong. -/
def misuse (usage program message : Text) : Dismissal :=
  .misuse (usage ++ program ++ ": error: ".toList ++ message ++ ['\n'])

def Command.misuse (c : Command) (message : Text) : Dismissal :=
  CommandLine.misuse c.usage (program ++ [' '] ++ c.name) message

def given (values : List (Key × Text)) (key : Key) : Bool := values.any (·.1 = key)

/-- The value of an option; of several ones the last. -/
def value? (values : List (Key × Text)) (key : Key) : Option Text := values.reverse.lookup key

/-- Reads the arguments behind a command: what they ask for, and those that belong to no option. -/
def Command.parse (c : Command) (verbose : Bool) (args : List Text) :
    Except Dismissal (Arguments × List Text) := do
  let sorted ← (readArguments c.options (· = .help) false args).mapError c.misuse
  if given sorted.values .help then throw (.help c.help)
  match missing? c.options sorted.values with
  | some message => throw (c.misuse message)
  | none =>
      let value? := value? sorted.values
      return (
        { command := c, verbose, rootDir := (value? .rootDir).getD [], suffix := value? .suffix,
          conn := value? .conn, schema := value? .schema, dryRun := given sorted.values .dryRun,
          strict := given sorted.values .strict },
        sorted.extras)

/-- Reads the arguments of a command line. -/
def parse (args : List Text) : Except Dismissal Arguments := do
  let misuse := misuse usage program
  let sorted ← (readArguments options (· = .help) true args).mapError misuse
  if given sorted.values .help then throw (.help help)
  match sorted.command with
  | none | some [] => throw (misuse "the following arguments are required: command".toList)
  | some (name :: args) =>
      match commands.find? (·.name = name) with
      | none =>
          throw (misuse ("argument command: invalid choice: ".toList ++ quoted name ++
            " (choose from ".toList ++
            joined ", ".toList (commands.map fun c => quoted c.name) ++ [')']))
      | some c =>
          let (arguments, extras) ← c.parse (given sorted.values .verbose) args
          let extras := sorted.extras ++ extras
          if extras.isEmpty then return arguments
          else throw (misuse ("unrecognized arguments: ".toList ++ joined [' '] extras))

end MappingMarkers.CommandLine
