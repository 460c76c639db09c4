import MappingMarkers.CommandLine.Program

namespace MappingMarkers.Main

def keys : List String :=
  ["FILE_SUFFIX", "OUTPUT_MARKER", "DRY_RUN", "DB_CALL_TIMEOUT_MS", "RESPECT_QUOTED_IDENTIFIERS",
    "DB_DSN", "DB_USER", "DB_PASSWORD"]

def readEnvironment : IO Environment :=
  keys.filterMapM fun key => do
    return (← IO.getEnv key).map fun value => (key.toList, value.toList)

def refusal : Catalog.DriverError :=
  { kind := .operational, message := "this program has no database driver".toList }

end MappingMarkers.Main

open MappingMarkers

def main (args : List String) : IO UInt32 := do
  let args := args.map (·.toList)
  let ending := CommandLine.run args {
    environment := ← Main.readEnvironment
    tree := .empty
    replies := []
    refusal := some Main.refusal
    closingError := none }
  IO.print (String.ofList ending.output)
  IO.eprint (String.ofList (ending.errors (CommandLine.level args) []))
  match ending.exit with
  | .ok code => return code.toUInt32
  | .error fault =>
      IO.eprintln (String.ofList fault.message)
      return 1
