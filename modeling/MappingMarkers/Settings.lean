import MappingMarkers.Fault
import MappingMarkers.Text.Case

namespace MappingMarkers

open Text

abbrev Environment := List (Text × Text)

structure Settings where
  /-- The ending of the names of source files. -/
  fileSuffix : Text
  /-- What a copy's name has before its extension. -/
  outputMarker : Text
  dryRun : Bool
  /-- The time that a statement may take, in milliseconds; zero for no limit. -/
  callTimeout : Int
  /-- Whether names are compared as they are, and not in capitals. -/
  exactNames : Bool
  deriving DecidableEq

/-- The settings that are given, for which the environment is not asked. -/
structure GivenSettings where
  fileSuffix : Option Text := none
  outputMarker : Option Text := none
  dryRun : Option Bool := none
  callTimeout : Option Int := none
  exactNames : Option Bool := none
  deriving DecidableEq

namespace Settings

def defaultSuffix : Text := "DTO.cs".toList

def defaultMarker : Text := ".novo".toList

/-- A variable is a raised flag when it says `true` in any case. -/
def flag (env : Environment) (key : Text) : Bool :=
  (env.lookup key).any fun value => lower value == "true".toList

def load (env : Environment) (given : GivenSettings) : Except Fault Settings := do
  let callTimeout ←
    match given.callTimeout with
    | some t => pure t
    | none =>
        match env.lookup "DB_CALL_TIMEOUT_MS".toList with
        | none => pure 0
        | some value => (readInteger value).mapError .integer
  return {
    fileSuffix := given.fileSuffix.getD
      ((env.lookup "FILE_SUFFIX".toList).getD defaultSuffix)
    outputMarker := given.outputMarker.getD
      ((env.lookup "OUTPUT_MARKER".toList).getD defaultMarker)
    dryRun := given.dryRun.getD (flag env "DRY_RUN".toList)
    callTimeout
    exactNames := given.exactNames.getD (flag env "RESPECT_QUOTED_IDENTIFIERS".toList) }

def outputPath (s : Settings) (source : Files.Path) : Except Files.NameError Files.Path :=
  source.withName (source.stem ++ s.outputMarker ++ source.suffix)

/-- Whether a path looks like that of a copy. -/
def isGenerated (s : Settings) (p : Files.Path) : Bool := s.outputMarker.isSuffixOf p.stem

end Settings
end MappingMarkers
