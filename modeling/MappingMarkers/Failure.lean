import MappingMarkers.Text.Basic

namespace MappingMarkers

open Text

inductive Failure where
  | plain (message : Text)
  /-- The catalog cannot be reached. -/
  | connection (message : Text) (dsn : Option Text)
  /-- The catalog does not answer about a table. -/
  | metadata (message : Text) (schema table : Option Text)
  /-- The copy of a source file cannot be written. -/
  | write (message : Text) (path : Option Text)
  /-- Mapped columns are missing from the catalog. -/
  | drift (message : Text) (offenders : List Text)
  deriving DecidableEq

namespace Failure

def detail? (t : Option Text) : Option Text := t.filter (!·.isEmpty)

def message : Failure → Text
  | plain m => m
  | connection m dsn =>
      match detail? dsn with
      | some d => m ++ " | dsn=".toList ++ d
      | none => m
  | metadata m schema table =>
      match detail? schema, detail? table with
      | some s, some t => m ++ " | table=".toList ++ s ++ ['.'] ++ t
      | none, some t => m ++ " | table=".toList ++ t
      | _, none => m
  | write m path =>
      match detail? path with
      | some p => m ++ " | path=".toList ++ p
      | none => m
  | drift m offenders => joined ['\n'] (m :: offenders.map (" - ".toList ++ ·))

end Failure
end MappingMarkers
