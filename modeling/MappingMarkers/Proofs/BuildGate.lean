import Mathlib
import MappingMarkers.Proofs.RunEndings

namespace MappingMarkers.Proofs.BuildGate

open Text Catalog CommandLine Validation RunEndings

variable {args : List Text} {s : Surroundings} {a : Arguments} {settings : Settings}
  {c : Credentials} {visited : List (Files.Path × Option Finding)} {last : CheckSession}

/-- What is told about a finding: that all is well, or which columns are missing. -/
def told (f : Finding) : Text :=
  ['['] ++ f.entity ++ "] ".toList ++ f.owner.getD "None".toList ++ ['.'] ++ f.table ++ [' '] ++
    if f.missing.isEmpty then "=> OK".toList
    else "=> Missing: ".toList ++ joined ", ".toList f.missing

theorem text_check (f : Finding) : f.check.text = told f := by
  rw [TableCheck.text, told, TableCheck.ok]
  cases hmissing : f.missing.isEmpty <;> simp [Finding.check, hmissing]

def offenders (visited : List (Files.Path × Option Finding)) : List Finding :=
  (Scope.findings visited).filter (!·.missing.isEmpty)

theorem any_not_ok_iff (findings : List Finding) :
    (findings.map Finding.check).any (!·.ok) = true ↔
      ∃ f ∈ findings, ∃ name ∈ f.mapped, some name ∉ f.present := by
  simp only [List.any_map, List.any_eq_true, Function.comp_apply, Bool.not_eq_true',
    Finding.ok_check_eq_false_iff]

theorem exit_eq_one_iff :
    (run args s).exit = .ok 1 ↔
      ∃ a settings c visited last, Reached args s a settings c visited last [] ∧
        a.strict = true ∧
        ∃ f ∈ Scope.findings visited, ∃ name ∈ f.mapped, some name ∉ f.present := by
  constructor
  · intro h
    obtain ⟨a, settings, c, visited, last, hreached, hdrifts⟩ := reached_of_exit h
    rw [drifts, Bool.and_eq_true, any_not_ok_iff] at hdrifts
    exact ⟨a, settings, c, visited, last, hreached, hdrifts⟩
  · rintro ⟨a, settings, c, visited, last, hreached, hdrifts⟩
    rw [exit_of_reached hreached, if_pos]
    rwa [drifts, Bool.and_eq_true, any_not_ok_iff]

section Printed

theorem output_of_reached (h : Reached args s a settings c visited last []) :
    (run args s).output = (Scope.findings visited).flatMap fun f => line (told f) := by
  rw [run_of_check h.toOpened h.checks, checkWork_of_ok (check_of_reached h), List.flatMap_map]
  simp only [text_check]

theorem driftText_check (visited : List (Files.Path × Option Finding)) :
    driftText ((Scope.findings visited).map Finding.check) =
      joined ['\n'] ("Columns missing in the database:".toList ::
        (offenders visited).map fun f => " - ".toList ++ told f) := by
  rw [driftText, List.filter_map, List.map_map, offenders]
  simp only [Function.comp_def, text_check]
  rfl

def warnsOfMissing (e : LogEntry) : Bool := e.source == Run.checkSource && e.level == .warning

def warnings (log : List LogEntry) : List Text := (log.filter warnsOfMissing).map (·.message)

theorem warnings_append (log more : List LogEntry) :
    warnings (log ++ more) = warnings log ++ warnings more := by
  rw [warnings, List.filter_append, List.map_append]
  rfl

theorem warnings_checkEntry_some (path : Files.Path) (f : Finding) :
    warnings (Run.checkEntry path (some f.check)) =
      if f.missing.isEmpty then [] else [told f] := by
  rw [Run.checkEntry, TableCheck.ok, text_check]
  cases hmissing : f.missing.isEmpty <;> simp [Finding.check, hmissing, warnings, warnsOfMissing]

theorem warnings_log (visited : List (Files.Path × Option Finding)) :
    warnings (Scope.log visited) = (offenders visited).map told := by
  induction visited with
  | nil => rfl
  | cons v visited ih =>
      rw [Scope.log, List.flatMap_cons, ← Scope.log, warnings_append, ih]
      obtain ⟨path, none | f⟩ := v
      · rfl
      · have hfindings : Scope.findings ((path, some f) :: visited) = f :: Scope.findings visited :=
          rfl
        rw [Option.map_some, warnings_checkEntry_some, offenders, offenders, hfindings,
          List.filter_cons]
        cases f.missing.isEmpty <;> rfl

theorem reports_of_reached (h : Reached args s a settings c visited last [])
    (hexit : (run args s).exit = .ok 1) :
    ∃ entries, warnings entries = (offenders visited).map told ∧
      (run args s).reports = entries.map .entry ++
        [.text (line (joined ['\n'] ("Columns missing in the database:".toList ::
          (offenders visited).map fun f => " - ".toList ++ told f)))] := by
  have hdrifts := drifts_of_exit h hexit
  rw [run_of_check h.toOpened h.checks, checkWork_of_ok (check_of_reached h), driftText_check]
  refine ⟨connectedEntry c :: Scope.log visited ++ s.closingError.toList.map closingEntry, ?_, ?_⟩
  · have hclosing : warnings (s.closingError.toList.map closingEntry) = [] := by
      cases s.closingError <;> rfl
    rw [warnings_append, hclosing, List.append_nil]
    exact warnings_log visited
  · simp only [hdrifts, if_true, List.map_append, List.map_map, List.append_nil, List.append_assoc]
    rfl

end Printed

/-- The exit code is one exactly when a strict check has come to its end and found a mapped column
that its table does not have. Every check that comes to its end prints what it has found about each
mapped file, and with the exit code one the findings with missing columns again. -/
theorem build_gate (args : List Text) (s : Surroundings) :
    ((run args s).exit = .ok 1 ↔
      ∃ a settings c visited last, Reached args s a settings c visited last [] ∧
        a.strict = true ∧
        ∃ f ∈ Scope.findings visited, ∃ name ∈ f.mapped, some name ∉ f.present) ∧
      (∀ (f : Finding) (name : Text), name ∈ f.missing ↔ name ∈ f.mapped ∧ some name ∉ f.present) ∧
      ∀ a settings c visited last, Reached args s a settings c visited last [] →
        (run args s).output = (Scope.findings visited).flatMap (fun f => line (told f)) ∧
        ((run args s).exit = .ok 1 →
          ∃ entries, warnings entries = (offenders visited).map told ∧
            (run args s).reports = entries.map .entry ++
              [.text (line (joined ['\n'] ("Columns missing in the database:".toList ::
                (offenders visited).map fun f => " - ".toList ++ told f)))]) := by
  refine ⟨exit_eq_one_iff, fun _ _ => Finding.mem_missing_iff, ?_⟩
  intro a settings c visited last h
  exact ⟨output_of_reached h, reports_of_reached h⟩

section OneGap

/-- A mapped file with a column that its table does not have. -/
def oneGap : Surroundings where
  environment := []
  tree :=
    { entries := [(["ADTO.cs".toList],
        .file (Utf8.encode "[Table(\"T\")] [Column(\"A\")]".toList))] }
  replies := [.rows [[some ['S']]], .rows [[some "ID".toList]]]
  refusal := none
  closingError := none

def strictCheck : List Text :=
  ["check".toList, "--root-dir".toList, ['.'], "--conn".toList, "u/p@d".toList, "--strict".toList]

def oneGapArguments : Arguments :=
  { command := .check, verbose := false, rootDir := ['.'], suffix := none
    conn := some "u/p@d".toList, schema := none, dryRun := false, strict := true }

def oneGapSettings : Settings :=
  { fileSuffix := "DTO.cs".toList, outputMarker := ".novo".toList, dryRun := false, callTimeout := 0
    exactNames := false }

def oneGapCredentials : Credentials := { user := ['u'], password := ['p'], dsn := ['d'] }

def oneGapPath : Files.Path := { root := [], parts := ["ADTO.cs".toList] }

theorem sources_oneGap :
    Files.sources oneGap.tree (.parse ['.']) oneGapSettings = .ok [oneGapPath] := by
  cbv

theorem readSource_oneGap :
    Files.readSource oneGap.tree oneGapPath.text =
      .ok "[Table(\"T\")] [Column(\"A\")]".toList := by
  cbv

def oneGapScope : Scope := scope oneGap oneGapArguments oneGapSettings

theorem checkFile_oneGap :
    (oneGapScope.checkFile oneGapPath
      { session := opened oneGap oneGapSettings oneGapCredentials }).1 =
        .ok (some { entity := "ADTO.cs".toList, schema := some ['S'], table := ['T']
                    missing := [['A']] }) := by
  rw [Scope.checkFile, oneGapScope, scope, readSource_oneGap]
  decide +kernel

theorem reached_oneGap :
    ∃ f last, Reached strictCheck oneGap oneGapArguments oneGapSettings oneGapCredentials
      [(oneGapPath, some f)] last [] ∧ f.missing = [['A']] ∧
        told f = "[ADTO.cs] S.T => Missing: A".toList := by
  obtain ⟨found, last, hfound, houtcome⟩ := Scope.found_of_checkFile checkFile_oneGap
  obtain ⟨f, rfl, hcheck⟩ := Option.map_eq_some_iff.mp houtcome
  refine ⟨f, last, ⟨⟨⟨?_, ?_, ?_⟩, rfl⟩, rfl, sources_oneGap, .next hfound .done⟩, ?_, ?_⟩
  · decide +kernel
  · decide +kernel
  · decide +kernel
  · exact congrArg TableCheck.missing hcheck
  · rw [← text_check, hcheck]
    decide +kernel

theorem build_gate_oneGap :
    (∃ visited last, Reached strictCheck oneGap oneGapArguments oneGapSettings oneGapCredentials
      visited last []) ∧
    (run strictCheck oneGap).exit = .ok 1 ∧
    (run strictCheck oneGap).output = "[ADTO.cs] S.T => Missing: A\n".toList ∧
    ∃ entries : List LogEntry, (run strictCheck oneGap).reports = entries.map .entry ++
      [.text ("Columns missing in the database:\n".toList ++
        " - [ADTO.cs] S.T => Missing: A\n".toList)] := by
  obtain ⟨f, last, hreached, hmissing, htold⟩ := reached_oneGap
  obtain ⟨hiff, hmem, hprinted⟩ := build_gate strictCheck oneGap
  have hgap := (hmem f ['A']).mp (hmissing ▸ List.mem_singleton_self _)
  have hexit : (run strictCheck oneGap).exit = .ok 1 :=
    hiff.mpr ⟨_, _, _, _, _, hreached, rfl, f, List.mem_singleton_self _, ['A'], hgap⟩
  obtain ⟨houtput, hreports⟩ := hprinted _ _ _ _ _ hreached
  obtain ⟨entries, -, hreports⟩ := hreports hexit
  have hone : Scope.findings [(oneGapPath, some f)] = [f] := rfl
  have hoffenders : offenders [(oneGapPath, some f)] = [f] := by
    rw [offenders, hone, List.filter_cons, hmissing]
    rfl
  refine ⟨⟨_, _, hreached⟩, hexit, ?_, entries, ?_⟩
  · rw [houtput, hone, List.flatMap_singleton, htold]
    decide
  · rw [hreports, hoffenders, List.map_singleton, htold]
    rfl

end OneGap

end MappingMarkers.Proofs.BuildGate
