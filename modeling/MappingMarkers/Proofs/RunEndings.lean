import MappingMarkers.CommandLine.Program
import MappingMarkers.Proofs.SourceListing
import MappingMarkers.Proofs.Validation

/-!
The ways in which the program ends. There is an exit code unless one of four things goes wrong that
nobody reports: the time limit is no number, the driver refuses the connection with an error that is
none of the database, the source files cannot be listed, or a check meets a file or an answer that
it cannot read.
-/

namespace MappingMarkers.Proofs.RunEndings

open Text Catalog CommandLine Validation

instance decidableEqExcept {ε α : Type} [DecidableEq ε] [DecidableEq α] :
    DecidableEq (Except ε α)
  | .error e, .error e' => decidable_of_iff (e = e') (by rw [Except.error.injEq])
  | .ok a, .ok a' => decidable_of_iff (a = a') (by rw [Except.ok.injEq])
  | .error _, .ok _ => isFalse nofun
  | .ok _, .error _ => isFalse nofun

variable {args : List Text} {s : Surroundings} {a : Arguments} {settings : Settings}
  {c : Credentials} {visited : List (Files.Path × Option Finding)} {last : CheckSession}
  {rest : List Files.Path}

/-- A command line is understood, and its settings and credentials are there. -/
structure Ready (args : List Text) (s : Surroundings) (a : Arguments) (settings : Settings)
    (c : Credentials) : Prop where
  parsed : parse args = .ok a
  configured : CommandLine.settings s.environment a = .ok settings
  authorised : credentials s.environment a = .ok c

/-- The database accepts the connection of a command line. -/
structure Opened (args : List Text) (s : Surroundings) (a : Arguments) (settings : Settings)
    (c : Credentials) : Prop extends Ready args s a settings c where
  accepted : s.refusal = none

def opened (s : Surroundings) (settings : Settings) (c : Credentials) : Session :=
  (connect c settings.callTimeout none s.session).2

def scope (s : Surroundings) (a : Arguments) (settings : Settings) : Scope :=
  { tree := s.tree, exactNames := settings.exactNames, schema := a.schema }

/-- A check on an open connection has gone through some of the listed source files, with others to
come. -/
structure Reached (args : List Text) (s : Surroundings) (a : Arguments) (settings : Settings)
    (c : Credentials) (visited : List (Files.Path × Option Finding)) (last : CheckSession)
    (rest : List Files.Path) : Prop extends Opened args s a settings c where
  checks : a.command = .check
  listed : Files.sources s.tree (.parse a.rootDir) settings = .ok (Scope.files visited ++ rest)
  visits : (scope s a settings).Visits { session := opened s settings c } visited last

/-- The program ends with an error that it reports itself. -/
inductive Rejected (args : List Text) (s : Surroundings) : Prop
  | misused {t : Text} (parsed : parse args = .error (.misuse t))
  | unauthorised {a : Arguments} {settings : Settings} {message : Text}
      (parsed : parse args = .ok a)
      (configured : CommandLine.settings s.environment a = .ok settings)
      (authorised : credentials s.environment a = .error message)
  | refused {a : Arguments} {settings : Settings} {c : Credentials} {e : DriverError}
      (ready : Ready args s a settings c) (refusal : s.refusal = some e)
      (kind : e.kind.isDatabase = true)
  | failed {a : Arguments} {settings : Settings} {c : Credentials}
      {visited : List (Files.Path × Option Finding)} {last : CheckSession} {path : Files.Path}
      {rest : List Files.Path} {failure : Failure}
      (reached : Reached args s a settings c visited last (path :: rest))
      (breaks : (scope s a settings).Breaks last path (.failure failure))

/-- The program ends without an exit code, with a fault that nobody reports. -/
inductive Escapes (args : List Text) (s : Surroundings) : Fault → Prop
  | configuring {a : Arguments} {value : Text} {e : IntegerError} (parsed : parse args = .ok a)
      (given : s.environment.lookup "DB_CALL_TIMEOUT_MS".toList = some value)
      (read : readInteger value = .error e) : Escapes args s (.integer e)
  | connecting {a : Arguments} {settings : Settings} {c : Credentials} {e : DriverError}
      (ready : Ready args s a settings c) (refusal : s.refusal = some e)
      (kind : e.kind.isDatabase = false) : Escapes args s (.driver e)
  | listing {a : Arguments} {settings : Settings} {c : Credentials} {f : Fault}
      (opened : Opened args s a settings c)
      (listed : Files.sources s.tree (.parse a.rootDir) settings = .error f) : Escapes args s f
  | checking {a : Arguments} {settings : Settings} {c : Credentials}
      {visited : List (Files.Path × Option Finding)} {last : CheckSession} {path : Files.Path}
      {rest : List Files.Path} {f : Fault}
      (reached : Reached args s a settings c visited last (path :: rest))
      (breaks : (scope s a settings).Breaks last path f)
      (unreported : ∀ failure, f ≠ .failure failure) : Escapes args s f

section Settings

theorem settings_eq_error_iff {env : Environment} {f : Fault} :
    CommandLine.settings env a = .error f ↔
      ∃ value e, env.lookup "DB_CALL_TIMEOUT_MS".toList = some value ∧
        readInteger value = .error e ∧ f = .integer e := by
  rw [CommandLine.settings, Settings.load]
  cases given : env.lookup "DB_CALL_TIMEOUT_MS".toList with
  | none => simp [bind, Except.bind, pure, Except.pure]
  | some value =>
      cases read : readInteger value with
      | error e => simp [bind, Except.bind, Except.mapError, read, eq_comm]
      | ok t => simp [bind, Except.bind, pure, Except.pure, Except.mapError, read]

end Settings

section Running

theorem run_of_parsed (h : parse args = .ok a) : run args s = perform a s := by
  rw [run, h]

theorem run_of_opened (h : Opened args s a settings c) :
    run args s = work settings a c s (opened s settings c) := by
  have haccepted : connect c settings.callTimeout s.refusal s.session =
      (.ok (), opened s settings c) := by
    rw [h.accepted]
    rfl
  rw [run_of_parsed h.parsed, perform, h.configured]
  simp only [h.authorised, haccepted]

theorem exit_of_refusal (h : Ready args s a settings c) {e : DriverError}
    (hrefusal : s.refusal = some e) :
    (run args s).exit = if e.kind.isDatabase then .ok 2 else .error (.driver e) := by
  rw [run_of_parsed h.parsed, perform, h.configured]
  simp only [h.authorised, connect, hrefusal, explainRefusal]
  cases e.kind.isDatabase <;> rfl

end Running

section Working

/-- The workspace of a command when its connection is open. -/
def start (s : Surroundings) (settings : Settings) (c : Credentials) : Workspace :=
  { tree := s.tree, session := opened s settings c, log := [connectedEntry c] }

theorem exit_of_annotate (h : Opened args s a settings c) (hcommand : a.command = .annotate) :
    (run args s).exit = (annotateWork settings a (start s settings c)).exit := by
  rw [run_of_opened h, work, hcommand]
  rfl

theorem run_of_check (h : Opened args s a settings c) (hcommand : a.command = .check) :
    let done := checkWork settings a (start s settings c)
    run args s =
      { exit := done.exit, output := done.output
        reports := done.workspace.log.map .entry ++ done.before ++
          s.closingError.toList.map (fun e => .entry (closingEntry e)) ++ done.after
        tree := done.workspace.tree, session := done.workspace.session.record .disconnected } := by
  rw [run_of_opened h, work, hcommand]
  rfl

theorem exit_of_check (h : Opened args s a settings c) (hcommand : a.command = .check) :
    (run args s).exit = (checkWork settings a (start s settings c)).exit := by
  rw [run_of_check h hcommand]

theorem exit_annotateWork (settings : Settings) (a : Arguments) (w : Workspace) :
    (annotateWork settings a w).exit =
      (Files.sources w.tree (.parse a.rootDir) settings).map fun _ => 0 := by
  cases hlisted : Files.sources w.tree (.parse a.rootDir) settings with
  | error f =>
      simp only [annotateWork, Run.annotate, hlisted]
      rfl
  | ok paths =>
      have hreports : ∃ reports w',
          Run.annotate settings a.rootDir (a.schema.getD []) w = (.ok reports, w') := by
        rw [Run.annotate, hlisted]
        cases paths <;> exact ⟨_, _, rfl⟩
      obtain ⟨reports, w', hreports⟩ := hreports
      rw [annotateWork, hreports]
      cases reports <;> rfl

/-- What a check ends with on a fault: only failures have an exit code. -/
def exitOf : Fault → Except Fault Nat
  | .failure _ => .ok 2
  | f => .error f

theorem exitOf_of_unreported {f : Fault} (h : ∀ failure, f ≠ .failure failure) :
    exitOf f = .error f := by
  cases f with
  | failure failure => exact absurd rfl (h failure)
  | _ => rfl

theorem exit_checkWork_of_error {w w' : Workspace} {f : Fault}
    (h : Run.check settings a.rootDir a.schema w = (.error f, w')) :
    (checkWork settings a w).exit = exitOf f := by
  rw [checkWork, h]
  cases f <;> rfl

/-- A check fails for what it has found when it is strict and columns are missing. -/
def drifts (a : Arguments) (checks : List TableCheck) : Bool := a.strict && checks.any (!·.ok)

/-- What is printed about the checks that have found missing columns. -/
def driftText (checks : List TableCheck) : Text :=
  joined ['\n'] ("Columns missing in the database:".toList ::
    (checks.filter (!·.ok)).map fun check => " - ".toList ++ check.text)

theorem isEmpty_filter_not_ok (checks : List TableCheck) :
    (checks.filter (!·.ok)).isEmpty = !checks.any (!·.ok) := by
  rw [Bool.eq_iff_iff]
  simp

theorem checkWork_of_ok {w w' : Workspace} {checks : List TableCheck}
    (h : Run.check settings a.rootDir a.schema w = (.ok checks, w')) :
    checkWork settings a w =
      { exit := .ok (if drifts a checks then 1 else 0)
        output := checks.flatMap fun check => line check.text
        after := if drifts a checks then [.text (line (driftText checks))] else []
        workspace := w' } := by
  rw [checkWork, h, drifts]
  cases a.strict with
  | false => rfl
  | true =>
      simp only [if_true, requireAll, isEmpty_filter_not_ok, Bool.true_and]
      cases checks.any (!·.ok) with
      | false => rfl
      | true =>
          simp only [Bool.not_true, Bool.false_eq_true, if_false, if_true, Failure.message,
            List.map_map, driftText]
          rfl

theorem check_of_reached (h : Reached args s a settings c visited last []) :
    Run.check settings a.rootDir a.schema (start s settings c) =
      (.ok ((Scope.findings visited).map Finding.check),
        { tree := s.tree, session := last.session
          log := connectedEntry c :: Scope.log visited }) := by
  have hlisted := h.listed
  rw [List.append_nil] at hlisted
  have hchecked : Run.checkEach s.tree settings.exactNames a.schema (Scope.files visited)
      { session := opened s settings c } =
        (.ok ((Scope.findings visited).map Finding.check), last, Scope.log visited) :=
    Scope.checkEach_of_visits h.visits
  simp only [Run.check, start, hlisted, hchecked]
  rfl

theorem check_of_breaks {path : Files.Path} {f : Fault}
    (h : Reached args s a settings c visited last (path :: rest))
    (hbreaks : (scope s a settings).Breaks last path f) :
    ∃ w, Run.check settings a.rootDir a.schema (start s settings c) = (.error f, w) := by
  obtain ⟨c', log, hchecked⟩ : ∃ c' log, Run.checkEach s.tree settings.exactNames a.schema
      (Scope.files visited ++ path :: rest) { session := opened s settings c } =
        (.error f, c', log) :=
    Scope.checkEach_of_breaks h.visits hbreaks
  exact ⟨_, by simp only [Run.check, start, h.listed, hchecked]; rfl⟩

end Working

section Exits

/-- The program ends well, and checks nothing. -/
inductive Completed (args : List Text) (s : Surroundings) : Prop
  | helped {t : Text} (parsed : parse args = .error (.help t))
  | annotated {a : Arguments} {settings : Settings} {c : Credentials} {files : List Files.Path}
      (opened : Opened args s a settings c) (annotates : a.command = .annotate)
      (listed : Files.sources s.tree (.parse a.rootDir) settings = .ok files)

theorem exit_of_completed (h : Completed args s) : (run args s).exit = .ok 0 := by
  cases h with
  | helped parsed =>
      rw [run, parsed]
      rfl
  | annotated opened annotates listed =>
      rw [exit_of_annotate opened annotates, exit_annotateWork, start, listed]
      rfl

theorem exit_of_rejected (h : Rejected args s) : (run args s).exit = .ok 2 := by
  cases h with
  | misused parsed =>
      rw [run, parsed]
      rfl
  | unauthorised parsed configured authorised =>
      rw [run_of_parsed parsed, perform, configured]
      simp only [authorised]
      rfl
  | refused ready refusal kind => rw [exit_of_refusal ready refusal, if_pos kind]
  | failed reached breaks =>
      obtain ⟨w, hcheck⟩ := check_of_breaks reached breaks
      rw [exit_of_check reached.toOpened reached.checks, exit_checkWork_of_error hcheck]
      rfl

theorem exit_of_escapes {f : Fault} (h : Escapes args s f) : (run args s).exit = .error f := by
  cases h with
  | configuring parsed given read =>
      rw [run_of_parsed parsed, perform, settings_eq_error_iff.mpr ⟨_, _, given, read, rfl⟩]
      rfl
  | connecting ready refusal kind => rw [exit_of_refusal ready refusal, kind]; rfl
  | @listing a settings c f opened listed =>
      cases hcommand : a.command with
      | annotate =>
          rw [exit_of_annotate opened hcommand, exit_annotateWork, start, listed]
          rfl
      | check =>
          have hcheck : Run.check settings a.rootDir a.schema (start s settings c) =
              (.error f, start s settings c) := by
            rw [Run.check, start, listed]
          rw [exit_of_check opened hcommand, exit_checkWork_of_error hcheck]
          -- A fault of the listing is no failure, so the check does not report it.
          rcases SourceListing.fault_of_sources_eq_error listed with rfl | ⟨e, rfl⟩ <;> rfl
  | checking reached breaks unreported =>
      obtain ⟨w, hcheck⟩ := check_of_breaks reached breaks
      rw [exit_of_check reached.toOpened reached.checks, exit_checkWork_of_error hcheck,
        exitOf_of_unreported unreported]

theorem exit_of_reached (h : Reached args s a settings c visited last []) :
    (run args s).exit =
      .ok (if drifts a ((Scope.findings visited).map Finding.check) then 1 else 0) := by
  rw [exit_of_check h.toOpened h.checks, checkWork_of_ok (check_of_reached h)]

theorem drifts_of_exit (h : Reached args s a settings c visited last [])
    (hexit : (run args s).exit = .ok 1) :
    drifts a ((Scope.findings visited).map Finding.check) = true := by
  rw [exit_of_reached h, Except.ok.injEq] at hexit
  split at hexit
  · assumption
  · contradiction

theorem ends (args : List Text) (s : Surroundings) :
    Completed args s ∨ Rejected args s ∨ (∃ f, Escapes args s f) ∨
      ∃ a settings c visited last, Reached args s a settings c visited last [] := by
  rcases parsed : parse args with (t | t) | a
  · exact .inl (.helped parsed)
  · exact .inr (.inl (.misused parsed))
  cases configured : CommandLine.settings s.environment a with
  | error f =>
      obtain ⟨value, e, given, read, rfl⟩ := settings_eq_error_iff.mp configured
      exact .inr (.inr (.inl ⟨_, .configuring parsed given read⟩))
  | ok settings =>
  cases authorised : credentials s.environment a with
  | error message => exact .inr (.inl (.unauthorised parsed configured authorised))
  | ok c =>
  have ready : Ready args s a settings c := ⟨parsed, configured, authorised⟩
  cases refusal : s.refusal with
  | some e =>
      cases kind : e.kind.isDatabase with
      | true => exact .inr (.inl (.refused ready refusal kind))
      | false => exact .inr (.inr (.inl ⟨_, .connecting ready refusal kind⟩))
  | none =>
  have hopened : Opened args s a settings c := ⟨ready, refusal⟩
  cases listed : Files.sources s.tree (.parse a.rootDir) settings with
  | error f => exact .inr (.inr (.inl ⟨f, .listing hopened listed⟩))
  | ok files =>
  cases checks : a.command with
  | annotate => exact .inl (.annotated hopened checks listed)
  | check =>
  obtain ⟨visited, last, rfl, visits⟩ | ⟨visited, last, path, rest, f, rfl, visits, breaks⟩ :=
    (scope s a settings).visits_or_breaks files { session := opened s settings c }
  · refine .inr (.inr (.inr ⟨a, settings, c, visited, last, hopened, checks, ?_, visits⟩))
    rw [List.append_nil]
    exact listed
  · have reached : Reached args s a settings c visited last (path :: rest) :=
      ⟨hopened, checks, listed, visits⟩
    by_cases reported : ∃ failure, f = .failure failure
    · obtain ⟨failure, rfl⟩ := reported
      exact .inr (.inl (.failed reached breaks))
    · have unreported : ∀ failure, f ≠ .failure failure := fun failure heq =>
        reported ⟨failure, heq⟩
      exact .inr (.inr (.inl ⟨f, .checking reached breaks unreported⟩))

theorem escapes_of_exit {f : Fault} (h : (run args s).exit = .error f) : Escapes args s f := by
  obtain hcompleted | hrejected | ⟨f', hescapes⟩ | ⟨a, settings, c, visited, last, hreached⟩ :=
    ends args s
  · rw [exit_of_completed hcompleted] at h
    contradiction
  · rw [exit_of_rejected hrejected] at h
    contradiction
  · rw [exit_of_escapes hescapes] at h
    rwa [← Except.error.inj h]
  · rw [exit_of_reached hreached] at h
    contradiction

theorem rejected_of_exit (h : (run args s).exit = .ok 2) : Rejected args s := by
  obtain hcompleted | hrejected | ⟨f, hescapes⟩ | ⟨a, settings, c, visited, last, hreached⟩ :=
    ends args s
  · simp [exit_of_completed hcompleted] at h
  · exact hrejected
  · rw [exit_of_escapes hescapes] at h
    contradiction
  · rw [exit_of_reached hreached, Except.ok.injEq] at h
    split at h <;> contradiction

theorem reached_of_exit (h : (run args s).exit = .ok 1) :
    ∃ a settings c visited last, Reached args s a settings c visited last [] ∧
      drifts a ((Scope.findings visited).map Finding.check) = true := by
  obtain hcompleted | hrejected | ⟨f, hescapes⟩ | ⟨a, settings, c, visited, last, hreached⟩ :=
    ends args s
  · simp [exit_of_completed hcompleted] at h
  · simp [exit_of_rejected hrejected] at h
  · rw [exit_of_escapes hescapes] at h
    contradiction
  · exact ⟨a, settings, c, visited, last, hreached, drifts_of_exit hreached h⟩

end Exits

/-- There is one of three exit codes unless a fault escapes, and the code two is for what the
program reports as an error. -/
theorem run_exit (args : List Text) (s : Surroundings) :
    ((∃ f, Escapes args s f) ∨ ∃ code ∈ [0, 1, 2], (run args s).exit = .ok code) ∧
      (∀ f, (run args s).exit = .error f ↔ Escapes args s f) ∧
      ((run args s).exit = .ok 2 ↔ Rejected args s) := by
  refine ⟨?_, fun f => ⟨escapes_of_exit, exit_of_escapes⟩, rejected_of_exit, exit_of_rejected⟩
  obtain hcompleted | hrejected | hescapes | ⟨a, settings, c, visited, last, hreached⟩ :=
    ends args s
  · exact .inr ⟨0, by decide, exit_of_completed hcompleted⟩
  · exact .inr ⟨2, by decide, exit_of_rejected hrejected⟩
  · exact .inl hescapes
  · refine .inr ⟨_, ?_, exit_of_reached hreached⟩
    split <;> decide

/-- A time limit that is no number escapes. -/
example :
    (run ["check".toList, "--root-dir".toList, ['.'], "--conn".toList, "u/p@d".toList]
      { environment := [("DB_CALL_TIMEOUT_MS".toList, "abc".toList)], tree := .empty, replies := []
        refusal := none, closingError := none }).exit =
      .error (.integer (.malformed "abc".toList)) := by
  decide +kernel

end MappingMarkers.Proofs.RunEndings
