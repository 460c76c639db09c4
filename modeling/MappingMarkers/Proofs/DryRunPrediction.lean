import Mathlib
import MappingMarkers.Proofs.RunAttempts

namespace MappingMarkers.Proofs.DryRunPrediction

open Text Files Catalog FileNames TreeCopies SourceListing FileAttempts RunAttempts

/-- How the report of a dry run foretells the report of the run that writes. -/
inductive Foretells (t : Tree) : FileReport → FileReport → Prop
  /-- Nothing is to be written, and both reports are the same. -/
  | same (r : FileReport) (h : r.outcome.copy? = none) : Foretells t r r
  | written (path : Path) (table : Option Text) (copy : Path) :
      Foretells t { path, table, outcome := .dryRun copy } { path, table, outcome := .written copy }
  /-- The copy cannot be opened, which only the run that writes finds out. -/
  | refused (path : Path) (table : Option Text) (copy : Path) (e : AccessError)
      (h : refusal? t copy.text = some e) :
      Foretells t { path, table, outcome := .dryRun copy }
        { path, table, outcome := .failed (writeFault copy e) }

theorem Foretells.table_eq {t : Tree} {foretold actual : FileReport}
    (h : Foretells t foretold actual) : foretold.table = actual.table := by
  cases h with
  | same => rfl
  | written => rfl
  | refused => rfl

section Attempts

variable {s : Settings} {schema : Text} {t : Tree}

theorem appraise_dryRun (dry : Bool) (path : Path) (reading : Except AccessError (List UInt8))
    (session : Session) :
    appraise { s with dryRun := dry } schema path reading session =
      appraise s schema path reading session :=
  rfl

theorem foretells_attempt (path : Path) (replies : List Reply) :
    Foretells t
      (attempt { s with dryRun := true } schema path (t.read path.text)
        (copyRefusal? s t path) replies).report
      (attempt { s with dryRun := false } schema path (t.read path.text)
        (copyRefusal? s t path) replies).report := by
  simp only [attempt, appraise_dryRun]
  cases happraise : (appraise s schema path (t.read path.text) { replies }).1 with
  | noTable => exact .same _ rfl
  | failed table f => exact .same _ rfl
  | unchanged table => exact .same _ rfl
  | ready table copy injection =>
      have hcopy := outputPath_of_ready happraise
      simp only [conclude, if_true, Bool.false_eq_true, if_false]
      cases hrefusal : copyRefusal? s t path with
      | none => exact .written path (some table) copy
      | some e =>
          rw [copyRefusal?, hcopy] at hrefusal
          exact .refused path (some table) copy e hrefusal

theorem attempts_dryRun (s : Settings) (schema : Text) (t : Tree) (paths : List Path)
    (replies : List Reply) :
    let dry := attempts { s with dryRun := true } schema t paths replies
    let real := attempts { s with dryRun := false } schema t paths replies
    dry.2 = real.2 ∧
      dry.1.flatMap (·.session.events) = real.1.flatMap (·.session.events) ∧
      List.Forall₂ (Foretells t) (dry.1.map (·.report)) (real.1.map (·.report)) := by
  induction paths generalizing replies with
  | nil => exact ⟨rfl, rfl, .nil⟩
  | cons p paths ih =>
      obtain ⟨hleft, hevents, hreports⟩ :=
        ih (appraise s schema p (t.read p.text) { replies }).2.replies
      refine ⟨hleft, ?_, .cons (foretells_attempt p replies) hreports⟩
      exact congrArg₂ (· ++ ·) rfl hevents

theorem placed?_dryRun (paths : List Path) (replies : List Reply) :
    (attempts { s with dryRun := true } schema t paths replies).1.filterMap (·.placed? t) = [] := by
  induction paths generalizing replies with
  | nil => rfl
  | cons p paths ih =>
      rw [attempts, List.filterMap_cons_none, ih]
      simp only [attempt]
      cases (appraise { s with dryRun := true } schema p (t.read p.text) { replies }).1 with
      | noTable => rfl
      | failed table f => rfl
      | unchanged table => rfl
      | ready table copy injection => rfl

end Attempts

/-- A dry run foretells the run that writes, in a tree without links, as long as no stray copy leads
to where a later source is. -/
theorem dryRun_foretells (s : Settings) (root schema : Text) (w : Workspace) (plain : Plain w.tree)
    (extended : ∀ files, Files.sources w.tree (.parse root) s = .ok files →
      ∀ p ∈ files, p.suffix ≠ [])
    (straight : ∀ files, Files.sources w.tree (.parse root) s = .ok files →
      files.Pairwise fun p q => Strays s p → Spares s w.tree p q) :
    let dry := Run.annotate { s with dryRun := true } root schema w
    let real := Run.annotate { s with dryRun := false } root schema w
    dry.2.tree = w.tree ∧ dry.2.session = real.2.session ∧
      ((∃ fault, dry.1 = .error fault ∧ real.1 = .error fault) ∨
        ∃ foretold actual, dry.1 = .ok foretold ∧ real.1 = .ok actual ∧
          List.Forall₂ (Foretells w.tree) foretold actual) := by
  intro dry real
  cases listed : Files.sources w.tree (.parse root) s with
  | error fault =>
      have hdry : dry = (.error fault, w) :=
        annotate_of_sources_error (s := { s with dryRun := true }) schema listed
      have hreal : real = (.error fault, w) :=
        annotate_of_sources_error (s := { s with dryRun := false }) schema listed
      rw [hdry, hreal]
      exact ⟨rfl, rfl, Or.inl ⟨fault, rfl, rfl⟩⟩
  | ok files =>
      obtain ⟨hdry, hdryTree, hdrySession⟩ :=
        annotate_eq_attempts (s := { s with dryRun := true }) schema plain listed
          (extended files listed) (straight files listed)
      obtain ⟨hreal, -, hrealSession⟩ :=
        annotate_eq_attempts (s := { s with dryRun := false }) schema plain listed
          (extended files listed) (straight files listed)
      obtain ⟨hleft, hevents, hreports⟩ :=
        attempts_dryRun s schema w.tree files w.session.replies
      refine ⟨?_, ?_, Or.inr ⟨_, _, hdry, hreal, hreports⟩⟩
      · rw [hdryTree, placed?_dryRun]
        rfl
      · rw [hdrySession, hrealSession, hleft, hevents]

theorem dryRun_foretells_strayed :
    Files.sources strayed.tree (.parse "..".toList) sidewards = .ok strayedFiles ∧
      (∃ p ∈ strayedFiles, Strays sidewards p) ∧
      let dry := Run.annotate { sidewards with dryRun := true } "..".toList ['S'] strayed
      let real := Run.annotate { sidewards with dryRun := false } "..".toList ['S'] strayed
      dry.2.tree = strayed.tree ∧ dry.2.session = real.2.session ∧
        ((∃ fault, dry.1 = .error fault ∧ real.1 = .error fault) ∨
          ∃ foretold actual, dry.1 = .ok foretold ∧ real.1 = .ok actual ∧
            List.Forall₂ (Foretells strayed.tree) foretold actual) := by
  refine ⟨sources_strayed, by decide, dryRun_foretells sidewards "..".toList ['S']
    strayed (by decide) (fun files listed => ?_) fun files listed => ?_⟩
  · rw [sources_strayed, Except.ok.injEq] at listed
    subst listed
    decide
  · rw [sources_strayed, Except.ok.injEq] at listed
    subst listed
    exact List.pairwise_of_forall_mem_list fun p hp q hq _ => spares_strayed p hp q hq

section Overwriting

def slashMarked (dry : Bool) : Settings :=
  { fileSuffix := ".cs".toList, outputMarker := "/x".toList, dryRun := dry, callTimeout := 0,
    exactNames := false }

def dotSource : Path := { root := [], parts := ["..cs".toList] }

def nextSource : Path := { root := [], parts := ["x.cs".toList] }

def dotText : Text := "[Table(\"T\")]\npublic int A \x7bget;set;\x7d".toList

def markedText : Text :=
  "[Table(\"T\")]\n[PrimaryKey]\n[Column(Name = \"A\")]\npublic int A \x7bget;set;\x7d".toList

/-- A mapped source whose copy leads to the source that comes next. -/
def overwritten : Workspace where
  tree :=
    { entries := [(["..cs".toList], .file (Utf8.encode dotText)), (["x.cs".toList], .file [])] }
  session := { replies := [.rows [[some ['A']]]] }

def dotAttempt (dry : Bool) : Attempt :=
  attempt (slashMarked dry) ['S'] dotSource (.ok (Utf8.encode dotText)) none
    overwritten.session.replies

theorem sources_overwritten (dry : Bool) :
    Files.sources overwritten.tree (.parse ".".toList) (slashMarked dry) =
      .ok [dotSource, nextSource] := by
  cbv

theorem reports_overwritten (dry : Bool) (bytes : List UInt8) {content : Text}
    (hcontent : Utf8.decodeFile bytes = .ok content)
    (hread : (copied overwritten.tree ((dotAttempt dry).placed? overwritten.tree).toList).read
      nextSource.text = .ok bytes) :
    ∃ first second,
      (Run.annotate (slashMarked dry) ".".toList ['S'] overwritten).1 = .ok [first, second] ∧
        second.table = Attribute.tableName? content := by
  have hdot : overwritten.tree.read dotSource.text = .ok (Utf8.encode dotText) := by cbv
  have hrefusal : copyRefusal? (slashMarked dry) overwritten.tree dotSource = none := by cbv
  simp only [Run.annotate, sources_overwritten, Run.annotateEach]
  refine ⟨_, _, rfl, ?_⟩
  rw [(annotateFile_eq_attempt _ _ nextSource _).1, (annotateFile_eq_attempt _ _ dotSource _).2.1]
  rw [dotAttempt] at hread
  simp only [Workspace.note, hdot, hrefusal, hread]
  exact table_attempt hcontent

/-- Where a copy leads to a later source, the dry run reports what that source has been, and the run
that writes what it has become. -/
theorem overwritten_unforetold :
    Plain overwritten.tree ∧
      Files.sources overwritten.tree (.parse ".".toList) (slashMarked false) =
        .ok [dotSource, nextSource] ∧
      (∀ p ∈ [dotSource, nextSource], p.suffix ≠ []) ∧
      ¬ ∃ foretold actual,
        (Run.annotate (slashMarked true) ".".toList ['S'] overwritten).1 = .ok foretold ∧
        (Run.annotate (slashMarked false) ".".toList ['S'] overwritten).1 = .ok actual ∧
        List.Forall₂ (Foretells overwritten.tree) foretold actual := by
  have hdry : (dotAttempt true).written = none := by decide +kernel
  have hreal : (dotAttempt false).written =
      some ({ root := [], parts := ["./x.cs".toList] }, markedText) := by
    decide +kernel
  have hmarked : Utf8.decodeFile (Utf8.encode markedText) = .ok markedText := by decide +kernel
  obtain ⟨first, second, hreports, htable⟩ := reports_overwritten true [] rfl (by
    rw [Attempt.placed?, hdry]
    cbv)
  obtain ⟨first', second', hreports', htable'⟩ := reports_overwritten false _ hmarked (by
    rw [Attempt.placed?, hreal]
    cbv)
  refine ⟨by decide, sources_overwritten false, by decide, ?_⟩
  rintro ⟨foretold, actual, hforetold, hactual, hall⟩
  rw [hreports] at hforetold
  rw [hreports'] at hactual
  obtain rfl := Except.ok.inj hforetold
  obtain rfl := Except.ok.inj hactual
  have hsame := (List.forall₂_cons.mp (List.forall₂_cons.mp hall).2).1.table_eq
  rw [htable, htable'] at hsame
  exact absurd hsame (by decide)

end Overwriting

end MappingMarkers.Proofs.DryRunPrediction
