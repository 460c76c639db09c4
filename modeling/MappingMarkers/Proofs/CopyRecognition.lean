import Mathlib
import MappingMarkers.Proofs.RunAttempts

namespace MappingMarkers.Proofs.CopyRecognition

open Text Files FileNames TreeCopies SourceListing FileAttempts RunAttempts

section Names

variable {s : Settings} {p copy : Path}

/-- The copy has an extension that its source does not have. -/
def Sprouts (p copy : Path) : Prop := p.suffix = [] ∧ copy.suffix ≠ []

instance (p copy : Path) : Decidable (Sprouts p copy) := inferInstanceAs (Decidable (_ ∧ _))

theorem stem_of_suffix_eq_nil (h : p.suffix = []) : p.stem = p.name := by
  rw [Path.suffix] at h
  rw [Path.stem]
  split at h
  · simp at h
  · rfl

theorem isGenerated_of_not_sprouts (h : s.outputPath p = .ok copy) (hsprouts : ¬ Sprouts p copy) :
    s.isGenerated copy = true := by
  by_cases hsuffix : p.suffix = []
  · have hcopy : copy.suffix = [] := by
      by_contra hne
      exact hsprouts ⟨hsuffix, hne⟩
    rw [Settings.isGenerated, stem_of_suffix_eq_nil hcopy, name_of_outputPath h, hsuffix,
      List.append_nil, List.isSuffixOf_iff_suffix]
    exact List.suffix_append _ _
  · exact isGenerated_of_outputPath hsuffix h

/-- Without a dot in the name of its source, a copy that has an extension is not recognised. -/
theorem isGenerated_of_sprouts (hdot : '.' ∉ p.name) (h : s.outputPath p = .ok copy)
    (hsprouts : Sprouts p copy) : s.isGenerated copy = false := by
  obtain ⟨hsuffix, hcopy⟩ := hsprouts
  obtain ⟨ext, hname, -⟩ := name_eq_of_suffix hcopy
  rw [name_of_outputPath h, hsuffix, stem_of_suffix_eq_nil hsuffix, List.append_nil] at hname
  -- The marker has all dots of the copy's name, and the stem has one less.
  have hcount := congrArg (List.count '.') hname
  rw [List.count_append, List.count_eq_zero_of_not_mem hdot, List.count_append,
    List.count_cons_self] at hcount
  rw [Settings.isGenerated, ← Bool.not_eq_true, List.isSuffixOf_iff_suffix]
  intro hmarker
  have hle := hmarker.sublist.count_le '.'
  omega

theorem proper_of_outputPath (h : s.outputPath p = .ok copy) (hp : s.isGenerated p = false) :
    Proper copy.name := by
  obtain ⟨hne, hvalid, -⟩ := outputPath_eq_ok_iff.mp h
  have hname := name_of_outputPath h
  rw [← hname] at hvalid
  refine ⟨?_, ?_, ?_⟩
  · intro hnil
    rw [hnil] at hvalid
    contradiction
  · intro hdot
    rw [hdot] at hvalid
    contradiction
  · intro hdots
    rw [hdots] at hname
    by_cases hsuffix : p.suffix = []
    · rw [hsuffix, stem_of_suffix_eq_nil hsuffix, List.append_nil] at hname
      have hmarker : s.outputMarker <:+ p.name := by
        -- The two dots are the name alone, or one of them is the marker.
        obtain ⟨c, cs, hcons⟩ := List.exists_cons_of_ne_nil hne
        rw [hcons] at hname ⊢
        cases cs with
        | nil =>
            rw [List.singleton_append, List.cons.injEq] at hname
            rw [← hname.1, ← hname.2]
        | cons d ds =>
            rw [List.cons_append, List.cons_append, List.cons.injEq, List.cons.injEq] at hname
            rw [(List.append_eq_nil_iff.mp hname.2.2.symm).2]
            exact List.nil_suffix
      rw [Settings.isGenerated, stem_of_suffix_eq_nil hsuffix,
        List.isSuffixOf_iff_suffix.mpr hmarker] at hp
      contradiction
    · obtain ⟨ext, -, hext, hdot, -, hextNe⟩ := name_eq_of_suffix hsuffix
      rw [hext] at hname
      exact (proper_append hdot hextNe).2.2 hname.symm

end Names

section Runs

variable {s : Settings}

/-- Runs with the same settings, one after the other, below the given directories and with the given
schemas: their reports, and the workspace in the end. -/
def annotateAll (s : Settings) : List (Text × Text) → Workspace → List FileReport × Workspace
  | [], w => ([], w)
  | (root, schema) :: runs, w =>
      let (outcome, w) := Run.annotate s root schema w
      let (reports, w) := annotateAll s runs w
      (outcome.toOption.getD [] ++ reports, w)

theorem reports_annotateAll_cons (root schema : Text) (runs : List (Text × Text)) (w : Workspace) :
    (annotateAll s ((root, schema) :: runs) w).1 =
      (Run.annotate s root schema w).1.toOption.getD [] ++
        (annotateAll s runs (Run.annotate s root schema w).2).1 :=
  rfl

/-- A copy that is reported as written is the copy of the file reported about. -/
def Faithful (s : Settings) (r : FileReport) : Prop :=
  ∀ copy, r.outcome = .written copy → s.outputPath r.path = .ok copy

theorem faithful_annotateFile (schema : Text) (path : Path) (w : Workspace) :
    (Run.annotateFile s schema path w).1.path = path ∧
      Faithful s (Run.annotateFile s schema path w).1 := by
  rw [(annotateFile_eq_attempt s schema path w).1]
  refine ⟨path_attempt, ?_⟩
  intro copy hwritten
  obtain ⟨text, hwritten⟩ := outcome_attempt_eq_written_iff.mp hwritten
  rw [path_attempt]
  exact (written_attempt hwritten).1

theorem faithful_annotateEach {schema : Text} {paths : List Path} {w : Workspace} {r : FileReport}
    (hr : r ∈ (Run.annotateEach s schema paths w).1) : r.path ∈ paths ∧ Faithful s r := by
  induction paths generalizing w with
  | nil => simp [Run.annotateEach] at hr
  | cons path paths ih =>
      have hreports : (Run.annotateEach s schema (path :: paths) w).1 =
          (Run.annotateFile s schema path w).1 ::
            (Run.annotateEach s schema paths (Run.annotateFile s schema path w).2).1 := rfl
      rw [hreports, List.mem_cons] at hr
      rcases hr with hr | hr
      · obtain ⟨hpath, hfaithful⟩ := faithful_annotateFile (s := s) schema path w
        rw [← hr] at hpath hfaithful
        exact ⟨by simp [hpath], hfaithful⟩
      · obtain ⟨hpath, hfaithful⟩ := ih hr
        exact ⟨List.mem_cons_of_mem _ hpath, hfaithful⟩

theorem faithful_annotate {root schema : Text} {w : Workspace} {reports : List FileReport}
    {r : FileReport} (h : (Run.annotate s root schema w).1 = .ok reports) (hr : r ∈ reports) :
    s.isGenerated r.path = false ∧ Faithful s r := by
  rw [Run.annotate] at h
  cases listed : Files.sources w.tree (.parse root) s with
  | error f => simp [listed] at h
  | ok paths =>
      have hreports : ∃ w, reports = (Run.annotateEach s schema paths w).1 := by
        rw [listed] at h
        cases paths with
        | nil => exact ⟨w, (Except.ok.inj h).symm⟩
        | cons path paths => exact ⟨_, (Except.ok.inj h).symm⟩
      obtain ⟨w', rfl⟩ := hreports
      obtain ⟨hpath, hfaithful⟩ := faithful_annotateEach hr
      exact ⟨(selected_of_mem_sources listed hpath).2.1, hfaithful⟩

theorem faithful_annotateAll {runs : List (Text × Text)} {w : Workspace} {r : FileReport}
    (hr : r ∈ (annotateAll s runs w).1) : s.isGenerated r.path = false ∧ Faithful s r := by
  induction runs generalizing w with
  | nil => simp [annotateAll] at hr
  | cons run runs ih =>
      obtain ⟨root, schema⟩ := run
      rw [reports_annotateAll_cons, List.mem_append] at hr
      rcases hr with hr | hr
      · cases houtcome : (Run.annotate s root schema w).1 with
        | error f => simp [houtcome, Except.toOption] at hr
        | ok reports =>
            rw [houtcome] at hr
            exact faithful_annotate houtcome hr
      · exact ih hr

end Runs

/-- A copy is recognised unless it has an extension that its source does not have. So what runs have
written is listed by no later run with the same settings, whatever has become of the tree; nor does
the listing name it by another path, in a tree without links. -/
theorem copies_unlisted (s : Settings) :
    (∀ p copy, s.outputPath p = .ok copy →
      (¬ Sprouts p copy → s.isGenerated copy = true) ∧
        (Sprouts p copy → '.' ∉ p.name → s.isGenerated copy = false)) ∧
      ∀ runs w, ∀ r ∈ (annotateAll s runs w).1, ∀ copy, r.outcome = .written copy →
        ¬ Sprouts r.path copy →
          ∀ t root files, Files.sources t (.parse root) s = .ok files → ∀ q ∈ files,
            q.name ≠ copy.name ∧
              (Plain t → lastName copy.text = copy.name →
                leadsTo? t q.text ≠ leadsTo? t copy.text) := by
  constructor
  · intro p copy hcopy
    exact ⟨isGenerated_of_not_sprouts hcopy,
      fun hsprouts hdot => isGenerated_of_sprouts hdot hcopy hsprouts⟩
  intro runs w r hr copy hwritten hsprouts t root files listed q hq
  obtain ⟨horiginal, hfaithful⟩ := faithful_annotateAll hr
  have hcopy := hfaithful copy hwritten
  have hname : q.name ≠ copy.name := by
    intro hsame
    have hlisted := (selected_of_mem_sources listed hq).2.1
    rw [isGenerated_congr hsame, isGenerated_of_not_sprouts hcopy hsprouts] at hlisted
    contradiction
  refine ⟨hname, ?_⟩
  intro plain hlast hsame
  obtain ⟨names, home, bytes, -, -, hleads, hfit, -⟩ := exists_leads_of_mem_sources plain listed hq
  rw [hleads.leadsTo? plain.unlinked_find?, if_pos hfit] at hsame
  obtain ⟨way, hway⟩ := splitOn_eq_append_lastName copy.text
  rw [hlast] at hway
  have hplace := getLast?_of_leadsTo? plain.unlinked_find? (proper_of_outputPath hcopy horiginal)
    hway hsame.symm
  rw [List.getLast?_concat, Option.some.injEq] at hplace
  exact hname hplace

/-- A directory with one source file, and a catalog that knows its table. -/
def oneSource : Workspace where
  tree :=
    { entries := [(["x.cs".toList],
        .file (Utf8.encode "[Table(\"T\")]\npublic int A \x7bget;set;\x7d".toList))] }
  session := { replies := [.rows [[some ['A']]]] }

def oneSourceSettings : Settings :=
  { fileSuffix := ".cs".toList, outputMarker := ".n".toList, dryRun := false, callTimeout := 0,
    exactNames := false }

theorem sources_oneSource :
    Files.sources oneSource.tree (.parse ".".toList) oneSourceSettings =
      .ok [{ root := [], parts := ["x.cs".toList] }] := by
  cbv

/-- The report about the copy that is made of the one source. -/
def oneCopy : FileReport where
  path := { root := [], parts := ["x.cs".toList] }
  table := some ['T']
  outcome := .written { root := [], parts := ["x.n.cs".toList] }

theorem annotateAll_oneSource :
    (annotateAll oneSourceSettings [(".".toList, ['S'])] oneSource).1 = [oneCopy] := by
  let bytes := Utf8.encode "[Table(\"T\")]\npublic int A \x7bget;set;\x7d".toList
  have hread : oneSource.tree.read oneCopy.path.text = .ok bytes := by cbv
  have hrefusal : copyRefusal? oneSourceSettings oneSource.tree oneCopy.path = none := by cbv
  have hattempt : (attempt oneSourceSettings ['S'] oneCopy.path (.ok bytes) none
      oneSource.session.replies).report = oneCopy := by decide +kernel
  have hrun := (annotate_eq_attempts ['S'] (by decide) sources_oneSource (by decide)
    (List.pairwise_singleton _ _)).1
  rw [attempts, show ({ root := [], parts := ["x.cs".toList] } : Path) = oneCopy.path from rfl,
    hread, hrefusal, List.map_cons, hattempt] at hrun
  rw [reports_annotateAll_cons, hrun]
  rfl

theorem copies_unlisted_oneSource :
    oneCopy ∈ (annotateAll oneSourceSettings [(".".toList, ['S'])] oneSource).1 ∧
      ∃ copy, oneCopy.outcome = .written copy ∧ ¬ Sprouts oneCopy.path copy ∧
        oneSourceSettings.isGenerated copy = true ∧
          ∀ t root files, Files.sources t (.parse root) oneSourceSettings = .ok files →
            ∀ q ∈ files, q.name ≠ copy.name := by
  have hr : oneCopy ∈ (annotateAll oneSourceSettings [(".".toList, ['S'])] oneSource).1 := by
    rw [annotateAll_oneSource]
    exact List.mem_singleton_self _
  have hsprouts : ¬ Sprouts oneCopy.path { root := [], parts := ["x.n.cs".toList] } := by decide
  obtain ⟨hnames, hruns⟩ := copies_unlisted oneSourceSettings
  refine ⟨hr, _, rfl, hsprouts, (hnames oneCopy.path _ rfl).1 hsprouts, ?_⟩
  intro t root files listed q hq
  exact (hruns _ _ oneCopy hr _ rfl hsprouts t root files listed q hq).1

/-- A source without an extension beside its copy, whose extension is the marker: both are listed. -/
example :
    Files.sources { entries := [(["x".toList], .file []), (["x.n".toList], .file [])] }
        (.parse ['.']) { oneSourceSettings with fileSuffix := [] } =
      .ok [{ root := [], parts := ["x".toList] }, { root := [], parts := ["x.n".toList] }] := by
  cbv

end MappingMarkers.Proofs.CopyRecognition
