import Mathlib
import MappingMarkers.Proofs.RunAttempts

namespace MappingMarkers.Proofs.FileIsolation

open Text Files Catalog FileNames TreeWalk TreeCopies SourceListing FileAttempts RunAttempts

/-- The effect of a run on a tree and a session, by the attempts at the listed files. -/
structure Isolated (t : Tree) (session : Session) (files : List Path)
    (tried : List Attempt × List Reply) (run : Except Fault (List FileReport) × Workspace) :
    Prop where
  /-- There is one report for each listed file, in order. -/
  reports : run.1 = .ok (tried.1.map (·.report))
  paths : tried.1.map (·.report.path) = files
  /-- The session has gone through the attempts, one after the other. -/
  session : run.2.session =
    { replies := tried.2, events := session.events ++ tried.1.flatMap (·.session.events) }
  /-- A copy that is reported as written holds the text of its attempt, unless the same source came
  up again under another path and was written then. -/
  written : ∀ before a later copy, tried.1 = before ++ a :: later →
    a.report.outcome = .written copy →
    (∀ b ∈ later, leadsTo? t b.report.path.text = leadsTo? t a.report.path.text →
      b.written = none) →
    ∃ text, a.written = some (copy, text) ∧
      run.2.tree.read copy.text = .ok (Utf8.encode text)
  /-- Whatever no written copy leads to is as before. -/
  kept : ∀ names, (∀ a ∈ tried.1, ∀ copy, a.report.outcome = .written copy →
    leadsTo? t copy.text ≠ some names) → run.2.tree.find? names = t.find? names
  /-- No file is gone. -/
  present : ∀ names bytes, t.find? names = some (.file bytes) →
    ∃ bytes', run.2.tree.find? names = some (.file bytes')
  /-- The sources are as before. -/
  sources : ∀ p ∈ files, run.2.tree.read p.text = t.read p.text

section Attempts

variable {s : Settings} {schema : Text} {t : Tree} {files : List Path} {replies : List Reply}

theorem exists_of_mem_attempts {paths : List Path} {a : Attempt}
    (h : a ∈ (attempts s schema t paths replies).1) :
    ∃ p ∈ paths, ∃ left, a = attempt s schema p (t.read p.text) (copyRefusal? s t p) left := by
  induction paths generalizing replies with
  | nil => simp [attempts] at h
  | cons p paths ih =>
      rw [attempts] at h
      rcases List.mem_cons.mp h with rfl | h
      · exact ⟨p, List.mem_cons_self, replies, rfl⟩
      · obtain ⟨q, hq, left, ha⟩ := ih h
        exact ⟨q, List.mem_cons_of_mem _ hq, left, ha⟩

theorem map_path_attempts (paths : List Path) :
    (attempts s schema t paths replies).1.map (·.report.path) = paths := by
  induction paths generalizing replies with
  | nil => rfl
  | cons p paths ih => rw [attempts, List.map_cons, ih, path_attempt]

theorem outcome_eq_written_iff {a : Attempt} {copy : Path}
    (h : a ∈ (attempts s schema t files replies).1) :
    a.report.outcome = .written copy ↔ ∃ text, a.written = some (copy, text) := by
  obtain ⟨p, -, left, rfl⟩ := exists_of_mem_attempts h
  exact outcome_attempt_eq_written_iff

theorem placed?_of_mem_attempts {a : Attempt} {copy : Path} {text : Text}
    (h : a ∈ (attempts s schema t files replies).1) (hwritten : a.written = some (copy, text)) :
    a.report.path ∈ files ∧ s.outputPath a.report.path = .ok copy ∧
      ∃ names, leadsTo? t copy.text = some names ∧ a.placed? t = some (names, text) := by
  obtain ⟨p, hp, left, rfl⟩ := exists_of_mem_attempts h
  obtain ⟨hcopy, hrefusal⟩ := written_attempt hwritten
  rw [copyRefusal?, hcopy] at hrefusal
  obtain ⟨names, hnames, -⟩ := exists_write hrefusal
  rw [path_attempt]
  refine ⟨hp, hcopy, names, hnames, ?_⟩
  simp [Attempt.placed?, hwritten, hnames]

theorem settled_attempts (schema : Text) (replies : List Reply) (unlinked : Unlinked t)
    (sources : ∀ p ∈ files, ∃ home bytes, Source s t p home bytes)
    (spares : ∀ p ∈ files, ∀ q ∈ files, Spares s t p q) :
    Settled t files ((attempts s schema t files replies).1.filterMap (·.placed? t)) := by
  have heach : ∀ place ∈ (attempts s schema t files replies).1.filterMap (·.placed? t),
      Settled t files [place] := by
    intro place hplace
    obtain ⟨a, ha, hplaced⟩ := List.mem_filterMap.mp hplace
    obtain ⟨p, hp, left, rfl⟩ := exists_of_mem_attempts ha
    obtain ⟨home, bytes, source⟩ := sources p hp
    have settled := settled_attempt schema unlinked source (spares p hp) left
    rwa [hplaced] at settled
  constructor
  · intro place hplace
    exact (heach place hplace).free place List.mem_cons_self
  · intro place hplace
    exact (heach place hplace).apart place List.mem_cons_self

theorem lastText?_attempts (unlinked : Unlinked t)
    (sources : ∀ p ∈ files, ∃ home bytes, Source s t p home bytes)
    {before later : List Attempt} {a : Attempt}
    (hsplit : (attempts s schema t files replies).1 = before ++ a :: later)
    {names : List Text} {text : Text} (hplaced : a.placed? t = some (names, text))
    (hlater : ∀ b ∈ later, leadsTo? t b.report.path.text = leadsTo? t a.report.path.text →
      b.written = none) :
    lastText? ((attempts s schema t files replies).1.filterMap (·.placed? t)) names =
      some text := by
  have hmem : ∀ b ∈ a :: later, b ∈ (attempts s schema t files replies).1 := by
    intro b hb
    rw [hsplit]
    exact List.mem_append_right _ hb
  obtain ⟨copy, hwritten, hleads⟩ := leadsTo?_of_placed? hplaced
  obtain ⟨hp, hcopy, -⟩ := placed?_of_mem_attempts (hmem a List.mem_cons_self) hwritten
  obtain ⟨home, bytes, source⟩ := sources _ hp
  -- A later copy in the same place belongs to the same source, and none of those is written.
  have hnone : lastText? (later.filterMap (·.placed? t)) names = none := by
    apply lastText?_eq_none_iff.mpr
    intro place hplace hsame
    obtain ⟨b, hb, hb'⟩ := List.mem_filterMap.mp hplace
    obtain ⟨copy', hwritten', hleads'⟩ := leadsTo?_of_placed? hb'
    obtain ⟨hq, hcopy', -⟩ :=
      placed?_of_mem_attempts (hmem b (List.mem_cons_of_mem _ hb)) hwritten'
    obtain ⟨home', bytes', source'⟩ := sources _ hq
    rw [hsame] at hleads'
    have hfile := source'.eq_of_copy_eq unlinked source hcopy' hcopy hleads' hleads
    rw [hlater b hb hfile] at hwritten'
    contradiction
  rw [hsplit, List.filterMap_append, lastText?_append, List.filterMap_cons_some hplaced,
    ← List.singleton_append, lastText?_append, hnone]
  simp [lastText?]

theorem read_written_copy (unlinked : Unlinked t)
    (sources : ∀ p ∈ files, ∃ home bytes, Source s t p home bytes)
    (spares : ∀ p ∈ files, ∀ q ∈ files, Spares s t p q)
    {before later : List Attempt} {a : Attempt} {copy : Path}
    (hsplit : (attempts s schema t files replies).1 = before ++ a :: later)
    (houtcome : a.report.outcome = .written copy)
    (hlater : ∀ b ∈ later, leadsTo? t b.report.path.text = leadsTo? t a.report.path.text →
      b.written = none) :
    ∃ text, a.written = some (copy, text) ∧
      (copied t ((attempts s schema t files replies).1.filterMap (·.placed? t))).read copy.text =
        .ok (Utf8.encode text) := by
  have ha : a ∈ (attempts s schema t files replies).1 := by simp [hsplit]
  obtain ⟨text, hwritten⟩ := (outcome_eq_written_iff ha).mp houtcome
  obtain ⟨hp, hcopy, names, hnames, hplaced⟩ := placed?_of_mem_attempts ha hwritten
  obtain ⟨home, bytes, source⟩ := sources _ hp
  have settled := settled_attempts schema replies unlinked sources spares
  have grown := settled.grown unlinked
  have hleads := source.copy_leads copy hcopy
  have hfit : unfit? copy.text (lastName copy.name) = none := by
    rw [hleads.leadsTo? unlinked] at hnames
    split_ifs at hnames with hfit
    exact hfit
  have hfile : (copied t ((attempts s schema t files replies).1.filterMap
      (·.placed? t))).find? names = some (.file (Utf8.encode text)) := by
    rw [settled.find?, lastText?_attempts unlinked sources hsplit hplaced hlater]
    rfl
  rw [source.copy_leadsTo? unlinked hcopy hnames] at hfile
  exact ⟨text, hwritten, (hleads.grown unlinked grown).read grown.unlinked hfit hfile⟩

theorem lastText?_attempts_eq_none {names : List Text}
    (h : ∀ a ∈ (attempts s schema t files replies).1, ∀ copy,
      a.report.outcome = .written copy → leadsTo? t copy.text ≠ some names) :
    lastText? ((attempts s schema t files replies).1.filterMap (·.placed? t)) names = none := by
  apply lastText?_eq_none_iff.mpr
  intro place hplace hsame
  obtain ⟨a, ha, hplaced⟩ := List.mem_filterMap.mp hplace
  obtain ⟨copy, hwritten, hleads⟩ := leadsTo?_of_placed? hplaced
  exact h a ha copy ((outcome_eq_written_iff ha).mpr ⟨place.2, hwritten⟩) (by rw [hleads, hsame])

end Attempts

/-- A run isolates the files from each other, in a tree without links, as long as no stray copy
leads to where a source is. -/
theorem annotate_isolated (s : Settings) (root schema : Text) (w : Workspace) (files : List Path)
    (plain : Plain w.tree) (listed : Files.sources w.tree (.parse root) s = .ok files)
    (extended : ∀ p ∈ files, p.suffix ≠ [])
    (straight : ∀ p ∈ files, Strays s p → ∀ q ∈ files, Spares s w.tree p q) :
    Isolated w.tree w.session files (attempts s schema w.tree files w.session.replies)
      (Run.annotate s root schema w) := by
  have unlinked := plain.unlinked_find?
  have sources : ∀ p ∈ files, ∃ home bytes, Source s w.tree p home bytes := fun p hp =>
    exists_source plain listed hp (extended p hp)
  have spares : ∀ p ∈ files, ∀ q ∈ files, Spares s w.tree p q := fun p hp q hq =>
    spares_of_straight unlinked sources hp hq fun h => straight p hp h q hq
  have settled := settled_attempts schema w.session.replies unlinked sources spares
  obtain ⟨hreports, htree, hsession⟩ :=
    annotate_eq_attempts schema plain listed extended
      (List.pairwise_of_forall_mem_list fun p hp q hq h => straight p hp h q hq)
  refine ⟨hreports, map_path_attempts files, hsession, ?_, ?_, ?_, ?_⟩
  · intro before a later copy hsplit houtcome hlater
    rw [htree]
    exact read_written_copy unlinked sources spares hsplit houtcome hlater
  · intro names hnames
    rw [htree, settled.find?, lastText?_attempts_eq_none hnames]
    rfl
  · intro names bytes hfile
    rw [htree]
    exact settled.exists_file hfile
  · intro p hp
    obtain ⟨home, bytes, source⟩ := sources p hp
    rw [htree, settled.read unlinked hp source]

theorem annotate_isolated_strayed :
    (∃ p ∈ strayedFiles, Strays sidewards p) ∧
      Isolated strayed.tree strayed.session strayedFiles
        (attempts sidewards ['S'] strayed.tree strayedFiles strayed.session.replies)
        (Run.annotate sidewards "..".toList ['S'] strayed) :=
  ⟨by decide, annotate_isolated sidewards "..".toList ['S'] strayed strayedFiles (by decide)
    sources_strayed (by decide) fun p hp _ q hq => spares_strayed p hp q hq⟩

section Spellings

/-- Settings with a suffix that leads up again, so that one file is listed under several paths. -/
def upwards : Settings :=
  { fileSuffix := "/../x.cs".toList, outputMarker := ".n".toList, dryRun := false, callTimeout := 0,
    exactNames := false }

def spelledSource : Text :=
  "[Table(\"T\")]\npublic int A \x7bget;set;\x7d\npublic int B \x7bget;set;\x7d".toList

/-- Two directories beside a source file, and a catalog whose answer about its table changes. -/
def spelledTwice : Workspace where
  tree :=
    { entries := [(["a".toList], .directory), (["b".toList], .directory),
        (["x.cs".toList], .file (Utf8.encode spelledSource))] }
  session := { replies := [.rows [[some ['A']]], .rows [], .rows [], .rows [[some ['B']]]] }

/-- The source file as it is found from one of the directories. -/
def spelling (directory : Text) : Path :=
  { root := [], parts := [directory, "..".toList, "x.cs".toList] }

def spellings : List Path := [spelling "a".toList, spelling "b".toList]

theorem sources_spelledTwice :
    Files.sources spelledTwice.tree (.parse ".".toList) upwards = .ok spellings := by
  cbv

theorem not_strays_spellings : ∀ p ∈ spellings, ¬ Strays upwards p := by
  decide

/-- What is written for the source file when it is found from a directory. -/
def spelledAttempt (directory : Text) (replies : List Reply) : Attempt :=
  attempt upwards ['S'] (spelling directory) (.ok (Utf8.encode spelledSource)) none replies

theorem attempts_spelledTwice (replies : List Reply) :
    (attempts upwards ['S'] spelledTwice.tree spellings replies).1 =
      [spelledAttempt "a".toList replies,
        spelledAttempt "b".toList (spelledAttempt "a".toList replies).session.replies] := by
  have hread : ∀ directory ∈ ["a".toList, "b".toList],
      spelledTwice.tree.read (spelling directory).text = .ok (Utf8.encode spelledSource) ∧
        copyRefusal? upwards spelledTwice.tree (spelling directory) = none := by
    simp only [List.forall_mem_cons, List.not_mem_nil, false_implies, implies_true, and_true]
    exact ⟨⟨by cbv, by cbv⟩, by cbv, by cbv⟩
  have ha := hread "a".toList (by decide)
  have hb := hread "b".toList (by decide)
  simp only [spellings, attempts, ha, hb, spelledAttempt]

theorem written_spelledAttempt :
    let first := spelledAttempt "a".toList spelledTwice.session.replies
    let second := spelledAttempt "b".toList first.session.replies
    first.written.map (·.1.text) = some "a/../x.n.cs".toList ∧
      second.written.map (·.1.text) = some "b/../x.n.cs".toList ∧
      first.written.map (Utf8.encode ·.2) ≠ second.written.map (Utf8.encode ·.2) := by
  decide +kernel

theorem read_second_copy (t u : Text) :
    (copied spelledTwice.tree [(["x.n.cs".toList], t), (["x.n.cs".toList], u)]).read
      "a/../x.n.cs".toList = .ok (Utf8.encode u) := by
  cbv

theorem leadsTo?_spelled_copies :
    leadsTo? spelledTwice.tree "a/../x.n.cs".toList = some ["x.n.cs".toList] ∧
      leadsTo? spelledTwice.tree "b/../x.n.cs".toList = some ["x.n.cs".toList] :=
  ⟨by cbv, by cbv⟩

/-- A source that comes up under two paths is attempted twice, and its copy does not keep what the
first attempt reports as written. -/
theorem first_copy_lost :
    Plain spelledTwice.tree ∧
      Files.sources spelledTwice.tree (.parse ".".toList) upwards = .ok spellings ∧
      (∀ p ∈ spellings, p.suffix ≠ []) ∧
      ∃ a ∈ (attempts upwards ['S'] spelledTwice.tree spellings spelledTwice.session.replies).1,
        ∃ copy text, a.report.outcome = .written copy ∧ a.written = some (copy, text) ∧
          (Run.annotate upwards ".".toList ['S'] spelledTwice).2.tree.read copy.text ≠
            .ok (Utf8.encode text) := by
  have plain : Plain spelledTwice.tree := by decide
  have extended : ∀ p ∈ spellings, p.suffix ≠ [] := by decide
  refine ⟨plain, sources_spelledTwice, extended, ?_⟩
  obtain ⟨-, htree, -⟩ := annotate_eq_attempts ['S'] plain sources_spelledTwice extended
    (List.pairwise_of_forall_mem_list fun p hp q hq h => absurd h (not_strays_spellings p hp))
  obtain ⟨hfirst, hsecond, hdiffer⟩ := written_spelledAttempt
  rw [attempts_spelledTwice] at htree ⊢
  generalize hf : spelledAttempt "a".toList spelledTwice.session.replies = first at *
  generalize spelledAttempt "b".toList first.session.replies = second at *
  obtain ⟨⟨copy, text⟩, hwritten, hcopy⟩ := Option.map_eq_some_iff.mp hfirst
  obtain ⟨⟨copy', text'⟩, hwritten', hcopy'⟩ := Option.map_eq_some_iff.mp hsecond
  have hplace : first.placed? spelledTwice.tree = some (["x.n.cs".toList], text) := by
    simp only [Attempt.placed?, hwritten, Option.bind_some, hcopy, leadsTo?_spelled_copies]
    rfl
  have hplace' : second.placed? spelledTwice.tree = some (["x.n.cs".toList], text') := by
    simp only [Attempt.placed?, hwritten', Option.bind_some, hcopy', leadsTo?_spelled_copies]
    rfl
  rw [List.filterMap_cons_some hplace, List.filterMap_cons_some hplace', List.filterMap_nil]
    at htree
  refine ⟨first, List.mem_cons_self, copy, text, ?_, hwritten, ?_⟩
  · rw [← hf] at hwritten ⊢
    exact outcome_attempt_eq_written_iff.mpr ⟨text, hwritten⟩
  · rw [htree, hcopy, read_second_copy]
    intro hsame
    rw [hwritten, hwritten'] at hdiffer
    exact hdiffer (congrArg some (Except.ok.inj hsame).symm)

end Spellings

end MappingMarkers.Proofs.FileIsolation
