import Mathlib
import MappingMarkers.Proofs.FileAttempts

/-!
A run over all source files is the attempts at them, each as on the tree before the run: the copies
that are written on the way stand where no source is, and none of them keeps another from being
opened.
-/

namespace MappingMarkers.Proofs.RunAttempts

open Text Files Catalog FileNames TreeWalk TreeCopies SessionWork SourceListing FileAttempts

section Stability

variable {s : Settings} {schema : Text} {t : Tree} {files : List Path}
  {done : List (List Text × Text)}

/-- Written copies that stand where neither a directory nor a source is. -/
structure Settled (t : Tree) (files : List Path) (done : List (List Text × Text)) : Prop where
  free : ∀ copy ∈ done, t.find? copy.1 ≠ some .directory
  apart : ∀ copy ∈ done, ∀ q ∈ files, leadsTo? t q.text ≠ some copy.1

theorem Settled.grown (unlinked : Unlinked t) (settled : Settled t files done) :
    Grown t (copied t done) :=
  grown_copied unlinked settled.free

theorem Settled.find? (settled : Settled t files done) (names : List Text) :
    (copied t done).find? names =
      ((lastText? done names).map fun text => .file (Utf8.encode text)).or (t.find? names) :=
  find?_copied t settled.free names

theorem Settled.read (unlinked : Unlinked t) (settled : Settled t files done) {p : Path}
    (hp : p ∈ files) {home : List Text} {bytes : List UInt8} (source : Source s t p home bytes) :
    (copied t done).read p.text = t.read p.text := by
  have grown := settled.grown unlinked
  have hlast : lastText? done (home ++ [p.name]) = none := by
    apply lastText?_eq_none_iff.mpr
    intro copy hcopy hplace
    exact settled.apart copy hcopy p hp (by rw [source.leadsTo? unlinked, hplace])
  have hfile : (copied t done).find? (home ++ [p.name]) = some (.file bytes) := by
    rw [settled.find?, hlast, source.file]
    rfl
  rw [source.read unlinked,
    (source.leads.grown unlinked grown).read grown.unlinked source.fit hfile]

theorem Settled.copy_leadsTo? (unlinked : Unlinked t) (settled : Settled t files done)
    {p copy : Path} {home : List Text} {bytes : List UInt8} (source : Source s t p home bytes)
    (hcopy : s.outputPath p = .ok copy) :
    leadsTo? (copied t done) copy.text = leadsTo? t copy.text := by
  have grown := settled.grown unlinked
  have hleads := source.copy_leads copy hcopy
  rw [hleads.leadsTo? unlinked, (hleads.grown unlinked grown).leadsTo? grown.unlinked]

theorem Settled.exists_file (settled : Settled t files done) {names : List Text}
    {bytes : List UInt8} (h : t.find? names = some (.file bytes)) :
    ∃ bytes', (copied t done).find? names = some (.file bytes') := by
  rw [settled.find?, h]
  cases lastText? done names with
  | none => exact ⟨bytes, rfl⟩
  | some text => exact ⟨Utf8.encode text, rfl⟩

theorem Settled.copyRefusal? (unlinked : Unlinked t) (settled : Settled t files done) {p : Path}
    {home : List Text} {bytes : List UInt8} (source : Source s t p home bytes) :
    copyRefusal? s (copied t done) p = copyRefusal? s t p := by
  have grown := settled.grown unlinked
  rw [FileAttempts.copyRefusal?, FileAttempts.copyRefusal?]
  cases hcopy : s.outputPath p with
  | error e => rfl
  | ok copy =>
      have hleads := source.copy_leads copy hcopy
      simp only [Except.toOption, Option.bind_some]
      rw [hleads.refusal? unlinked, (hleads.grown unlinked grown).refusal? grown.unlinked]
      simp only [grown.directory]

theorem Settled.append (settled : Settled t files done) {more : List (List Text × Text)}
    (hmore : Settled t files more) : Settled t files (done ++ more) := by
  constructor
  · intro copy hcopy
    rcases List.mem_append.mp hcopy with h | h
    · exact settled.free copy h
    · exact hmore.free copy h
  · intro copy hcopy
    rcases List.mem_append.mp hcopy with h | h
    · exact settled.apart copy h
    · exact hmore.apart copy h

theorem Settled.tail {p : Path} (settled : Settled t (p :: files) done) : Settled t files done :=
  ⟨settled.free, fun copy hcopy q hq => settled.apart copy hcopy q (List.mem_cons_of_mem _ hq)⟩

end Stability

section Run

variable {s : Settings} {schema : Text} {t : Tree} {files : List Path}

/-- The copy of `p` does not lead to where `q` is. -/
def Spares (s : Settings) (t : Tree) (p q : Path) : Prop :=
  ∀ copy, s.outputPath p = .ok copy → leadsTo? t copy.text ≠ leadsTo? t q.text

theorem spares_of_straight (unlinked : Unlinked t)
    (sources : ∀ p ∈ files, ∃ home bytes, Source s t p home bytes) {p q : Path} (hp : p ∈ files)
    (hq : q ∈ files) (straight : Strays s p → Spares s t p q) : Spares s t p q := by
  by_cases hstrays : Strays s p
  · exact straight hstrays
  obtain ⟨home, bytes, source⟩ := sources p hp
  obtain ⟨home', bytes', source'⟩ := sources q hq
  intro copy hcopy hsame
  have hplace := hsame.trans (source'.leadsTo? unlinked)
  exact source.copy_ne unlinked source' hcopy hstrays hplace rfl

theorem leadsTo?_of_placed? {a : Attempt} {names : List Text} {text : Text}
    (h : a.placed? t = some (names, text)) :
    ∃ copy, a.written = some (copy, text) ∧ leadsTo? t copy.text = some names := by
  obtain ⟨⟨copy, other⟩, hwritten, hplace⟩ := Option.bind_eq_some_iff.mp h
  obtain ⟨there, hthere, heq⟩ := Option.map_eq_some_iff.mp hplace
  obtain ⟨rfl, rfl⟩ := Prod.mk.inj heq
  exact ⟨copy, hwritten, hthere⟩

theorem settled_attempt (schema : Text) (unlinked : Unlinked t) {p : Path} {home : List Text}
    {bytes : List UInt8} (source : Source s t p home bytes)
    (spares : ∀ q ∈ files, Spares s t p q) (replies : List Reply) :
    Settled t files
      ((attempt s schema p (t.read p.text) (copyRefusal? s t p) replies).placed? t).toList := by
  have hplace : ∀ copy ∈ ((attempt s schema p (t.read p.text) (copyRefusal? s t p)
      replies).placed? t).toList, ∃ path, s.outputPath p = .ok path ∧
        refusal? t path.text = none ∧ leadsTo? t path.text = some copy.1 := by
    rintro ⟨names, text⟩ hcopy
    obtain ⟨path, hwritten, hleads⟩ := leadsTo?_of_placed? (Option.mem_toList.mp hcopy)
    obtain ⟨hpath, hrefusal⟩ := written_attempt hwritten
    rw [copyRefusal?, hpath] at hrefusal
    exact ⟨path, hpath, hrefusal, hleads⟩
  constructor
  · intro copy hcopy
    obtain ⟨path, hpath, hrefusal, hleads⟩ := hplace copy hcopy
    rw [(source.copy_leads path hpath).refusal? unlinked, Option.or_eq_none_iff] at hrefusal
    rw [source.copy_leadsTo? unlinked hpath hleads]
    intro hdirectory
    simp [hdirectory] at hrefusal
  · intro copy hcopy q hq
    obtain ⟨path, hpath, -, hleads⟩ := hplace copy hcopy
    rw [← hleads]
    exact (spares q hq path hpath).symm

theorem Settled.placed? (unlinked : Unlinked t) {done : List (List Text × Text)}
    (settled : Settled t files done) {p : Path} {home : List Text} {bytes : List UInt8}
    (source : Source s t p home bytes) (reading : Except AccessError (List UInt8))
    (refusal : Option AccessError) (replies : List Reply) :
    (attempt s schema p reading refusal replies).placed? (copied t done) =
      (attempt s schema p reading refusal replies).placed? t := by
  rw [Attempt.placed?, Attempt.placed?]
  cases hwritten : (attempt s schema p reading refusal replies).written with
  | none => rfl
  | some copy =>
      obtain ⟨path, text⟩ := copy
      have hpath := (written_attempt hwritten).1
      simp only [Option.bind_some]
      rw [settled.copy_leadsTo? unlinked source hpath]

theorem annotateEach_eq_attempts (schema : Text) (unlinked : Unlinked t) {paths : List Path}
    (sources : ∀ p ∈ paths, ∃ home bytes, Source s t p home bytes)
    (spares : paths.Pairwise (Spares s t)) {done : List (List Text × Text)}
    (settled : Settled t paths done) {w : Workspace} (htree : w.tree = copied t done) :
    let tried := attempts s schema t paths w.session.replies
    let run := Run.annotateEach s schema paths w
    run.1 = tried.1.map (·.report) ∧
      run.2.tree = copied t (done ++ tried.1.filterMap (·.placed? t)) ∧
      run.2.session =
        { replies := tried.2
          events := w.session.events ++ tried.1.flatMap (·.session.events) } := by
  -- The tree stays the one before the run, with the settled copies of the files so far.
  induction paths generalizing done w with
  | nil =>
      simp only [attempts, Run.annotateEach]
      exact ⟨rfl, by simpa using htree, by simp⟩
  | cons p paths ih =>
      obtain ⟨home, bytes, source⟩ := sources p List.mem_cons_self
      obtain ⟨hspares, hrest⟩ := List.pairwise_cons.mp spares
      have hfile := annotateFile_eq_attempt s schema p w
      simp only [htree, settled.read unlinked List.mem_cons_self source,
        settled.copyRefusal? unlinked source, settled.placed? unlinked source, ← copied_append]
        at hfile
      cases hrun : Run.annotateFile s schema p w with
      | mk report next =>
          rw [hrun] at hfile
          simp only at hfile
          obtain ⟨hreport, hnext, hsession⟩ := hfile
          have hsettled := settled.tail.append
            (settled_attempt schema unlinked source hspares w.session.replies)
          have hothers :=
            ih (fun q hq => sources q (List.mem_cons_of_mem _ hq)) hrest hsettled hnext
          simp only [hsession, since] at hothers
          simp only [attempts, Run.annotateEach, hrun]
          refine ⟨by rw [hothers.1, hreport, List.map_cons], ?_, ?_⟩
          · rw [hothers.2.1, List.append_assoc, List.filterMap_cons]
            cases (attempt s schema p (t.read p.text) (copyRefusal? s t p)
              w.session.replies).placed? t with
            | none => rfl
            | some copy => rfl
          · rw [hothers.2.2, List.flatMap_cons, List.append_assoc]

theorem annotate_of_sources_error (schema : Text) {root : Text} {w : Workspace} {fault : Fault}
    (failed : Files.sources w.tree (.parse root) s = .error fault) :
    Run.annotate s root schema w = (.error fault, w) := by
  simp only [Run.annotate, failed]

/-- A run does what the attempts at the listed files tell, each as on the tree before the run. -/
theorem annotate_eq_attempts (schema : Text) {root : Text} {w : Workspace} (plain : Plain w.tree)
    (listed : Files.sources w.tree (.parse root) s = .ok files)
    (extended : ∀ p ∈ files, p.suffix ≠ [])
    (straight : files.Pairwise fun p q => Strays s p → Spares s w.tree p q) :
    let tried := attempts s schema w.tree files w.session.replies
    let run := Run.annotate s root schema w
    run.1 = .ok (tried.1.map (·.report)) ∧
      run.2.tree = copied w.tree (tried.1.filterMap (·.placed? w.tree)) ∧
      run.2.session =
        { replies := tried.2
          events := w.session.events ++ tried.1.flatMap (·.session.events) } := by
  have sources : ∀ p ∈ files, ∃ home bytes, Source s w.tree p home bytes := fun p hp =>
    exists_source plain listed hp (extended p hp)
  have spares : files.Pairwise (Spares s w.tree) :=
    straight.imp_of_mem fun hp hq => spares_of_straight plain.unlinked_find? sources hp hq
  simp only [Run.annotate, listed]
  cases files with
  | nil => exact ⟨rfl, rfl, by simp [attempts, Workspace.note]⟩
  | cons p paths =>
      have settled : Settled w.tree (p :: paths) [] := ⟨by simp, by simp⟩
      obtain ⟨hreports, htree, hsession⟩ := annotateEach_eq_attempts schema plain.unlinked_find?
        sources spares settled (w := w.note [Run.entry .info
          ("Found ".toList ++ ofNat (p :: paths).length ++ " candidate file(s) under ".toList ++
            root)]) rfl
      exact ⟨congrArg Except.ok hreports, htree, hsession⟩

end Run

section Strays

/-- Settings with a marker that sends the copy of a file named with a dot alone to another name, and
with a suffix that finds files through the directories beside them. -/
def sidewards : Settings :=
  { fileSuffix := "/../*.cs".toList, outputMarker := "/x".toList, dryRun := false, callTimeout := 0,
    exactNames := false }

/-- Two mapped sources above the working directory, one of which strays. -/
def strayed : Workspace where
  tree :=
    { entries := [(["a".toList], .directory), (["b".toList], .directory),
        (["..cs".toList], .file (Utf8.encode "[Table(\"T\")]\npublic int A \x7bget;set;\x7d".toList)),
        (["y.cs".toList], .file (Utf8.encode "[Table(\"U\")]\npublic int B \x7bget;set;\x7d".toList))]
      home := ["a".toList] }
  session :=
    { replies := [.rows [[some ['A']]], .rows [], .rows [], .rows [[some ['B']]], .rows [],
        .rows [], .rows [[some ['A']]]] }

def through (directory name : Text) : Path :=
  { root := [], parts := ["..".toList, directory, "..".toList, name] }

def strayedFiles : List Path :=
  [through ['a'] "..cs".toList, through ['a'] "y.cs".toList, through ['b'] "..cs".toList,
    through ['b'] "y.cs".toList]

theorem sources_strayed :
    Files.sources strayed.tree (.parse "..".toList) sidewards = .ok strayedFiles := by
  cbv

theorem spares_strayed :
    ∀ p ∈ strayedFiles, ∀ q ∈ strayedFiles, Spares sidewards strayed.tree p q := by
  have hcopies : ∀ p ∈ strayedFiles, ∀ copy, sidewards.outputPath p = .ok copy →
      leadsTo? strayed.tree copy.text = some ["x.cs".toList] := by
    simp only [strayedFiles, List.forall_mem_cons, List.not_mem_nil, false_implies, implies_true,
      and_true]
    refine ⟨fun copy h => ?_, fun copy h => ?_, fun copy h => ?_, fun copy h => ?_⟩
    · obtain rfl := Except.ok.inj h
      cbv
    · contradiction
    · obtain rfl := Except.ok.inj h
      cbv
    · contradiction
  have hsources : ∀ q ∈ strayedFiles, leadsTo? strayed.tree q.text = some ["..cs".toList] ∨
      leadsTo? strayed.tree q.text = some ["y.cs".toList] := by
    simp only [strayedFiles, List.forall_mem_cons, List.not_mem_nil, false_implies, implies_true,
      and_true]
    exact ⟨.inl (by cbv), .inr (by cbv), .inl (by cbv), .inr (by cbv)⟩
  intro p hp q hq copy hcopy
  rw [hcopies p hp copy hcopy]
  rcases hsources q hq with hplace | hplace
  · rw [hplace]
    decide
  · rw [hplace]
    decide

end Strays

end MappingMarkers.Proofs.RunAttempts
