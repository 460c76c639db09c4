import Mathlib
import MappingMarkers.Proofs.FileAttempts
import MappingMarkers.Proofs.LineEnds
import MappingMarkers.Proofs.LinkedWalk
import MappingMarkers.Proofs.OnePassInjection
import MappingMarkers.Proofs.Utf8RoundTrip

namespace MappingMarkers.Proofs.FileRoundTrip

open Text Files Catalog TreeCopies LinkedWalk SourceListing FileAttempts Utf8RoundTrip

section Reading

theorem readSource_of_read {t : Tree} {path : Text} {bytes : List UInt8}
    (h : t.read path = .ok bytes) :
    readSource t path = (Utf8.decodeFile bytes).mapError .decoding := by
  rw [readSource, h]
  rfl

theorem readSource_encode {t : Tree} {path content : Text}
    (h : t.read path = .ok (Utf8.encode content)) :
    readSource t path = .ok (unmarked content) := by
  rw [readSource_of_read h, decodeFile_encode]
  rfl

theorem write_of_writeCopy {s : Settings} {t t' : Tree} {source copy : Path} {content : Text}
    (h : writeCopy t source content s = .ok (copy, t')) :
    s.outputPath source = .ok copy ∧ t.write copy.text (Utf8.encode content) = .ok t' := by
  obtain ⟨path, hpath, h⟩ := bind_eq_ok_iff.mp h
  cases hwrite : t.write path.text (Utf8.encode content) with
  | error e =>
      rw [hwrite] at h
      cases e with
      | nul => contradiction
      | system code p => contradiction
  | ok tree =>
      rw [hwrite] at h
      obtain ⟨rfl, rfl⟩ := Prod.mk.inj (Except.ok.inj h)
      exact ⟨mapError_eq_ok_iff.mp hpath, hwrite⟩

theorem exists_write_of_write {t t' : Tree} {path : Text} {bytes : List UInt8}
    (h : t.write path bytes = .ok t') (other : List UInt8) : ∃ t', t.write path other = .ok t' := by
  cases hrefusal : refusal? t path with
  | some e =>
      rw [write_of_refusal bytes hrefusal] at h
      contradiction
  | none =>
      obtain ⟨names, -, hwrite⟩ := exists_write hrefusal
      exact ⟨_, hwrite other⟩

end Reading

section Heads

variable {content : Text}

theorem head?_of_splitLines {line : Text} {lines : List Text}
    (h : splitLines content = line :: lines) {c : Char} (hc : line.head? = some c) :
    content.head? = some c := by
  rcases Lines.unbroken_or_exists_lineEnd content with
    hline | ⟨first, mark, rest, rfl, hline, hmark, hend⟩
  · rw [Lines.splitLines_of_unbroken hline] at h
    rwa [(List.cons.inj h).1]
  · rw [Lines.splitLines_append_end hline hend] at h
    rw [(List.cons.inj h).1, List.head?_append, hc]
    rfl

/-- The first line begins with the mark only where the text does. -/
def Faithful (content : Text) (b : SourceBuffer) : Prop :=
  ∀ line, b.lines.head? = some line → line.head? = some mark → content.head? = some mark

theorem faithful_ofText : Faithful content (SourceBuffer.ofText content) := by
  intro line hline hmark
  obtain ⟨lines, hlines⟩ := List.head?_eq_some_iff.mp hline
  exact head?_of_splitLines hlines hmark

theorem head?_indent_append_ne_mark (target : Text) {marker : Text}
    (hmarker : AttributeLine.Bracketed marker) : (indent target ++ marker).head? ≠ some mark := by
  intro h
  cases hindent : indent target with
  | nil =>
      rw [hindent, List.nil_append, hmarker] at h
      contradiction
  | cons c blanks =>
      rw [hindent, List.cons_append] at h
      have hblank : isBlank c = true :=
        AttributeLine.isBlank_of_mem_indent (hindent ▸ List.mem_cons_self)
      rw [Option.some.inj h] at hblank
      contradiction

theorem Faithful.insertAbove {b : SourceBuffer} (faithful : Faithful content b) (i : Nat)
    {marker : Text} (hmarker : AttributeLine.Bracketed marker) :
    Faithful content (b.insertAbove i marker) := by
  rw [SourceBuffer.insertAbove, SourceBuffer.put?]
  cases htarget : b.lines[i]? with
  | none => exact faithful
  | some target =>
      intro line hline hmark
      simp only [Option.map_some, Option.getD_some] at hline
      cases i with
      | zero =>
          rw [List.insertIdx_zero, List.head?_cons, Option.some.injEq] at hline
          rw [← hline] at hmark
          exact absurd hmark (head?_indent_append_ne_mark target hmarker)
      | succ i =>
          obtain ⟨first, lines, hlines⟩ := List.exists_cons_of_ne_nil
            (List.ne_nil_of_mem (List.mem_of_getElem? htarget))
          rw [hlines, List.insertIdx_succ_cons, List.head?_cons, Option.some.injEq] at hline
          exact faithful line (by rw [hlines, List.head?_cons, hline]) hmark

theorem Faithful.fulfil {b : SourceBuffer} (faithful : Faithful content b) {r : Request}
    (hr : AttributeLine.Bracketed r.marker) : Faithful content (Injection.fulfil b r) := by
  rw [Injection.fulfil]
  cases Injection.place? b r.target r.guard with
  | none => exact faithful
  | some i => exact faithful.insertAbove i hr

theorem bracketed_of_mem_ofKeys {keys : TableKeys Cell} {r : Request}
    (h : Draft.ready r ∈ Draft.ofKeys keys) : AttributeLine.Bracketed r.marker := by
  simp only [Draft.ofKeys, List.mem_append, List.mem_flatMap, List.mem_map] at h
  rcases h with (⟨column, -, h⟩ | ⟨key, -, column, -, h⟩) | ⟨key, -, h⟩
  · cases column with
    | none => simp [Draft.ofPrimary] at h
    | some column =>
        obtain ⟨other, hother, hsame⟩ := List.mem_map.mp h
        rw [← Draft.ready.inj hsame]
        rcases List.mem_pair.mp hother with rfl | rfl
        · rfl
        · exact OnePassInjection.bracketed_column column
  · cases column with
    | none => contradiction
    | some column =>
        rw [← Draft.ready.inj h]
        exact OnePassInjection.bracketed_column column
  · rw [Draft.ofForeignKey] at h
    split_ifs at h
    · simp at h
    cases hrefTable : key.refTable with
    | none => simp [hrefTable] at h
    | some refTable =>
        cases hpairs : Draft.namedPairs? key.pairs with
        | none => simp [hrefTable, hpairs] at h
        | some pairs =>
            rw [hrefTable, hpairs] at h
            obtain ⟨other, hother, hsame⟩ := List.mem_map.mp h
            rw [← Draft.ready.inj hsame]
            rw [Request.ofForeignKey] at hother
            split_ifs at hother
            · simp at hother
            · rw [List.mem_singleton.mp hother]
              exact OnePassInjection.bracketed_association _

theorem Faithful.head?_of_text {b : SourceBuffer} (faithful : Faithful content b)
    (h : b.text.head? = some mark) : content.head? = some mark := by
  rw [SourceBuffer.text] at h
  cases hlines : b.lines with
  | nil =>
      rw [hlines] at h
      contradiction
  | cons line lines =>
      refine faithful line (by rw [hlines, List.head?_cons]) ?_
      rw [hlines] at h
      cases lines with
      | nil => simpa [joinLines, joined] using h
      | cons next lines =>
          rw [Lines.joinLines_cons_cons, List.head?_append] at h
          cases hline : line.head? with
          | none =>
              rw [hline] at h
              exact absurd (Option.some.inj h) (by decide)
          | some c => simpa [hline] using h

theorem head?_text_of_injectKeys {keys : TableKeys Cell} {injection : Injection}
    (h : (injectKeys content keys).1 = .ok injection)
    (hmark : injection.text.head? = some mark) : content.head? = some mark := by
  rw [injectKeys] at h
  cases hlast : (fulfilAll (SourceBuffer.ofText content) (Draft.ofKeys keys)) with
  | mk last log =>
      rw [hlast] at h
      cases last with
      | none => contradiction
      | some b =>
          have faithful : Faithful content b :=
            LineEnds.keeps_fulfilAll (fun _ _ hr h => h.fulfil (bracketed_of_mem_ofKeys hr))
              faithful_ofText (congrArg Prod.fst hlast)
          rw [← Except.ok.inj h, Injection.ofBuffer] at hmark
          split_ifs at hmark
          · exact faithful.head?_of_text hmark
          · exact hmark

end Heads

section Runs

variable {s : Settings} {schema : Text} {path copy : Path}

theorem attempt_congr {bytes bytes' : List UInt8}
    (h : Utf8.decodeFile bytes = Utf8.decodeFile bytes') (refusal : Option AccessError)
    (replies : List Reply) :
    attempt s schema path (.ok bytes) refusal replies =
      attempt s schema path (.ok bytes') refusal replies := by
  simp only [attempt, appraise, h]

theorem exists_injection_of_written {bytes : List UInt8} {content text : Text}
    (hcontent : Utf8.decodeFile bytes = .ok content) {refusal : Option AccessError}
    {replies : List Reply}
    (h : (attempt s schema path (.ok bytes) refusal replies).written = some (copy, text)) :
    ∃ keys injection, (injectKeys content keys).1 = .ok injection ∧ injection.text = text := by
  simp only [attempt] at h
  cases happraise : (appraise s schema path (.ok bytes) { replies }).1 with
  | noTable => simp [happraise, conclude] at h
  | failed table f => simp [happraise, conclude] at h
  | unchanged table => simp [happraise, conclude] at h
  | ready table other injection =>
      have htext : injection.text = text := by
        simp only [happraise, conclude] at h
        split_ifs at h
        cases refusal with
        | some e => simp at h
        | none => exact (Prod.mk.inj (Option.some.inj h)).2
      simp only [appraise, hcontent] at happraise
      cases htable : Attribute.tableName? content with
      | none => simp [htable] at happraise
      | some mapped =>
          simp only [htable] at happraise
          cases hload : loadKeys schema mapped { replies } with
          | mk outcome session =>
              rw [hload] at happraise
              cases outcome with
              | error f => simp at happraise
              | ok keys =>
                  cases hinjection : (injectKeys content keys).1 with
                  | error f => simp [hinjection] at happraise
                  | ok made =>
                      refine ⟨keys, made, hinjection, ?_⟩
                      simp only [hinjection] at happraise
                      split_ifs at happraise
                      cases hcopy : s.outputPath path with
                      | error e => simp [hcopy] at happraise
                      | ok copy =>
                          simp only [hcopy, Run.Examination.ready.injEq] at happraise
                          rw [happraise.2.2, htext]

theorem read_copy_of_written {w : Workspace}
    (h : (Run.annotateFile s schema path w).1.outcome = .written copy) :
    ∃ text, (attempt s schema path (w.tree.read path.text) (copyRefusal? s w.tree path)
        w.session.replies).written = some (copy, text) ∧
      (Run.annotateFile s schema path w).2.tree.read copy.text = .ok (Utf8.encode text) := by
  obtain ⟨hreport, htree, -⟩ := annotateFile_eq_attempt s schema path w
  rw [hreport] at h
  obtain ⟨text, hwritten⟩ := outcome_attempt_eq_written_iff.mp h
  obtain ⟨hcopy, hrefusal⟩ := written_attempt hwritten
  rw [copyRefusal?, hcopy] at hrefusal
  obtain ⟨names, hnames, hwrite⟩ := exists_write hrefusal
  refine ⟨text, hwritten, ?_⟩
  rw [htree, Attempt.placed?, hwritten]
  simp only [Option.bind_some, hnames, Option.map_some, Option.toList_some]
  exact read_of_write (hwrite (Utf8.encode text))

/-- A source file that is read as text is read as the same text with the byte order mark in
front, and a run does the same with it. -/
theorem annotateFile_withMark (s : Settings) (schema : Text) (path : Path) {w : Workspace}
    {bytes : List UInt8} {text : Text} (hread : w.tree.read path.text = .ok bytes)
    (hdecode : Utf8.decode bytes = .ok text) {t : Tree}
    (hwrite : w.tree.write path.text (withMark bytes) = .ok t) (same : SameShape w.tree t) :
    (Run.annotateFile s schema path { w with tree := t }).1 =
        (Run.annotateFile s schema path w).1 ∧
      (Run.annotateFile s schema path { w with tree := t }).2.session =
        (Run.annotateFile s schema path w).2.session ∧
      ∀ copy, (Run.annotateFile s schema path w).1.outcome = .written copy →
        ∃ text', (Run.annotateFile s schema path w).2.tree.read copy.text =
            .ok (Utf8.encode text') ∧
          (Run.annotateFile s schema path { w with tree := t }).2.tree.read copy.text =
            .ok (Utf8.encode text') ∧
          (text'.head? = some mark → (unmarked text).head? = some mark) := by
  have hencode := decode_eq_ok_iff.mp hdecode
  have hplain : Utf8.decodeFile bytes = .ok (unmarked text) := by
    rw [hencode, decodeFile_encode]
  have hmarked : Utf8.decodeFile (withMark bytes) = .ok (unmarked text) := by
    rw [hencode, decodeFile_withMark]
  have hrefusal : copyRefusal? s t path = copyRefusal? s w.tree path := by
    rw [copyRefusal?, copyRefusal?]
    simp only [same.refusal?_eq]
  have hattempt : attempt s schema path (t.read path.text) (copyRefusal? s t path)
        w.session.replies =
      attempt s schema path (w.tree.read path.text) (copyRefusal? s w.tree path)
        w.session.replies := by
    rw [read_of_write hwrite, hread, hrefusal]
    exact attempt_congr (hmarked.trans hplain.symm) _ _
  have hfirst := annotateFile_eq_attempt s schema path w
  have hsecond := annotateFile_eq_attempt s schema path { w with tree := t }
  rw [hattempt] at hsecond
  have hreport := hsecond.1.trans hfirst.1.symm
  refine ⟨hreport, hsecond.2.2.trans hfirst.2.2.symm, fun copy hcopy => ?_⟩
  obtain ⟨text', hwritten, hcopied⟩ := read_copy_of_written hcopy
  obtain ⟨text'', hwritten', hcopied'⟩ := read_copy_of_written (hreport ▸ hcopy)
  obtain rfl : text'' = text' := by
    have hsame := (hattempt ▸ hwritten').symm.trans hwritten
    exact (Prod.mk.inj (Option.some.inj hsame)).2
  refine ⟨text'', hcopied, hcopied', fun hmark => ?_⟩
  rw [hread] at hwritten
  obtain ⟨keys, injection, hinjection, rfl⟩ := exists_injection_of_written hplain hwritten
  exact head?_text_of_injectKeys hinjection hmark

/-- What is written as a copy is read back but for one mark in front. A source file that is well
formed is read, and is annotated, in the same way with the byte order mark in front of it. -/
theorem files_roundTrip (s : Settings) :
    (∀ t source content copy t', writeCopy t source content s = .ok (copy, t') →
      readSource t' copy.text = .ok (unmarked content) ∧
        ∀ other, ∃ t'', writeCopy t source other s = .ok (copy, t'')) ∧
    ∀ (schema : Text) (path : Path) (w : Workspace) bytes text,
      w.tree.read path.text = .ok bytes → Utf8.decode bytes = .ok text →
      ∃ t, w.tree.write path.text (withMark bytes) = .ok t ∧
        t.read path.text = .ok (withMark bytes) ∧
        readSource w.tree path.text = .ok (unmarked text) ∧
        readSource t path.text = .ok (unmarked text) ∧
        let plain := Run.annotateFile s schema path w
        let marked := Run.annotateFile s schema path { w with tree := t }
        marked.1 = plain.1 ∧ marked.2.session = plain.2.session ∧
          ∀ copy, plain.1.outcome = .written copy →
            ∃ written, plain.2.tree.read copy.text = .ok written ∧
              marked.2.tree.read copy.text = .ok written ∧
              (Utf8.byteOrderMark <+: written → (unmarked text).head? = some mark) := by
  refine ⟨fun t source content copy t' h => ?_, fun schema path w bytes text hread hdecode => ?_⟩
  · obtain ⟨hcopy, hwrite⟩ := write_of_writeCopy h
    refine ⟨readSource_encode (read_of_write hwrite), fun other => ?_⟩
    obtain ⟨t'', hother⟩ := exists_write_of_write hwrite (Utf8.encode other)
    exact ⟨t'', writeCopy_of_write hcopy hother⟩
  · obtain ⟨t, hwrite, same⟩ := exists_write_of_read hread (withMark bytes)
    have hencode := decode_eq_ok_iff.mp hdecode
    obtain ⟨hreport, hsession, hcopies⟩ :=
      annotateFile_withMark s schema path hread hdecode hwrite same
    refine ⟨t, hwrite, read_of_write hwrite, ?_, ?_, hreport, hsession, fun copy hcopy => ?_⟩
    · rw [readSource_of_read hread, hencode, decodeFile_encode]
      rfl
    · rw [readSource_of_read (read_of_write hwrite), hencode, decodeFile_withMark]
      rfl
    · obtain ⟨text', hplain, hmarked, hhead⟩ := hcopies copy hcopy
      exact ⟨_, hplain, hmarked, fun hmark => hhead (mark_prefix_encode_iff.mp hmark)⟩

/-- A source file with one property, and a catalog that knows its table. -/
def oneFileText : Text := "[Table(\"T\")]\r\npublic int A \x7bget;set;\x7d".toList

def oneFile : Workspace where
  tree := { entries := [(["x.cs".toList], .file (Utf8.encode oneFileText))] }
  session := { replies := [.rows [[some ['A']]]] }

def oneFileSettings : Settings :=
  { fileSuffix := ".cs".toList, outputMarker := ".n".toList, dryRun := false, callTimeout := 0,
    exactNames := false }

def oneFileSource : Path := { root := [], parts := ["x.cs".toList] }

def oneFileCopy : Path := { root := [], parts := ["x.n.cs".toList] }

/-- The directory with a text as the copy. -/
def withCopy (content : Text) : Tree :=
  { entries := oneFile.tree.entries ++ [(oneFileCopy.parts, .file (Utf8.encode content))] }

theorem annotateFile_oneFile :
    (Run.annotateFile oneFileSettings ['S'] oneFileSource oneFile).1.outcome =
      .written oneFileCopy := by
  have hread : oneFile.tree.read oneFileSource.text = .ok (Utf8.encode oneFileText) ∧
      copyRefusal? oneFileSettings oneFile.tree oneFileSource = none :=
    ⟨by cbv, by cbv⟩
  rw [(annotateFile_eq_attempt oneFileSettings ['S'] oneFileSource oneFile).1, hread.1, hread.2]
  decide +kernel

theorem files_roundTrip_oneFile :
    let content := mark :: mark :: "a\r\nb\rc\n".toList
    writeCopy oneFile.tree oneFileSource content oneFileSettings =
        .ok (oneFileCopy, withCopy content) ∧
      readSource (withCopy content) oneFileCopy.text = .ok (mark :: "a\r\nb\rc\n".toList) ∧
      ∃ t, t.read oneFileSource.text = .ok (Utf8.byteOrderMark ++ Utf8.encode oneFileText) ∧
        ∃ written,
          (Run.annotateFile oneFileSettings ['S'] oneFileSource oneFile).2.tree.read
              oneFileCopy.text = .ok written ∧
            (Run.annotateFile oneFileSettings ['S'] oneFileSource
              { oneFile with tree := t }).2.tree.read oneFileCopy.text = .ok written ∧
            ¬ Utf8.byteOrderMark <+: written := by
  intro content
  obtain ⟨hcopies, hruns⟩ := files_roundTrip oneFileSettings
  have hwrite : writeCopy oneFile.tree oneFileSource content oneFileSettings =
      .ok (oneFileCopy, withCopy content) := by
    cbv
  have hread : oneFile.tree.read oneFileSource.text = .ok (Utf8.encode oneFileText) := by cbv
  obtain ⟨t, -, hmarked, -, -, -, -, hcopied⟩ :=
    hruns ['S'] oneFileSource oneFile _ _ hread (decode_encode oneFileText)
  obtain ⟨written, hplain, hsame, hhead⟩ := hcopied oneFileCopy annotateFile_oneFile
  refine ⟨hwrite, (hcopies _ _ _ _ _ hwrite).1, t, hmarked, written, hplain, hsame, fun h => ?_⟩
  exact absurd (hhead h) (by decide)

end Runs

end MappingMarkers.Proofs.FileRoundTrip
