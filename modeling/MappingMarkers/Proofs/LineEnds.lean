import Mathlib.Data.List.InsertIdx
import MappingMarkers.Catalog.Injection
import MappingMarkers.Proofs.AttributeLine
import MappingMarkers.Proofs.Lines

namespace MappingMarkers.Proofs.LineEnds

open Text SourceBuffer Catalog AttributeLine Lines Splitting

section Scan

/-- The lines of a text that follows the beginning of a line. A carriage return and a line feed in a
row end the line, and so does either of them alone. -/
def scanFrom (line : Text) : Text → List Text
  | [] => [line]
  | '\r' :: '\n' :: cs => line :: scanFrom [] cs
  | c :: cs => if c = '\r' ∨ c = '\n' then line :: scanFrom [] cs else scanFrom (line ++ [c]) cs

/-- The lines of a text, by one scan from the left. -/
def scan (content : Text) : List Text := scanFrom [] content

theorem splitLines_append_eq_scanFrom {line : Text} (h : Unbroken line) (t : Text) :
    splitLines (line ++ t) = scanFrom line t := by
  fun_induction scanFrom line t with
  | case1 line => rw [List.append_nil, splitLines_of_unbroken h]
  | case2 line cs ih =>
      have hmerged : feedReturns (mergePairs ('\r' :: '\n' :: cs)) =
          '\n' :: feedReturns (mergePairs cs) := by
        rw [mergePairs.eq_2]
        rfl
      rw [splitLines_append_end h hmerged, ← ih (by decide), List.nil_append]
  | case3 line c cs hpair hend ih =>
      have hmerged : feedReturns (mergePairs (c :: cs)) = '\n' :: feedReturns (mergePairs cs) := by
        rw [mergePairs.eq_3 _ _ hpair]
        rcases hend with rfl | rfl <;> rfl
      rw [splitLines_append_end h hmerged, ← ih (by decide), List.nil_append]
  | case4 line c cs hpair hinside ih =>
      obtain ⟨hr, hn⟩ := not_or.mp hinside
      have hc : Unbroken [c] := ⟨by simpa using Ne.symm hr, by simpa using Ne.symm hn⟩
      rw [← ih (h.append hc), List.append_assoc, List.singleton_append]

/-- Replacing the line ends one kind after the other and then cutting is one scan. -/
theorem splitLines_eq_scan (content : Text) : splitLines content = scan content := by
  have hempty : Unbroken [] := by decide
  exact splitLines_append_eq_scanFrom hempty content

end Scan

section Buffer

/-- A carriage return inside a line of the buffer has come with a marker that was put in. -/
def Traced (b : SourceBuffer) : Prop :=
  ∀ line ∈ b.lines, '\r' ∈ line → ∃ marker ∈ b.inserted, '\r' ∈ marker

variable {b : SourceBuffer}

theorem traced_ofText (content : Text) : Traced (ofText content) := by
  intro line hline hreturn
  exact absurd hreturn (unbroken_of_mem_splitLines hline).1

theorem Traced.insertAbove (traced : Traced b) (i : Nat) (marker : Text) :
    Traced (b.insertAbove i marker) := by
  rw [SourceBuffer.insertAbove, put?]
  cases htarget : b.lines[i]? with
  | none => exact traced
  | some target =>
      have hearlier : ∀ line ∈ b.lines, '\r' ∈ line →
          ∃ m ∈ b.inserted ++ [marker], '\r' ∈ m := by
        intro line hline hreturn
        obtain ⟨m, hm, hreturn⟩ := traced line hline hreturn
        exact ⟨m, List.mem_append_left _ hm, hreturn⟩
      intro line hline hreturn
      rcases List.eq_or_mem_of_mem_insertIdx hline with rfl | hline
      · rcases List.mem_append.mp hreturn with hindent | hmarker
        · exact hearlier target (List.mem_of_getElem? htarget) (indent_subset target hindent)
        · exact ⟨marker, by simp, hmarker⟩
      · exact hearlier line hline hreturn

theorem Traced.fulfil (traced : Traced b) (r : Request) : Traced (Injection.fulfil b r) := by
  rw [Injection.fulfil]
  cases Injection.place? b r.target r.guard with
  | none => exact traced
  | some i => exact traced.insertAbove i r.marker

theorem Traced.foldl_fulfil (traced : Traced b) (rs : List Request) :
    Traced (rs.foldl Injection.fulfil b) := by
  induction rs generalizing b with
  | nil => exact traced
  | cons r rest ih => exact ih (traced.fulfil r)

theorem Traced.exists_of_text (traced : Traced b) (h : '\r' ∈ b.text) :
    ∃ marker ∈ b.inserted, '\r' ∈ marker := by
  rcases mem_joined h with hfeed | ⟨line, hline, hreturn⟩
  · exact absurd hfeed (by decide)
  · exact traced line hline hreturn

theorem keeps_fulfilAll {p : SourceBuffer → Prop} {drafts : List Draft}
    (hstep : ∀ b r, Draft.ready r ∈ drafts → p b → p (Injection.fulfil b r)) {last : SourceBuffer}
    (hb : p b) (h : (fulfilAll b drafts).1 = some last) : p last := by
  induction drafts generalizing b with
  | nil => rwa [← Option.some.inj h]
  | cons draft drafts ih =>
      have hrest := fun b r hr => hstep b r (List.mem_cons_of_mem _ hr)
      cases draft with
      | untargeted => contradiction
      | unmarked target guard =>
          rw [fulfilAll] at h
          split_ifs at h
          exact ih hrest hb h
      | ready r => exact ih hrest (hstep b r List.mem_cons_self hb) h

end Buffer

section Outcome

/-- The outcomes of injecting the same keys into two texts with the same lines. -/
structure Alike (first second : Text) (x y : Injection) : Prop where
  changed : x.changed = y.changed
  inserted : x.inserted = y.inserted
  text : x.changed = true → x.text = y.text
  /-- Where the text changes, a carriage return in it has come with a marker. -/
  traced : x.changed = true → '\r' ∈ x.text → ∃ marker ∈ x.inserted, '\r' ∈ marker
  untouched : x.changed = false → x.text = first ∧ y.text = second

variable {first second : Text}

theorem ofText_congr (h : splitLines first = splitLines second) : ofText first = ofText second := by
  rw [ofText, ofText, h]

theorem alike_ofBuffer {b : SourceBuffer} (traced : Traced b) :
    Alike first second (Injection.ofBuffer first b) (Injection.ofBuffer second b) := by
  rw [Injection.ofBuffer, Injection.ofBuffer]
  cases b.changed with
  | true =>
      exact ⟨rfl, rfl, fun _ => rfl, fun _ => traced.exists_of_text, fun h => Bool.noConfusion h⟩
  | false =>
      exact ⟨rfl, rfl, fun h => Bool.noConfusion h, fun h => Bool.noConfusion h,
        fun _ => ⟨rfl, rfl⟩⟩

theorem alike_inject (h : splitLines first = splitLines second) (keys : TableKeys Text) :
    Alike first second (inject first keys) (inject second keys) := by
  rw [inject, inject, ← ofText_congr h]
  exact alike_ofBuffer ((traced_ofText first).foldl_fulfil _)

theorem alike_injectKeys (h : splitLines first = splitLines second) (keys : TableKeys Cell) :
    (injectKeys first keys).2 = (injectKeys second keys).2 ∧
      ((∃ fault, (injectKeys first keys).1 = .error fault ∧
          (injectKeys second keys).1 = .error fault) ∨
        ∃ x y, (injectKeys first keys).1 = .ok x ∧ (injectKeys second keys).1 = .ok y ∧
          Alike first second x y) := by
  rw [injectKeys, injectKeys, ← ofText_congr h]
  cases hlast : fulfilAll (ofText first) (Draft.ofKeys keys) with
  | mk last log =>
      cases last with
      | none => exact ⟨rfl, Or.inl ⟨_, rfl, rfl⟩⟩
      | some b =>
          have traced : Traced b :=
            keeps_fulfilAll (fun _ r _ h => h.fulfil r) (traced_ofText first)
              (congrArg Prod.fst hlast)
          exact ⟨rfl, Or.inr ⟨_, _, rfl, rfl, alike_ofBuffer traced⟩⟩

end Outcome

/-- The lines are those of one scan, none of them has a line end inside, and lines joined by line
feeds are cut again as they were. So the line ends of a text make no difference to what is put into
it: two texts with the same lines get the same markers, and come out as the same text or, where
nothing is put in, each as it was. -/
theorem inject_alike :
    (∀ content, splitLines content = scan content ∧ splitLines content ≠ [] ∧
      ∀ line ∈ splitLines content, Unbroken line) ∧
    (∀ lines, lines ≠ [] → (∀ line ∈ lines, Unbroken line) →
      splitLines (joinLines lines) = lines) ∧
    ∀ first second, splitLines first = splitLines second →
      (∀ keys : TableKeys Text, Alike first second (inject first keys) (inject second keys)) ∧
      ∀ keys : TableKeys Cell, (injectKeys first keys).2 = (injectKeys second keys).2 ∧
        ((∃ fault, (injectKeys first keys).1 = .error fault ∧
            (injectKeys second keys).1 = .error fault) ∨
          ∃ x y, (injectKeys first keys).1 = .ok x ∧ (injectKeys second keys).1 = .ok y ∧
            Alike first second x y) := by
  refine ⟨fun content => ?_, fun lines => splitLines_joinLines, fun first second h => ?_⟩
  · exact ⟨splitLines_eq_scan content, splitLines_ne_nil content,
      fun line => unbroken_of_mem_splitLines⟩
  · exact ⟨alike_inject h, alike_injectKeys h⟩

theorem inject_alike_mixedEnds :
    let first := "\tpublic int Id \x7bget;set;\x7d\r\r\nx\r".toList
    let second := "\tpublic int Id \x7bget;set;\x7d\n\nx\n".toList
    let declared : TableKeys Text := { table := ['T'], primary := ["ID".toList], foreign := [] }
    let other : TableKeys Text := { table := ['T'], primary := ["NO".toList], foreign := [] }
    let unnamed : TableKeys Cell :=
      { table := ['T'], primary := [some "ID".toList, none], foreign := [] }
    splitLines first = splitLines second ∧ first ≠ second ∧
      (inject first declared).changed = true ∧
      (inject first declared).text = (inject second declared).text ∧
      (inject first other).changed = false ∧
      (inject first other).text = first ∧ (inject second other).text = second ∧
      (injectKeys first unnamed).2 = (injectKeys second unnamed).2 ∧
      (splitLines first ≠ [] ∧ (∀ line ∈ splitLines first, Unbroken line) ∧
        splitLines (joinLines (splitLines first)) = splitLines first) := by
  intro first second declared other unnamed
  have hsame : splitLines first = splitLines second := by decide
  have hchanged : (inject first declared).changed = true := by decide +kernel
  have hunchanged : (inject first other).changed = false := by decide +kernel
  obtain ⟨hscan, hjoined, halike⟩ := inject_alike
  obtain ⟨hinject, hkeys⟩ := halike first second hsame
  obtain ⟨hfirst, hsecond⟩ := (hinject other).untouched hunchanged
  obtain ⟨-, hne, hunbroken⟩ := hscan first
  exact ⟨hsame, by decide, hchanged, (hinject declared).text hchanged, hunchanged, hfirst, hsecond,
    (hkeys unnamed).1, hne, hunbroken, hjoined _ hne hunbroken⟩

end MappingMarkers.Proofs.LineEnds
