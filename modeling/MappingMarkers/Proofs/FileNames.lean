import MappingMarkers.Proofs.Splitting
import MappingMarkers.Settings

namespace MappingMarkers.Proofs.FileNames

open Text Files Splitting

theorem splitName?_eq_some_iff {name stem ext : Text} :
    Path.splitName? name = some (stem, ext) ↔
      name = stem ++ '.' :: ext ∧ '.' ∉ ext ∧ stem ≠ [] ∧ ext ≠ [] := by
  rw [Path.splitName?, Option.filter_eq_some_iff, cutLast?_eq_some_iff]
  simp [and_assoc]

theorem name_eq_of_suffix {p : Path} (h : p.suffix ≠ []) :
    ∃ ext, p.name = p.stem ++ '.' :: ext ∧ p.suffix = '.' :: ext ∧ '.' ∉ ext ∧
      p.stem ≠ [] ∧ ext ≠ [] := by
  cases hsplit : Path.splitName? p.name with
  | none =>
      rw [Path.suffix, hsplit] at h
      contradiction
  | some cut =>
      obtain ⟨stem, ext⟩ := cut
      have hparts := splitName?_eq_some_iff.mp hsplit
      rw [Path.stem, Path.suffix, hsplit]
      exact ⟨ext, hparts.1, rfl, hparts.2⟩

theorem stem_of_name {p : Path} {stem ext : Text} (hname : p.name = stem ++ '.' :: ext)
    (hdot : '.' ∉ ext) (hstem : stem ≠ []) (hext : ext ≠ []) : p.stem = stem := by
  rw [Path.stem, splitName?_eq_some_iff.mpr ⟨hname, hdot, hstem, hext⟩]

theorem outputPath_eq_ok_iff {s : Settings} {p copy : Path} :
    s.outputPath p = .ok copy ↔
      p.name ≠ [] ∧ Path.isName (p.stem ++ s.outputMarker ++ p.suffix) = true ∧
        copy = { p with parts := p.parts.dropLast ++ [p.stem ++ s.outputMarker ++ p.suffix] } := by
  rw [Settings.outputPath, Path.withName]
  cases hname : p.name.isEmpty with
  | true => simp [List.isEmpty_iff.mp hname]
  | false =>
      have hne : p.name ≠ [] := by
        intro h
        simp [h] at hname
      cases hvalid : Path.isName (p.stem ++ s.outputMarker ++ p.suffix) with
      | true =>
          simp only [Bool.false_eq_true, if_false, if_true, Except.ok.injEq]
          constructor
          · rintro rfl
            exact ⟨hne, trivial, rfl⟩
          · rintro ⟨-, -, rfl⟩
            rfl
      | false => simp

theorem name_of_outputPath {s : Settings} {p copy : Path} (h : s.outputPath p = .ok copy) :
    copy.name = p.stem ++ s.outputMarker ++ p.suffix := by
  obtain ⟨-, -, rfl⟩ := outputPath_eq_ok_iff.mp h
  simp [Path.name]

theorem isGenerated_congr {s : Settings} {p q : Path} (h : p.name = q.name) :
    s.isGenerated p = s.isGenerated q := by
  rw [Settings.isGenerated, Settings.isGenerated, Path.stem, Path.stem, h]

theorem isGenerated_of_outputPath {s : Settings} {p copy : Path} (hsuffix : p.suffix ≠ [])
    (h : s.outputPath p = .ok copy) : s.isGenerated copy = true := by
  obtain ⟨ext, -, hext, hdot, hstem, hne⟩ := name_eq_of_suffix hsuffix
  have hname := name_of_outputPath h
  rw [hext] at hname
  have hcopy := stem_of_name hname hdot (by simp [hstem]) hne
  rw [Settings.isGenerated, hcopy, List.isSuffixOf_iff_suffix]
  exact List.suffix_append _ _

theorem name_eq_of_name_outputPath_eq {s : Settings} {p q copy copy' : Path}
    (hp : p.suffix ≠ []) (hq : q.suffix ≠ []) (hcopy : s.outputPath p = .ok copy)
    (hcopy' : s.outputPath q = .ok copy') (h : copy.name = copy'.name) : p.name = q.name := by
  obtain ⟨ext, hname, hext, hdot, hstem, hne⟩ := name_eq_of_suffix hp
  obtain ⟨ext', hname', hext', hdot', hstem', hne'⟩ := name_eq_of_suffix hq
  have hleft := name_of_outputPath hcopy
  have hright := name_of_outputPath hcopy'
  rw [hext] at hleft
  rw [hext'] at hright
  have hcut := splitName?_eq_some_iff.mpr ⟨hleft, hdot, by simp [hstem], hne⟩
  rw [h, splitName?_eq_some_iff.mpr ⟨hright, hdot', by simp [hstem'], hne'⟩, Option.some.injEq,
    Prod.mk.injEq] at hcut
  rw [hname, hname', List.append_cancel_right hcut.1, hcut.2]

def lastName (t : Text) : Text :=
  match cutLast? '/' t with
  | some (_, rest) => rest
  | none => t

theorem lastName_of_notMem {t : Text} (h : '/' ∉ t) : lastName t = t := by
  rw [lastName, cutLast?_eq_none_iff.mpr h]

theorem lastName_append {t u : Text} (h : '/' ∉ u) : lastName (t ++ '/' :: u) = u := by
  rw [lastName, cutLast?_eq_some_iff.mpr ⟨rfl, h⟩]

theorem slash_cases (t : Text) :
    '/' ∉ t ∨ ∃ front back, t = front ++ '/' :: back ∧ '/' ∉ back := by
  cases hcut : cutLast? '/' t with
  | none => exact Or.inl (cutLast?_eq_none_iff.mp hcut)
  | some cut => exact Or.inr ⟨cut.1, cut.2, cutLast?_eq_some_iff.mp hcut⟩

theorem splitOn_eq_append_lastName (t : Text) :
    ∃ before, t.splitOn '/' = before ++ [lastName t] := by
  rcases slash_cases t with h | ⟨front, back, rfl, h⟩
  · exact ⟨[], by rw [List.splitOn_eq_singleton h, lastName_of_notMem h]; rfl⟩
  · exact ⟨front.splitOn '/', by
      rw [List.splitOn_append_cons_self, List.splitOn_eq_singleton h, lastName_append h]⟩

/-- A name that no directory has for itself or for the one above it. -/
def Proper (name : Text) : Prop := name ≠ [] ∧ name ≠ ['.'] ∧ name ≠ ['.', '.']

theorem proper_append {stem ext : Text} (hdot : '.' ∉ ext) (hext : ext ≠ []) :
    Proper (stem ++ '.' :: ext) := by
  obtain ⟨c, cs, rfl⟩ := List.exists_cons_of_ne_nil hext
  have hc : c ∈ stem ++ '.' :: c :: cs := by simp
  refine ⟨by simp, fun h => ?_, fun h => ?_⟩
  · rw [h] at hc
    exact hdot (by simp_all)
  · rw [h] at hc
    exact hdot (by simp_all)

/-- A marker that begins with a slash, beside a stem of one dot, which stands for the directory. -/
def Strays (s : Settings) (p : Path) : Prop := s.outputMarker.head? = some '/' ∧ p.stem = ['.']

instance (s : Settings) (p : Path) : Decidable (Strays s p) := inferInstanceAs (Decidable (_ ∧ _))

section Copies

variable {s : Settings} {p q copy copy' : Path}

theorem lastName_of_outputPath (hsuffix : p.suffix ≠ []) (hslash : '/' ∉ p.name)
    (h : s.outputPath p = .ok copy) :
    ('/' ∉ s.outputMarker ∧ lastName copy.name = copy.name) ∨
      ∃ front back, s.outputMarker = front ++ '/' :: back ∧ '/' ∉ back ∧
        lastName copy.name = back ++ p.suffix := by
  obtain ⟨ext, hname, hext, -⟩ := name_eq_of_suffix hsuffix
  rw [hname, ← hext, List.mem_append, not_or] at hslash
  rw [name_of_outputPath h]
  rcases slash_cases s.outputMarker with hmarker | ⟨front, back, hmarker, hback⟩
  · exact Or.inl ⟨hmarker, lastName_of_notMem (by simp [hslash, hmarker])⟩
  · refine Or.inr ⟨front, back, hmarker, hback, ?_⟩
    have hcut : p.stem ++ s.outputMarker ++ p.suffix =
        (p.stem ++ front) ++ '/' :: (back ++ p.suffix) := by simp [hmarker]
    rw [hcut, lastName_append (by simp [hback, hslash])]

theorem proper_lastName_of_outputPath (hsuffix : p.suffix ≠ []) (hslash : '/' ∉ p.name)
    (h : s.outputPath p = .ok copy) : Proper (lastName copy.name) := by
  obtain ⟨ext, -, hext, hdot, -, hne⟩ := name_eq_of_suffix hsuffix
  rcases lastName_of_outputPath hsuffix hslash h with ⟨-, hlast⟩ | ⟨front, back, -, -, hlast⟩
  · rw [hlast, name_of_outputPath h, hext]
    exact proper_append hdot hne
  · rw [hlast, hext]
    exact proper_append hdot hne

theorem splitOn_name_of_outputPath (hsuffix : p.suffix ≠ []) (hslash : '/' ∉ p.name)
    (h : s.outputPath p = .ok copy) :
    ∃ before, copy.name.splitOn '/' = before ++ [lastName copy.name] ∧
      ∀ name ∈ before, name = [] ∨ name = ['.'] := by
  have hlast := proper_lastName_of_outputPath hsuffix hslash h
  obtain ⟨before, hsplit⟩ := splitOn_eq_append_lastName copy.name
  refine ⟨before, hsplit, fun name hname => ?_⟩
  have hvalid : (Path.names copy.name).length = 1 := by
    have hvalid := (outputPath_eq_ok_iff.mp h).2.1
    rw [← name_of_outputPath h] at hvalid
    simp only [Path.isName, Path.parse, Bool.and_eq_true, beq_iff_eq] at hvalid
    exact hvalid.1.2
  have hkept : (before.filter fun n => !n.isEmpty && n != ['.']) = [] := by
    rw [Path.names, hsplit, List.filter_append] at hvalid
    have hself : ([lastName copy.name].filter fun n => !n.isEmpty && n != ['.']) =
        [lastName copy.name] := by
      simp [hlast.1, hlast.2.1]
    rw [hself, List.length_append, List.length_singleton, Nat.add_eq_right] at hvalid
    exact List.eq_nil_of_length_eq_zero hvalid
  have hblank := List.filter_eq_nil_iff.mp hkept name hname
  by_cases hempty : name = []
  · exact Or.inl hempty
  · exact Or.inr (by simpa [hempty] using hblank)

theorem strays_of_slash_mem (hsuffix : p.suffix ≠ []) (hslash : '/' ∉ p.name)
    (h : s.outputPath p = .ok copy) (hmarker : '/' ∈ s.outputMarker) : Strays s p := by
  obtain ⟨ext, hname, -, -, hstem, -⟩ := name_eq_of_suffix hsuffix
  obtain ⟨before, hsplit, hblank⟩ := splitOn_name_of_outputPath hsuffix hslash h
  cases hcut : cutFirst? '/' s.outputMarker with
  | none => exact absurd hmarker (cutFirst?_eq_none_iff.mp hcut)
  | some cut =>
      obtain ⟨front, back⟩ := cut
      obtain ⟨hparts, hfront⟩ := cutFirst?_eq_some_iff.mp hcut
      have hstemSlash : '/' ∉ p.stem := fun hmem => hslash (by simp [hname, hmem])
      have hpieces : copy.name.splitOn '/' =
          (p.stem ++ front) :: (back ++ p.suffix).splitOn '/' := by
        rw [name_of_outputPath h, hparts]
        have hfirst : '/' ∉ p.stem ++ front := by simp [hstemSlash, hfront]
        simpa using List.splitOn_append_cons_self_of_not_mem hfirst (back ++ p.suffix)
      have hfirst : p.stem ++ front = ['.'] := by
        cases before with
        | nil =>
            rw [hpieces, List.nil_append, List.cons.injEq] at hsplit
            exact absurd hsplit.2 (List.splitOn_ne_nil _ _)
        | cons first others =>
            rw [hpieces, List.cons_append, List.cons.injEq] at hsplit
            rcases hblank first List.mem_cons_self with he | he
            · rw [← hsplit.1] at he
              exact absurd (List.append_eq_nil_iff.mp he).1 hstem
            · rw [hsplit.1, he]
      obtain ⟨hdot, hnil⟩ : p.stem = ['.'] ∧ front = [] := by
        obtain ⟨c, cs, hc⟩ := List.exists_cons_of_ne_nil hstem
        simp_all
      exact ⟨by simp [hparts, hnil], hdot⟩

theorem name_eq_of_lastName_eq (hp : p.suffix ≠ []) (hq : q.suffix ≠ []) (hpslash : '/' ∉ p.name)
    (hqslash : '/' ∉ q.name) (hcopy : s.outputPath p = .ok copy)
    (hcopy' : s.outputPath q = .ok copy') (h : lastName copy.name = lastName copy'.name) :
    p.name = q.name := by
  rcases lastName_of_outputPath hp hpslash hcopy with
    ⟨hmarker, hlast⟩ | ⟨front, back, hmarker, hback, hlast⟩ <;>
  rcases lastName_of_outputPath hq hqslash hcopy' with
    ⟨hmarker', hlast'⟩ | ⟨front', back', hmarker', hback', hlast'⟩
  · exact name_eq_of_name_outputPath_eq hp hq hcopy hcopy' (hlast ▸ hlast' ▸ h)
  · exact absurd (by simp [hmarker']) hmarker
  · exact absurd (by simp [hmarker]) hmarker'
  · have hsame : back = back' := by
      have hcut := cutLast?_eq_some_iff.mpr ⟨hmarker, hback⟩
      rw [cutLast?_eq_some_iff.mpr ⟨hmarker', hback'⟩] at hcut
      exact (Prod.mk.inj (Option.some.inj hcut)).2.symm
    have hsuffix : p.suffix = q.suffix := by
      rw [hlast, hlast', hsame] at h
      exact List.append_cancel_left h
    have hstem := (strays_of_slash_mem hp hpslash hcopy (by simp [hmarker])).2
    have hstem' := (strays_of_slash_mem hq hqslash hcopy' (by simp [hmarker])).2
    obtain ⟨ext, hname, hext, -⟩ := name_eq_of_suffix hp
    obtain ⟨ext', hname', hext', -⟩ := name_eq_of_suffix hq
    rw [hname, hname', ← hext, ← hext', hstem, hstem', hsuffix]

/-- The copy of a file has no name of a file that is no copy, unless the marker strays. -/
theorem lastName_ne_name (hp : p.suffix ≠ []) (hslash : '/' ∉ p.name)
    (hcopy : s.outputPath p = .ok copy) (hstrays : ¬ Strays s p) (hq : s.isGenerated q = false) :
    lastName copy.name ≠ q.name := by
  intro hname
  have hlast : lastName copy.name = copy.name := by
    rcases lastName_of_outputPath hp hslash hcopy with ⟨-, hlast⟩ | ⟨front, back, hmarker, -⟩
    · exact hlast
    · exact absurd (strays_of_slash_mem hp hslash hcopy (by simp [hmarker])) hstrays
  rw [← isGenerated_congr (hlast.symm.trans hname), isGenerated_of_outputPath hp hcopy] at hq
  contradiction

end Copies

section Front

/-- What the text of a path has in front of its name. -/
def front (p : Path) : Text := p.root ++ p.parts.dropLast.flatMap (· ++ ['/'])

theorem joined_append_singleton (names : List Text) (name : Text) :
    joined ['/'] (names ++ [name]) = names.flatMap (· ++ ['/']) ++ name := by
  induction names with
  | nil => simp [joined]
  | cons first others ih =>
      rw [List.flatMap_cons, List.append_assoc, ← ih, joined, joined, List.cons_append]
      cases hrest : others ++ [name] with
      | nil => simp at hrest
      | cons second rest => simp [List.intercalate_cons_cons]

theorem text_eq_of_not_here {p : Path} (h : ¬ (p.root = [] ∧ p.parts = [])) :
    p.text = front p ++ p.name := by
  rw [Path.text, if_neg (by simpa using h), front, List.append_assoc]
  rcases List.eq_nil_or_concat p.parts with hparts | ⟨others, last, hparts⟩
  · simp [Path.name, hparts, joined]
  · rw [hparts, List.concat_eq_append, joined_append_singleton]
    simp [Path.name, hparts]

theorem text_eq_front_append {p : Path} (h : p.name ≠ []) : p.text = front p ++ p.name := by
  apply text_eq_of_not_here
  rintro ⟨-, hparts⟩
  exact h (by simp [Path.name, hparts])

theorem front_of_outputPath {s : Settings} {p copy : Path} (h : s.outputPath p = .ok copy) :
    front copy = front p := by
  obtain ⟨-, -, rfl⟩ := outputPath_eq_ok_iff.mp h
  simp [front]

theorem exists_splitOn_front_append {p : Path} (hroot : p.root = [] ∨ ∃ r, p.root = r ++ ['/']) :
    ∃ names, ∀ name, (front p ++ name).splitOn '/' = names ++ name.splitOn '/' := by
  have hfront : front p = [] ∨ ∃ f, front p = f ++ ['/'] := by
    rcases List.eq_nil_or_concat p.parts.dropLast with hnil | ⟨others, last, hlast⟩
    · simpa [front, hnil] using hroot
    · exact Or.inr ⟨p.root ++ others.flatMap (· ++ ['/']) ++ last, by simp [front, hlast]⟩
  rcases hfront with hnil | ⟨f, hf⟩
  · exact ⟨[], fun name => by simp [hnil]⟩
  · refine ⟨f.splitOn '/', fun name => ?_⟩
    rw [hf, List.append_assoc, List.singleton_append, List.splitOn_append_cons_self]

theorem head?_text_of_outputPath {s : Settings} {p copy : Path} (hsuffix : p.suffix ≠ [])
    (h : s.outputPath p = .ok copy) : copy.text.head? = p.text.head? := by
  obtain ⟨ext, hname, -, -, hstem, -⟩ := name_eq_of_suffix hsuffix
  have hcopy := name_of_outputPath h
  obtain ⟨c, cs, hc⟩ := List.exists_cons_of_ne_nil hstem
  rw [text_eq_front_append (p := copy) (by simp [hcopy, hstem]), text_eq_front_append
    (by simp [hname]), front_of_outputPath h, hcopy, hname, hc]
  cases front p with
  | nil => rfl
  | cons d ds => rfl

end Front

end MappingMarkers.Proofs.FileNames
