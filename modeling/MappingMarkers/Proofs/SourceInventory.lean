import Mathlib
import MappingMarkers.Proofs.DirectoryPaths
import MappingMarkers.Proofs.SourceSearch

/-!
Which source files are listed below a directory: the files with the ending, and the links to files,
that are reached through directories alone. The listing asks the operating system about each
directory and about each entry with the ending, and ends early where a path is too long for it.
-/

namespace MappingMarkers.Proofs.SourceInventory

open Text Files LinkedWalk SourceListing DirectoryPaths SourceSearch DictionaryOrder

section Answers

variable {t : Tree} {base : Path} {top : List Text}

/-- The operating system refuses a path as too long. -/
def TooLong (t : Tree) (p : Path) : Prop :=
  t.locate p.text = .error (.system .nameTooLong p.text)

theorem list_of_tooLong {p : Path} (h : TooLong t p) :
    Glob.list t p = .error (.system .nameTooLong p.text) := by
  rw [Glob.list, Tree.entryAt, h]
  rfl

theorem isFile_of_tooLong {p : Path} (h : TooLong t p) :
    t.isFile p.text = .error (.system .nameTooLong p.text) := by
  rw [Tree.isFile, Tree.holdsAt, Tree.entryAt, h]
  rfl

theorem walk_ne_isDirectory (links : Nat) (here : Tree.Location) (names : List Text) :
    t.walk links here names ≠ .error .isDirectory := by
  fun_induction Tree.walk t links here names with
  | case1 | case2 | case5 | case6 | case7 | case8 => simp
  | case3 | case4 | case9 | case10 => assumption

theorem of_locate_eq_error {path q : Text} {code : SystemCode}
    (h : t.locate path = .error (.system code q)) : q = path ∧ code ≠ .isDirectory := by
  rw [Tree.locate] at h
  split_ifs at h
  · simp at h
  · obtain ⟨rfl, rfl⟩ := AccessError.system.inj (Except.error.inj h)
    exact ⟨rfl, by simp⟩
  · obtain ⟨rfl, rfl⟩ := AccessError.system.inj (Except.error.inj h)
    exact ⟨rfl, by simp⟩
  · obtain ⟨code', hwalk, hcode⟩ := mapError_eq_error_iff.mp h
    obtain ⟨rfl, rfl⟩ := AccessError.system.inj hcode
    exact ⟨rfl, fun hdirectory => walk_ne_isDirectory _ _ _ (hdirectory ▸ hwalk)⟩

theorem exists_isFile {p : Path} (h : ¬ TooLong t p) : ∃ answer, t.isFile p.text = .ok answer := by
  rw [Tree.isFile, Tree.holdsAt, Tree.entryAt]
  cases hlocate : t.locate p.text with
  | ok place =>
      cases place with
      | vacant names => exact ⟨_, rfl⟩
      | occupied l =>
          cases hentry : t.entry? l with
          | none => exact ⟨false, by simp [bind, Except.bind, hentry, SystemCode.isAbsence]⟩
          | some entry => exact ⟨_, by simp [bind, Except.bind, hentry, pure, Except.pure]; rfl⟩
  | error e =>
      cases e with
      | nul => exact ⟨_, rfl⟩
      | system code q =>
          obtain ⟨rfl, hcode⟩ := of_locate_eq_error hlocate
          cases code with
          | noEntry | notDirectory | linkLoop => exact ⟨_, rfl⟩
          | isDirectory => contradiction
          | nameTooLong => exact absurd hlocate h

theorem tooLong_of_isFile {p : Path} {e : AccessError} (h : t.isFile p.text = .error e) :
    TooLong t p ∧ e = .system .nameTooLong p.text := by
  have hlong : TooLong t p := by
    by_contra hshort
    obtain ⟨answer, hanswer⟩ := exists_isFile hshort
    rw [hanswer] at h
    contradiction
  rw [isFile_of_tooLong hlong] at h
  exact ⟨hlong, (Except.error.inj h).symm⟩

theorem isFile_iff {path : Text} :
    t.isFile path = .ok true ↔
      ∃ l bytes, t.locate path = .ok (.occupied l) ∧ t.entry? l = some (.file bytes) := by
  refine ⟨TreeCopies.exists_file_of_isFile, fun ⟨l, bytes, hlocate, hentry⟩ => ?_⟩
  rw [Tree.isFile, Tree.holdsAt, entryAt_eq_ok_iff.mpr ⟨hlocate, hentry⟩]

variable (leads : LeadsTo t base top) (onDisk : OnDisk t)

include leads onDisk

theorem locate_entry {names : List Text} {entry : Entry}
    (hfound : t.find? (top ++ names) = some entry) (hentry : ∀ target, entry ≠ .link target)
    (hshort : ¬ TooLong t (down base names)) :
    t.locate (down base names).text = .ok (.occupied (.inside (top ++ names))) := by
  by_cases hne : names = []
  · subst hne
    simpa [down] using (entryAt_eq_ok_iff.mp leads.entry).1
  obtain ⟨left, hlocate⟩ := leads.locate_down
  have hnames : ∀ name ∈ names, EntryName name := fun name hname =>
    onDisk.entryName (show t.find? (top ++ names) ≠ none by simp [hfound]) name
      (List.mem_append_right _ hname)
  rw [(hlocate names hne hnames).resolve_left hshort, onDisk.walk_entry hfound hentry]
  rfl

theorem list_directory {names : List Text} (hfound : t.find? (top ++ names) = some .directory)
    (hshort : ¬ TooLong t (down base names)) :
    Glob.list t (down base names) = .ok (t.children (top ++ names)) := by
  have hentry := entryAt_eq_ok_iff.mpr
    ⟨locate_entry leads onDisk hfound (by simp) hshort, hfound⟩
  rw [Glob.list, hentry]
  rfl

theorem tooLong_of_list {names : List Text} {e : AccessError}
    (hfound : t.find? (top ++ names) = some .directory)
    (h : Glob.list t (down base names) = .error e) :
    TooLong t (down base names) ∧ e = .system .nameTooLong (down base names).text := by
  have hlong : TooLong t (down base names) := by
    by_contra hshort
    rw [list_directory leads onDisk hfound hshort] at h
    contradiction
  rw [list_of_tooLong hlong] at h
  exact ⟨hlong, (Except.error.inj h).symm⟩

/-- The entry is a file, or it is a link and the path leads to a file. -/
def HoldsFile (t : Tree) (names : List Text) (p : Path) : Prop :=
  (∃ bytes, t.find? names = some (.file bytes)) ∨
    (∃ target, t.find? names = some (.link target)) ∧
      ∃ l bytes, t.locate p.text = .ok (.occupied l) ∧ t.entry? l = some (.file bytes)

theorem isFile_entry_iff {names : List Text} (hfound : t.find? (top ++ names) ≠ none)
    (hshort : ¬ TooLong t (down base names)) :
    t.isFile (down base names).text = .ok true ↔ HoldsFile t (top ++ names) (down base names) := by
  rw [isFile_iff, HoldsFile]
  obtain ⟨entry, hentry⟩ := Option.ne_none_iff_exists'.mp hfound
  cases entry with
  | link target => simp [hentry]
  | file bytes =>
      have hlocate := locate_entry leads onDisk hentry (by simp) hshort
      exact iff_of_true ⟨_, bytes, hlocate, hentry⟩ (.inl ⟨bytes, hentry⟩)
  | directory =>
      have hlocate := locate_entry leads onDisk hentry (by simp) hshort
      refine iff_of_false ?_ (by simp [hentry])
      rintro ⟨l, bytes, hl, hbytes⟩
      rw [hlocate] at hl
      rw [← Tree.Place.occupied.inj (Except.ok.inj hl)] at hbytes
      simp [hentry] at hbytes

end Answers

section Inventory

variable {t : Tree} {base : Path} {top : List Text} {s : Settings}

/-- What is to be listed below a directory: a file that is reached through directories, or a link
to a file, whose name has the ending and is not that of a copy. -/
structure Listed (t : Tree) (s : Settings) (base : Path) (top : List Text) (p : Path) : Prop where
  reached : ∃ names, names ≠ [] ∧ p = down base names ∧
    (∀ above, above <+: names → above ≠ names → t.find? (top ++ above) = some .directory) ∧
    HoldsFile t (top ++ names) p
  suffix : s.fileSuffix <:+ p.name
  original : ¬ s.outputMarker <:+ p.stem

/-- The paths about which the operating system is asked: those of the directories, and those of the
entries with the ending. -/
inductive Asked (t : Tree) (s : Settings) (base : Path) (top : List Text) : Path → Prop
  | directory {names : List Text} : t.find? (top ++ names) = some .directory →
      Asked t s base top (down base names)
  | entry {names : List Text} {name : Text} : t.find? (top ++ names) = some .directory →
      t.find? (top ++ (names ++ [name])) ≠ none → s.fileSuffix <:+ name →
      Asked t s base top (down base (names ++ [name]))

theorem down_concat (base : Path) (names : List Text) (name : Text) :
    down base (names ++ [name]) = (down base names).child name := by
  simp [down, Path.child]

theorem name_down (base : Path) (names : List Text) (name : Text) :
    (down base (names ++ [name])).name = name := by
  simp [down, Path.name]

theorem exists_directories (leads : LeadsTo t base top) (onDisk : OnDisk t) :
    ∃ places, Glob.directories t base = .ok places ∧
      ∀ q, q ∈ places ↔
        ∃ names, q = down base names ∧ t.find? (top ++ names) = some .directory := by
  refine ⟨_, by rw [Glob.directories, leads.entry]; rfl, fun q => ?_⟩
  rw [List.mem_cons, List.mem_filterMap]
  constructor
  · rintro (rfl | ⟨⟨names', entry⟩, hmem, h⟩)
    · exact ⟨[], by simp [down], by simpa using leads.directory⟩
    · simp only at h
      split_ifs at h with hdeeper
      obtain ⟨rfl, hbegins, -⟩ := hdeeper
      obtain ⟨names, rfl⟩ := List.isPrefixOf_iff_prefix.mp hbegins
      refine ⟨names, ?_, (onDisk.mem_entries_iff.mp hmem).2⟩
      rw [← Option.some.inj h, List.drop_left]
      rfl
  · rintro ⟨names, rfl, hdirectory⟩
    by_cases hne : names = []
    · exact .inl (by simp [hne, down])
    · refine .inr ⟨(top ++ names, .directory), ?_, ?_⟩
      · exact onDisk.mem_entries_iff.mpr ⟨by simp [hne], hdirectory⟩
      · have hbegins : top.isPrefixOf (top ++ names) = true :=
          List.isPrefixOf_iff_prefix.mpr (List.prefix_append _ _)
        have hdeeper : top ≠ top ++ names := by
          intro hsame
          exact hne (List.append_right_eq_self.mp hsame.symm)
        simp [hbegins, hdeeper, down]

theorem isDirectory_of_leads (leads : LeadsTo t base top) : t.isDirectory base.text = .ok true := by
  rw [Tree.isDirectory, Tree.holdsAt, leads.entry]
  rfl

variable {places : List Path}
  (hplaces : ∀ q, q ∈ places ↔ ∃ names, q = down base names ∧
    t.find? (top ++ names) = some .directory)

include hplaces

theorem asked_of_found {p : Path} (leads : LeadsTo t base top) (onDisk : OnDisk t)
    (hfound : Found t s.fileSuffix places p) :
    ∃ names name, p = down base (names ++ [name]) ∧ t.find? (top ++ names) = some .directory ∧
      t.find? (top ++ (names ++ [name])) ≠ none ∧ s.fileSuffix <:+ name := by
  obtain ⟨q, hq, found, hlist, name, hname, hsuffix, rfl⟩ := hfound
  obtain ⟨names, rfl, hdirectory⟩ := (hplaces q).mp hq
  have hshort : ¬ TooLong t (down base names) := fun hlong => by
    rw [list_of_tooLong hlong] at hlist
    contradiction
  rw [list_directory leads onDisk hdirectory hshort] at hlist
  rw [← Except.ok.inj hlist, onDisk.mem_children_iff, List.append_assoc] at hname
  exact ⟨names, name, (down_concat base names name).symm, hdirectory, hname, hsuffix⟩

theorem found_of_entry (leads : LeadsTo t base top) (onDisk : OnDisk t) {names : List Text}
    {name : Text} (hdirectory : t.find? (top ++ names) = some .directory)
    (hentry : t.find? (top ++ (names ++ [name])) ≠ none) (hsuffix : s.fileSuffix <:+ name)
    (hshort : ¬ TooLong t (down base names)) :
    Found t s.fileSuffix places (down base (names ++ [name])) := by
  refine ⟨down base names, (hplaces _).mpr ⟨names, rfl, hdirectory⟩, _,
    list_directory leads onDisk hdirectory hshort, name, ?_, hsuffix, down_concat base names name⟩
  rwa [onDisk.mem_children_iff, List.append_assoc]

/-- What is found and is a file and no copy is what is to be listed. -/
theorem found_iff_listed (leads : LeadsTo t base top) (onDisk : OnDisk t)
    (hshort : ∀ p, Asked t s base top p → ¬ TooLong t p) (p : Path) :
    (Found t s.fileSuffix places p ∧ t.isFile p.text = .ok true) ∧ s.isGenerated p = false ↔
      Listed t s base top p := by
  have hcopy : s.isGenerated p = false ↔ ¬ s.outputMarker <:+ p.stem := by
    rw [Settings.isGenerated, ← List.isSuffixOf_iff_suffix, Bool.not_eq_true]
  rw [hcopy]
  constructor
  · rintro ⟨⟨hfound, hfile⟩, horiginal⟩
    obtain ⟨names, name, rfl, hdirectory, hentry, hsuffix⟩ :=
      asked_of_found hplaces leads onDisk hfound
    refine ⟨⟨names ++ [name], by simp, rfl, fun above => onDisk.above hentry, ?_⟩, ?_, horiginal⟩
    · exact (isFile_entry_iff leads onDisk hentry
        (hshort _ (.entry hdirectory hentry hsuffix))).mp hfile
    · rwa [name_down]
  · rintro ⟨⟨names', hne, rfl, habove, hholds⟩, hsuffix, horiginal⟩
    obtain ⟨names, name, rfl⟩ : ∃ names name, names' = names ++ [name] :=
      ⟨_, _, (List.dropLast_concat_getLast hne).symm⟩
    rw [name_down] at hsuffix
    have hdirectory := habove names (List.prefix_append _ _) (by simp)
    have hentry : t.find? (top ++ (names ++ [name])) ≠ none := by
      rcases hholds with ⟨bytes, h⟩ | ⟨⟨target, h⟩, -⟩
      · simp [h]
      · simp [h]
    have hasked : Asked t s base top (down base (names ++ [name])) :=
      .entry hdirectory hentry hsuffix
    exact ⟨⟨found_of_entry hplaces leads onDisk hdirectory hentry hsuffix
      (hshort _ (.directory hdirectory)),
      (isFile_entry_iff leads onDisk hentry (hshort _ hasked)).mpr hholds⟩, horiginal⟩

omit hplaces

/-- The listed source files are just those that are to be listed, each of them once and in strict
order of their parts, unless one of the paths that are asked about is too long for the operating
system: then the listing ends with the error about such a path. -/
theorem sources_inventory (onDisk : OnDisk t) (literal : Literal s.fileSuffix) {root : Text}
    (hroot : t.entryAt (Path.parse root).text = .ok (.inside top, .directory)) :
    ((∀ p, Asked t s (.parse root) top p → ¬ TooLong t p) →
      ∃ files, sources t (.parse root) s = .ok files ∧
        (∀ p, p ∈ files ↔ Listed t s (.parse root) top p) ∧ files.Nodup ∧
        files.Pairwise fun p q => List.Lex Before p.parts q.parts) ∧
    ((∃ p, Asked t s (.parse root) top p ∧ TooLong t p) →
      ∃ p, Asked t s (.parse root) top p ∧ TooLong t p ∧
        sources t (.parse root) s = .error (.access (.system .nameTooLong p.text))) := by
  have leads := leadsTo_of_entryAt hroot
  obtain ⟨places, hdirectories, hplaces⟩ := exists_directories leads onDisk
  obtain ⟨files, hsources, hnodup, hlisted, hanswered, hfiles⟩ | ⟨q, hq, e, hlist, hsources⟩ |
    ⟨p, hp, e, hfile, hsources⟩ :=
    sources_cases literal (isDirectory_of_leads leads) hdirectories
  · have hroots : ∀ p ∈ files, p.root = (Path.parse root).root := by
      intro p hp
      obtain ⟨names, name, rfl, -⟩ := asked_of_found hplaces leads onDisk ((hfiles p).mp hp).1
      rfl
    refine ⟨fun hshort => ⟨arranged s files, hsources, fun p => ?_, nodup_arranged hnodup,
      pairwise_arranged hroots hnodup⟩, fun ⟨p, hasked, hlong⟩ => ?_⟩
    · rw [mem_arranged_iff, hfiles, found_iff_listed hplaces leads onDisk hshort]
    · -- Each question has an answer, so no path that is asked about is too long.
      exfalso
      have hdirectory : ∀ {names}, t.find? (top ++ names) = some .directory →
          ¬ TooLong t (down (.parse root) names) := by
        intro names h hlong
        obtain ⟨found, hfound⟩ := hlisted _ ((hplaces _).mpr ⟨names, rfl, h⟩)
        rw [list_of_tooLong hlong] at hfound
        contradiction
      cases hasked with
      | directory h => exact hdirectory h hlong
      | entry h hentry hsuffix =>
          obtain ⟨answer, hanswer⟩ := hanswered _
            (found_of_entry hplaces leads onDisk h hentry hsuffix (hdirectory h))
          rw [isFile_of_tooLong hlong] at hanswer
          contradiction
  · obtain ⟨names, rfl, hdirectory⟩ := (hplaces q).mp hq
    have hasked : Asked t s (.parse root) top (down (.parse root) names) := .directory hdirectory
    obtain ⟨hlong, rfl⟩ := tooLong_of_list leads onDisk hdirectory hlist
    exact ⟨fun hshort => absurd hlong (hshort _ hasked), fun _ => ⟨_, hasked, hlong, hsources⟩⟩
  · obtain ⟨names, name, rfl, hdirectory, hentry, hsuffix⟩ :=
      asked_of_found hplaces leads onDisk hp
    have hasked : Asked t s (.parse root) top (down (.parse root) (names ++ [name])) :=
      .entry hdirectory hentry hsuffix
    obtain ⟨hlong, rfl⟩ := tooLong_of_isFile hfile
    exact ⟨fun hshort => absurd hlong (hshort _ hasked), fun _ => ⟨_, hasked, hlong, hsources⟩⟩

/-- A directory with a link to it, in which a source, its copy, a hidden source in the working
directory, and links to that source and to that directory stand. -/
def linkedDirectory : Tree where
  entries :=
    [(["d".toList], .directory),
      (["d".toList, "e".toList], .directory),
      (["d".toList, "e".toList, ".x.cs".toList], .file []),
      (["d".toList, "b.cs".toList], .link "/l/e/.x.cs".toList),
      (["d".toList, "f".toList], .link "e".toList),
      (["d".toList, "a.cs".toList], .file []),
      (["d".toList, "a.n.cs".toList], .file []),
      (["l".toList], .link "d".toList)]
  home := ["d".toList, "e".toList]

def inventorySettings : Settings :=
  { fileSuffix := ".cs".toList, outputMarker := ".n".toList, dryRun := false, callTimeout := 0,
    exactNames := false }

/-- The sources of the directory, by the link to it from the root. -/
def linkedSources : List Path :=
  [{ root := ['/'], parts := ["l".toList, "a.cs".toList] },
    { root := ['/'], parts := ["l".toList, "b.cs".toList] },
    { root := ['/'], parts := ["l".toList, "e".toList, ".x.cs".toList] }]

theorem sources_linkedDirectory :
    sources linkedDirectory (.parse "/l".toList) inventorySettings = .ok linkedSources := by
  cbv

theorem sources_inventory_linkedDirectory :
    (∀ p, p ∈ linkedSources ↔
      Listed linkedDirectory inventorySettings (.parse "/l".toList) ["d".toList] p) ∧
    linkedSources.Nodup ∧
    linkedSources.Pairwise fun p q => List.Lex Before p.parts q.parts := by
  have hroot : linkedDirectory.entryAt (Path.parse "/l".toList).text =
      .ok (.inside ["d".toList], .directory) := by
    cbv
  obtain ⟨hall, hlong⟩ := sources_inventory (t := linkedDirectory) (s := inventorySettings)
    (by decide) (by decide) hroot
  obtain ⟨files, hfiles, h⟩ := hall fun p hasked htoo => by
    obtain ⟨q, -, -, hfail⟩ := hlong ⟨p, hasked, htoo⟩
    rw [sources_linkedDirectory] at hfail
    contradiction
  rw [sources_linkedDirectory, Except.ok.injEq] at hfiles
  rwa [hfiles]

/-- A source beside a link to a name that no disk can hold. -/
def longLink : Tree where
  entries :=
    [(["a.cs".toList], .file []), (["x.cs".toList], .link (List.replicate 256 'a'))]

section LongNames

-- The long name is gone through character by character.
set_option maxRecDepth 4000

/-- The source has to be listed, but the listing ends with the error about the link. -/
theorem listing_fails_longLink :
    OnDisk longLink ∧ Literal inventorySettings.fileSuffix ∧
      longLink.entryAt (Path.parse ".".toList).text = .ok (.inside [], .directory) ∧
      Listed longLink inventorySettings (.parse ".".toList) []
        { root := [], parts := ["a.cs".toList] } ∧
      sources longLink (.parse ".".toList) inventorySettings =
        .error (.access (.system .nameTooLong "x.cs".toList)) := by
  refine ⟨by decide, by decide, by cbv, ⟨⟨["a.cs".toList], by decide, rfl, ?_, ?_⟩, ?_, ?_⟩, ?_⟩
  · intro above habove hne
    rcases List.prefix_cons_iff.mp habove with rfl | ⟨rest, rfl, hrest⟩
    · rfl
    · exact absurd (by rw [List.prefix_nil.mp hrest]) hne
  · exact .inl ⟨[], rfl⟩
  · decide
  · decide
  · cbv

end LongNames

end Inventory

end MappingMarkers.Proofs.SourceInventory
