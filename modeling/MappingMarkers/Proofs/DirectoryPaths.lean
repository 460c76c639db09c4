import Mathlib.Data.List.Induction
import Mathlib.Data.List.Infix
import Mathlib.Data.List.Nodup
import MappingMarkers.Proofs.LinkedWalk

namespace MappingMarkers.Proofs.DirectoryPaths

open Text Files FileNames Splitting TreeWalk LinkedWalk SourceListing

section Disks

/-- A name that an entry of a directory can have. -/
structure EntryName (name : Text) : Prop where
  proper : Proper name
  slash : '/' ∉ name
  nul : '\x00' ∉ name
  short : (Utf8.encode name).length ≤ Tree.nameLimit

instance (name : Text) : Decidable (EntryName name) :=
  decidable_of_iff
    ((name ≠ [] ∧ name ≠ ['.'] ∧ name ≠ ['.', '.']) ∧ '/' ∉ name ∧ '\x00' ∉ name ∧
      (Utf8.encode name).length ≤ Tree.nameLimit)
    ⟨fun h => ⟨h.1, h.2.1, h.2.2.1, h.2.2.2⟩, fun h => ⟨h.proper, h.slash, h.nul, h.short⟩⟩

/-- A tree as a disk holds it: no two entries have the same place, each has a name of its own and
stands in a directory, and the way to the working directory is among them. -/
structure OnDisk (t : Tree) : Prop where
  distinct : (t.entries.map (·.1)).Nodup
  named : ∀ e ∈ t.entries, ∀ name ∈ e.1, EntryName name
  placed : ∀ e ∈ t.entries, e.1 ≠ [] ∧ t.find? e.1.dropLast = some .directory
  home : ∀ above, above <+: t.home → above ≠ [] → (above, .directory) ∈ t.entries

instance (t : Tree) : Decidable (OnDisk t) :=
  decidable_of_iff
    ((t.entries.map (·.1)).Nodup ∧ (∀ e ∈ t.entries, ∀ name ∈ e.1, EntryName name) ∧
      (∀ e ∈ t.entries, e.1 ≠ [] ∧ t.find? e.1.dropLast = some .directory) ∧
      ∀ above ∈ t.home.inits, above ≠ [] → (above, .directory) ∈ t.entries)
    ⟨fun h => ⟨h.1, h.2.1, h.2.2.1, fun above habove =>
        h.2.2.2 above ((List.mem_inits _ _).mpr habove)⟩,
      fun h => ⟨h.distinct, h.named, h.placed, fun above habove =>
        h.home above ((List.mem_inits _ _).mp habove)⟩⟩

variable {t : Tree}

theorem lookup_eq_some_of_mem {α β : Type} [BEq α] [LawfulBEq α] {l : List (α × β)} {a : α} {b : β}
    (hnodup : (l.map (·.1)).Nodup) (h : (a, b) ∈ l) : l.lookup a = some b := by
  obtain ⟨front, back, rfl⟩ := List.append_of_mem h
  rw [List.map_append, List.map_cons, List.nodup_middle, List.nodup_cons] at hnodup
  refine List.lookup_eq_some_iff.mpr ⟨front, back, rfl, fun e he => ?_⟩
  rw [bne_iff_ne]
  rintro rfl
  exact hnodup.1 (List.mem_append_left _ (List.mem_map.mpr ⟨e, he, rfl⟩))

theorem OnDisk.find?_eq_lookup (onDisk : OnDisk t) {names : List Text} (hne : names ≠ []) :
    t.find? names = t.entries.lookup names := by
  by_cases hprefix : names <+: t.home
  · rw [find?_above_home hprefix,
      lookup_eq_some_of_mem onDisk.distinct (onDisk.home names hprefix hne)]
  · exact find?_apart_home hprefix

theorem OnDisk.mem_entries_iff (onDisk : OnDisk t) {names : List Text} {entry : Entry} :
    (names, entry) ∈ t.entries ↔ names ≠ [] ∧ t.find? names = some entry := by
  constructor
  · intro h
    have hnames := (onDisk.placed _ h).1
    exact ⟨hnames, (onDisk.find?_eq_lookup hnames).trans
      (lookup_eq_some_of_mem onDisk.distinct h)⟩
  · rintro ⟨hnames, h⟩
    rw [onDisk.find?_eq_lookup hnames] at h
    obtain ⟨front, back, hsplit, -⟩ := List.lookup_eq_some_iff.mp h
    simp [hsplit]

theorem OnDisk.housed (onDisk : OnDisk t) {names : List Text} (h : t.find? names ≠ none) :
    Housed t (.inside names) := by
  induction names using List.reverseRecOn with
  | nil =>
      intro above habove hne
      exact absurd (List.prefix_nil.mp habove) hne
  | append_singleton home name ih =>
      obtain ⟨entry, hentry⟩ := Option.ne_none_iff_exists'.mp h
      have hmem := onDisk.mem_entries_iff.mpr ⟨by simp, hentry⟩
      have hhome : t.find? home = some .directory := by
        simpa using (onDisk.placed _ hmem).2
      exact housed_child hhome (ih (by simp [hhome]))

theorem OnDisk.entryName (onDisk : OnDisk t) {names : List Text} (h : t.find? names ≠ none) :
    ∀ name ∈ names, EntryName name := by
  intro name hname
  obtain ⟨entry, hentry⟩ := Option.ne_none_iff_exists'.mp h
  exact onDisk.named _ (onDisk.mem_entries_iff.mpr ⟨List.ne_nil_of_mem hname, hentry⟩) name hname

theorem OnDisk.mem_children_iff (onDisk : OnDisk t) {home : List Text} {name : Text} :
    name ∈ t.children home ↔ t.find? (home ++ [name]) ≠ none := by
  rw [Tree.children, List.mem_filterMap]
  constructor
  · rintro ⟨⟨names, entry⟩, hmem, h⟩
    simp only at h
    split_ifs at h with hhome
    obtain ⟨front, rfl⟩ := List.getLast?_eq_some_iff.mp h
    rw [List.dropLast_concat] at hhome
    rw [← hhome, (onDisk.mem_entries_iff.mp hmem).2]
    simp
  · intro h
    obtain ⟨entry, hentry⟩ := Option.ne_none_iff_exists'.mp h
    refine ⟨(home ++ [name], entry), onDisk.mem_entries_iff.mpr ⟨by simp, hentry⟩, ?_⟩
    simp

variable {top : List Text}

theorem OnDisk.walk_directories (onDisk : OnDisk t) {left : Nat} {names : List Text}
    (rest : List Text)
    (h : ∀ above, above <+: names → t.find? (top ++ above) = some .directory) :
    t.walk left (.inside top) (names ++ rest) = t.walk left (.inside (top ++ names)) rest := by
  induction names generalizing top with
  | nil => simp
  | cons name names ih =>
      have htop : t.find? top = some .directory := by simpa using h [] List.nil_prefix
      have hchild : t.find? (top ++ [name]) = some .directory :=
        h [name] (by simp)
      have hname : EntryName name :=
        onDisk.entryName (show t.find? (top ++ [name]) ≠ none by simp [hchild]) name (by simp)
      rw [List.cons_append, walk_enter _ htop hname.proper hname.short hchild (by simp),
        ih fun above habove => ?_]
      · simp
      · simpa using h (name :: above) (by simpa using habove)

theorem OnDisk.above (onDisk : OnDisk t) {names : List Text} (h : t.find? (top ++ names) ≠ none)
    {above : List Text} (habove : above <+: names) (hne : above ≠ names) :
    t.find? (top ++ above) = some .directory :=
  onDisk.housed h (top ++ above) ((List.prefix_append_right_inj top).mpr habove)
    fun hsame => hne (List.append_cancel_left hsame)

theorem OnDisk.walk_entry (onDisk : OnDisk t) {left : Nat} {names : List Text} {entry : Entry}
    (hfound : t.find? (top ++ names) = some entry) (hentry : ∀ target, entry ≠ .link target) :
    t.walk left (.inside top) names = .ok (.occupied (.inside (top ++ names))) := by
  rcases List.eq_nil_or_concat names with rfl | ⟨home, name, hnames⟩
  · rw [List.append_nil, Tree.walk.eq_1]
  rw [List.concat_eq_append] at hnames
  subst hnames
  have hthere : t.find? (top ++ (home ++ [name])) ≠ none := by simp [hfound]
  have habove : ∀ above, above <+: home → t.find? (top ++ above) = some .directory := by
    intro above h
    refine onDisk.above hthere (h.trans (List.prefix_append _ _)) ?_
    intro hsame
    have hlength := h.length_le
    rw [hsame, List.length_append, List.length_singleton] at hlength
    omega
  have hname : EntryName name :=
    onDisk.entryName hthere name (by simp)
  rw [← List.append_assoc] at hfound ⊢
  rw [onDisk.walk_directories [name] habove,
    walk_enter [] (habove home List.prefix_rfl) hname.proper hname.short hfound hentry,
    Tree.walk.eq_1]

end Disks

section Bases

variable {t : Tree} {p base : Path} {top : List Text}

theorem splitOn_slashes (slashes : Nat) (text : Text) :
    (List.replicate slashes '/' ++ text).splitOn '/' =
      List.replicate slashes [] ++ text.splitOn '/' := by
  induction slashes with
  | zero => rfl
  | succ slashes ih =>
      rw [List.replicate_succ, List.cons_append, List.splitOn_eq_splitOnP,
        List.splitOnP_cons_eq_if_modifyHead, if_pos (beq_self_eq_true _),
        ← List.splitOn_eq_splitOnP, ih]
      rfl

theorem walk_slashes {links slashes : Nat} {here : Tree.Location} (names : List Text)
    (hopen : t.entry? here = some .directory) :
    t.walk links here (List.replicate slashes [] ++ names) = t.walk links here names := by
  induction slashes with
  | zero => rfl
  | succ slashes ih => rw [List.replicate_succ, List.cons_append, walk_stay hopen (.inl rfl), ih]

theorem head?_joined {first : Text} (hfirst : first ≠ []) (rest : List Text) :
    (joined ['/'] (first :: rest)).head? = first.head? := by
  obtain ⟨c, cs, rfl⟩ := List.exists_cons_of_ne_nil hfirst
  cases rest with
  | nil => simp [joined]
  | cons second rest => simp [joined, List.intercalate_cons_cons]

theorem text_of_not_here (h : ¬ (p.root = [] ∧ p.parts = [])) :
    p.text = p.root ++ joined ['/'] p.parts := by
  rw [Path.text, if_neg (by simpa using h)]

theorem mem_text_of_mem {name : Text} {c : Char} (hname : name ∈ p.parts) (hc : c ∈ name) :
    c ∈ p.text := by
  rw [text_of_not_here fun h => List.ne_nil_of_mem hname h.2]
  exact List.mem_append_right _ (mem_joined_of_mem hname hc)

theorem text_ne_nil (hne : p.parts ≠ []) (hparts : ∀ name ∈ p.parts, name ≠ []) :
    p.text ≠ [] := by
  obtain ⟨name, hname⟩ := List.exists_mem_of_ne_nil _ hne
  obtain ⟨c, cs, rfl⟩ := List.exists_cons_of_ne_nil (hparts name hname)
  exact List.ne_nil_of_mem (mem_text_of_mem hname List.mem_cons_self)

theorem nul_notMem_text {slashes : Nat} (hroot : p.root = List.replicate slashes '/')
    (hne : p.parts ≠ []) (hparts : ∀ name ∈ p.parts, '\x00' ∉ name) : '\x00' ∉ p.text := by
  rw [text_of_not_here fun h => hne h.2, hroot]
  intro h
  rcases List.mem_append.mp h with h | h
  · exact absurd (List.eq_of_mem_replicate h) (by decide)
  · rcases mem_joined h with h | ⟨name, hname, h⟩
    · exact absurd (List.mem_singleton.mp h) (by decide)
    · exact hparts name hname h

def start (t : Tree) (p : Path) : Tree.Location :=
  if p.root = [] then .inside t.home else .inside []

theorem entry_start (t : Tree) (p : Path) : t.entry? (start t p) = some .directory := by
  rw [start]
  split_ifs
  · exact find?_above_home List.prefix_rfl
  · exact find?_nil t

theorem walk_text {slashes links : Nat} (hroot : p.root = List.replicate slashes '/')
    (hparts : ∀ name ∈ p.parts, name ≠ [] ∧ '/' ∉ name) :
    t.walk links (Tree.startOf p.text (.inside t.home)) (p.text.splitOn '/') =
      t.walk links (start t p) p.parts := by
  by_cases hhere : p.root = [] ∧ p.parts = []
  · have htext : p.text = ['.'] := by
      rw [Path.text, hhere.1, hhere.2]
      rfl
    rw [htext, start, if_pos hhere.1, hhere.2]
    exact walk_stay (find?_above_home List.prefix_rfl) (.inr rfl)
  have htext := text_of_not_here hhere
  rw [hroot] at htext
  have hstart : Tree.startOf p.text (.inside t.home) = start t p := by
    cases slashes with
    | succ slashes =>
        rw [htext, start, hroot]
        rfl
    | zero =>
        obtain ⟨first, rest, hfirst⟩ :=
          List.exists_cons_of_ne_nil fun hnil => hhere ⟨hroot, hnil⟩
        have hslash := hparts first (by simp [hfirst])
        have hempty : p.root = [] := hroot
        rw [start, if_pos hempty, Tree.startOf, if_neg]
        rw [htext, List.replicate_zero, List.nil_append, hfirst, head?_joined hslash.1]
        exact fun h => hslash.2 (List.mem_of_head? h)
  rw [hstart, htext, splitOn_slashes, walk_slashes _ (entry_start t p)]
  by_cases hnil : p.parts = []
  · rw [hnil]
    exact walk_stay (entry_start t p) (.inl rfl)
  · rw [joined, List.splitOn_intercalate '/' (fun name hname => (hparts name hname).2) hnil]

/-- The path that leads on from another one along names. -/
def down (base : Path) (names : List Text) : Path := { base with parts := base.parts ++ names }

/-- A path leads to a directory. -/
structure LeadsTo (t : Tree) (base : Path) (top : List Text) : Prop where
  root : ∃ slashes, base.root = List.replicate slashes '/'
  named : ∀ name ∈ base.parts, name ≠ [] ∧ '/' ∉ name ∧ '\x00' ∉ name
  entry : t.entryAt base.text = .ok (.inside top, .directory)
  way : ∃ left, ∀ names, t.walk Tree.linkLimit (start t base) (base.parts ++ names) =
    t.walk left (.inside top) names

theorem of_mem_parse {root name : Text} (h : name ∈ (Path.parse root).parts) :
    name ≠ [] ∧ name ≠ ['.'] ∧ '/' ∉ name := by
  obtain ⟨hmem, hname⟩ := List.mem_filter.mp h
  simp only [Bool.and_eq_true, Bool.not_eq_true', bne_iff_ne, ne_eq, List.isEmpty_eq_false_iff]
    at hname
  exact ⟨hname.1, hname.2, fun hslash => (of_mem_splitOn hmem hslash).2 rfl⟩

theorem root_parse (root : Text) :
    ∃ slashes, (Path.parse root).root = List.replicate slashes '/' := by
  simp only [Path.parse]
  split_ifs
  · exact ⟨0, rfl⟩
  · exact ⟨2, rfl⟩
  · exact ⟨1, rfl⟩

theorem leadsTo_of_entryAt {root : Text}
    (h : t.entryAt (Path.parse root).text = .ok (.inside top, .directory)) :
    LeadsTo t (.parse root) top := by
  obtain ⟨hwalk, hnul, -⟩ := TreeCopies.walk_of_locate (entryAt_eq_ok_iff.mp h).1
  obtain ⟨slashes, hroot⟩ := root_parse root
  have hparts : ∀ name ∈ (Path.parse root).parts, name ≠ [] ∧ '/' ∉ name := fun name hname =>
    ⟨(of_mem_parse hname).1, (of_mem_parse hname).2.2⟩
  rw [walk_text hroot hparts] at hwalk
  obtain ⟨left, way⟩ := walk_eq_ok_iff.mp hwalk
  refine ⟨⟨slashes, hroot⟩, fun name hname => ?_, h, left, way.walk_append⟩
  refine ⟨(hparts name hname).1, (hparts name hname).2, fun hc => ?_⟩
  simp [mem_text_of_mem hname hc] at hnul

theorem LeadsTo.directory (leads : LeadsTo t base top) : t.find? top = some .directory :=
  (entryAt_eq_ok_iff.mp leads.entry).2

/-- Asking about a path below a directory is walking on from there, if the path is not too long. -/
theorem LeadsTo.locate_down (leads : LeadsTo t base top) :
    ∃ left, ∀ names, names ≠ [] → (∀ name ∈ names, EntryName name) →
      t.locate (down base names).text = .error (.system .nameTooLong (down base names).text) ∨
        t.locate (down base names).text =
          (t.walk left (.inside top) names).mapError (.system · (down base names).text) := by
  obtain ⟨left, hway⟩ := leads.way
  obtain ⟨slashes, hroot⟩ := leads.root
  refine ⟨left, fun names hne hnames => ?_⟩
  have hparts : ∀ name ∈ (down base names).parts, name ≠ [] ∧ '/' ∉ name ∧ '\x00' ∉ name := by
    intro name hname
    rcases List.mem_append.mp hname with hname | hname
    · exact leads.named name hname
    · exact ⟨(hnames name hname).proper.1, (hnames name hname).slash, (hnames name hname).nul⟩
  have hdown : (down base names).root = List.replicate slashes '/' := hroot
  have hdeep : (down base names).parts ≠ [] := by simp [down, hne]
  have hnul : '\x00' ∉ (down base names).text :=
    nul_notMem_text hdown hdeep fun name hname => (hparts name hname).2.2
  have hempty : (down base names).text ≠ [] :=
    text_ne_nil hdeep fun name hname => (hparts name hname).1
  rw [Tree.locate, if_neg (by simpa using hnul)]
  split_ifs with hlong hnone
  · exact .inl rfl
  · exact absurd (by simpa using hnone) hempty
  · rw [walk_text hdown fun name hname => ⟨(hparts name hname).1, (hparts name hname).2.1⟩]
    exact .inr (congrArg _ (hway names))

end Bases

end MappingMarkers.Proofs.DirectoryPaths
