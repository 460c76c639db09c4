import MappingMarkers.Files.Source
import MappingMarkers.Proofs.TreeCopies

namespace MappingMarkers.Proofs.SourceListing

open Text Files FileNames Splitting TreeWalk TreeCopies

section Outcomes

variable {ε α β : Type}

theorem bind_eq_ok_iff {x : Except ε α} {f : α → Except ε β} {b : β} :
    (x >>= f) = .ok b ↔ ∃ a, x = .ok a ∧ f a = .ok b := by
  cases x with
  | error e => simp [bind, Except.bind]
  | ok a => simp [bind, Except.bind]

theorem mapError_eq_ok_iff {ε' : Type} {x : Except ε α} {f : ε → ε'} {a : α} :
    x.mapError f = .ok a ↔ x = .ok a := by
  cases x with
  | error e => simp [Except.mapError]
  | ok a => simp [Except.mapError]

theorem bind_eq_error_iff {x : Except ε α} {f : α → Except ε β} {e : ε} :
    (x >>= f) = .error e ↔ x = .error e ∨ ∃ a, x = .ok a ∧ f a = .error e := by
  cases x with
  | error e => simp [bind, Except.bind]
  | ok a => simp [bind, Except.bind]

theorem mapError_eq_error_iff {ε' : Type} {x : Except ε α} {f : ε → ε'} {e : ε'} :
    x.mapError f = .error e ↔ ∃ e₁, x = .error e₁ ∧ f e₁ = e := by
  cases x with
  | error e => simp [Except.mapError]
  | ok a => simp [Except.mapError]

theorem exists_of_mem_mapM {f : α → Except ε β} {l : List α} {found : List β} {b : β}
    (h : l.mapM f = .ok found) (hb : b ∈ found) : ∃ a ∈ l, f a = .ok b := by
  induction l generalizing found with
  | nil =>
      rw [List.mapM_nil] at h
      rw [← Except.ok.inj h] at hb
      simp at hb
  | cons a as ih =>
      rw [List.mapM_cons] at h
      obtain ⟨first, hfirst, h⟩ := bind_eq_ok_iff.mp h
      obtain ⟨others, hothers, h⟩ := bind_eq_ok_iff.mp h
      rw [← Except.ok.inj h] at hb
      rcases List.mem_cons.mp hb with rfl | hb
      · exact ⟨a, List.mem_cons_self, hfirst⟩
      · obtain ⟨a', ha', hf⟩ := ih hothers hb
        exact ⟨a', List.mem_cons_of_mem _ ha', hf⟩

theorem exists_of_mem_collect {search : α → Except ε (List β)} {places : List α} {found : List β}
    {b : β} (h : Glob.collect search places = .ok found) (hb : b ∈ found) :
    ∃ place ∈ places, ∃ answers, search place = .ok answers ∧ b ∈ answers := by
  rw [Glob.collect, map_eq_pure_bind] at h
  obtain ⟨results, hresults, hflat⟩ := bind_eq_ok_iff.mp h
  rw [← Except.ok.inj hflat] at hb
  obtain ⟨answers, hanswers, hb⟩ := List.mem_flatten.mp hb
  obtain ⟨place, hplace, hsearch⟩ := exists_of_mem_mapM hresults hanswers
  exact ⟨place, hplace, answers, hsearch, hb⟩

theorem of_mem_guarded {enters : Bool} {x : Except ε (List β)} {found : List β} {b : β}
    (h : (if enters then x else pure []) = .ok found) (hb : b ∈ found) : x = .ok found := by
  cases enters with
  | true => exact h
  | false =>
      rw [← Except.ok.inj h] at hb
      simp at hb

theorem exists_of_mem_mapM_some {f : α → Option β} {l : List α} {found : List β} {b : β}
    (h : l.mapM f = some found) (hb : b ∈ found) : ∃ a ∈ l, f a = some b := by
  induction l generalizing found with
  | nil =>
      rw [List.mapM_nil] at h
      rw [← Option.some.inj h] at hb
      simp at hb
  | cons a as ih =>
      rw [List.mapM_cons] at h
      obtain ⟨first, hfirst, h⟩ := Option.bind_eq_some_iff.mp h
      obtain ⟨others, hothers, h⟩ := Option.bind_eq_some_iff.mp h
      rw [← Option.some.inj h] at hb
      rcases List.mem_cons.mp hb with rfl | hb
      · exact ⟨a, List.mem_cons_self, hfirst⟩
      · obtain ⟨a', ha', hf⟩ := ih hothers hb
        exact ⟨a', List.mem_cons_of_mem _ ha', hf⟩

theorem of_mem_filterAuxM {f : α → Except ε Bool} {l kept found : List α} {a : α}
    (h : l.filterAuxM f kept = .ok found) (ha : a ∈ found) :
    a ∈ kept ∨ a ∈ l ∧ f a = .ok true := by
  induction l generalizing kept with
  | nil =>
      rw [← Except.ok.inj h] at ha
      exact Or.inl ha
  | cons b bs ih =>
      obtain ⟨keep, hkeep, h⟩ := bind_eq_ok_iff.mp h
      rcases ih h with hmem | ⟨hmem, hf⟩
      · cases keep with
        | false => exact Or.inl hmem
        | true =>
            rcases List.mem_cons.mp hmem with rfl | hmem
            · exact Or.inr ⟨List.mem_cons_self, hkeep⟩
            · exact Or.inl hmem
      · exact Or.inr ⟨List.mem_cons_of_mem _ hmem, hf⟩

theorem of_mem_filterM {f : α → Except ε Bool} {l found : List α} {a : α}
    (h : l.filterM f = .ok found) (ha : a ∈ found) : a ∈ l ∧ f a = .ok true := by
  obtain ⟨reversed, hreversed, hfound⟩ := bind_eq_ok_iff.mp h
  rw [← Except.ok.inj hfound, List.mem_reverse] at ha
  rcases of_mem_filterAuxM hreversed ha with hnil | hmem
  · simp at hnil
  · exact hmem

end Outcomes

def isLink : Entry → Bool
  | .link _ => true
  | _ => false

/-- A tree of files and directories only, with names that have no slash. -/
structure Plain (t : Tree) : Prop where
  unlinked : ∀ e ∈ t.entries, isLink e.2 = false
  named : ∀ e ∈ t.entries, ∀ name ∈ e.1, '/' ∉ name

instance (t : Tree) : Decidable (Plain t) :=
  decidable_of_iff
    ((∀ e ∈ t.entries, isLink e.2 = false) ∧ ∀ e ∈ t.entries, ∀ name ∈ e.1, '/' ∉ name)
    ⟨fun h => ⟨h.1, h.2⟩, fun h => ⟨h.unlinked, h.named⟩⟩

theorem Plain.unlinked_find? {t : Tree} (plain : Plain t) : Unlinked t := by
  intro names target h
  rw [Tree.find?] at h
  split_ifs at h
  · simp at h
  · obtain ⟨before, after, hsplit, -⟩ := List.lookup_eq_some_iff.mp h
    have hlink := plain.unlinked (names, .link target) (by simp [hsplit])
    contradiction

section Selection

variable {t : Tree}

/-- A path below another one, by names without a slash. -/
def Below (top p : Path) : Prop := p.root = top.root ∧ ∀ name ∈ p.parts, '/' ∉ name

theorem below_child {top p : Path} {name : Text} (hp : Below top p) (hname : '/' ∉ name) :
    Below top (p.child name) := by
  refine ⟨hp.1, fun n hn => ?_⟩
  rcases List.mem_append.mp hn with hn | hn
  · exact hp.2 n hn
  · rwa [List.mem_singleton.mp hn]

theorem below_of_mem_directories (plain : Plain t) {top p q : Path} {found : List Path}
    (hp : Below top p) (h : Glob.directories t p = .ok found) (hq : q ∈ found) : Below top q := by
  obtain ⟨⟨l, entry⟩, -, h⟩ := bind_eq_ok_iff.mp h
  rw [← Except.ok.inj h] at hq
  rcases List.mem_cons.mp hq with rfl | hq
  · exact hp
  · obtain ⟨⟨key, value⟩, hmem, hdeeper⟩ := List.mem_filterMap.mp hq
    simp only at hdeeper
    split_ifs at hdeeper
    rw [← Option.some.inj hdeeper]
    refine ⟨hp.1, fun n hn => ?_⟩
    rcases List.mem_append.mp hn with hn | hn
    · exact hp.2 n hn
    · exact plain.named _ hmem n (List.mem_of_mem_drop hn)

theorem slash_notMem_of_mem_list (plain : Plain t) {p : Path} {names : List Text} {name : Text}
    (h : Glob.list t p = .ok names) (hname : name ∈ names) : '/' ∉ name := by
  obtain ⟨⟨l, entry⟩, -, h⟩ := bind_eq_ok_iff.mp h
  rw [← Except.ok.inj h] at hname
  obtain ⟨⟨key, value⟩, hmem, hlast⟩ := List.mem_filterMap.mp hname
  simp only at hlast
  split_ifs at hlast
  exact plain.named _ hmem name (List.mem_of_getLast? hlast)

theorem below_of_mem_select (plain : Plain t) {top p q : Path} {steps : List Glob.Component}
    {found : List Path} (hsteps : ∀ name, .name name ∈ steps → '/' ∉ name) (hp : Below top p)
    (h : Glob.select t steps p = .ok found) (hq : q ∈ found) : Below top q := by
  induction steps generalizing p found with
  | nil =>
      rw [← Except.ok.inj h] at hq
      rwa [List.mem_singleton.mp hq]
  | cons step rest ih =>
      have hrest : ∀ name, .name name ∈ rest → '/' ∉ name := fun name hname =>
        hsteps name (List.mem_cons_of_mem _ hname)
      cases step with
      | stop =>
          rw [← Except.ok.inj h] at hq
          rwa [List.mem_singleton.mp hq]
      | name name =>
          obtain ⟨there, h⟩ : ∃ there : Bool,
              (if there then Glob.select t rest (p.child name) else pure []) = .ok found := by
            rw [Glob.select] at h
            split_ifs at h
            · exact (bind_eq_ok_iff.mp h).imp fun _ hthere => hthere.2
            · exact (bind_eq_ok_iff.mp h).imp fun _ hthere => hthere.2
          have hselect := of_mem_guarded h hq
          exact ih hrest (below_child hp (hsteps name List.mem_cons_self)) hselect hq
      | pattern pieces =>
          obtain ⟨names, hnames, h⟩ := bind_eq_ok_iff.mp h
          obtain ⟨name, hname, result, hvisit, hq⟩ := exists_of_mem_collect h hq
          obtain ⟨enters, hvisit⟩ : ∃ enters : Bool,
              (if enters && Glob.fits pieces name then Glob.select t rest (p.child name)
                else pure []) = .ok result := by
            split_ifs at hvisit
            · exact (bind_eq_ok_iff.mp hvisit).imp fun _ henters => henters.2
            · exact (bind_eq_ok_iff.mp hvisit).imp fun _ henters => henters.2
          have hselect := of_mem_guarded hvisit hq
          exact ih hrest (below_child hp (slash_notMem_of_mem_list plain hnames hname)) hselect hq
      | anyDepth =>
          obtain ⟨tops, htops, h⟩ := bind_eq_ok_iff.mp h
          rw [map_eq_pure_bind] at h
          obtain ⟨all, hall, h⟩ := bind_eq_ok_iff.mp h
          rw [← Except.ok.inj h, List.mem_eraseDups] at hq
          obtain ⟨place, hplace, result, hselect, hq⟩ := exists_of_mem_collect hall hq
          exact ih hrest (below_of_mem_directories plain hp htops hplace) hselect hq

theorem slash_notMem_of_mem_components {pattern name : Text} {steps : List Glob.Component}
    (h : Glob.components? pattern = some steps) (hname : .name name ∈ steps) : '/' ∉ name := by
  obtain ⟨named, hnamed, rfl⟩ := Option.map_eq_some_iff.mp h
  have hstep : Glob.Component.name name ∈ named := by
    split_ifs at hname
    · simpa using hname
    · exact hname
  obtain ⟨text, htext, hread⟩ := exists_of_mem_mapM_some hnamed hstep
  have hsame : text = name := by
    rw [Glob.Component.ofText?] at hread
    split_ifs at hread
    · simp at hread
    · simp at hread
    · simpa using hread
  intro hslash
  rw [← hsame] at hslash
  exact (of_mem_splitOn (List.mem_filter.mp htext).1 hslash).2 rfl

end Selection

section Listing

variable {t : Tree} {s : Settings} {root : Text} {files : List Path}

theorem fault_of_sources_eq_error {top : Path} {f : Fault} (h : sources t top s = .error f) :
    f = .pattern ∨ ∃ e, f = .access e := by
  rw [sources] at h
  cases hsteps : Glob.components? ('*' :: s.fileSuffix) with
  | none =>
      rw [hsteps] at h
      exact .inl (Except.error.inj h).symm
  | some steps =>
      rw [hsteps] at h
      rcases bind_eq_error_iff.mp h with hselected | ⟨selected, -, h⟩
      · obtain ⟨e, -, rfl⟩ := mapError_eq_error_iff.mp hselected
        exact .inr ⟨e, rfl⟩
      rcases bind_eq_error_iff.mp h with hfound | ⟨found, -, h⟩
      · obtain ⟨e, -, rfl⟩ := mapError_eq_error_iff.mp hfound
        exact .inr ⟨e, rfl⟩
      · contradiction

theorem selected_of_mem_sources {top : Path} (h : sources t top s = .ok files) {p : Path}
    (hp : p ∈ files) :
    t.isFile p.text = .ok true ∧ s.isGenerated p = false ∧
      ∃ steps selected, Glob.components? ('*' :: s.fileSuffix) = some steps ∧
        Glob.below t top steps = .ok selected ∧ p ∈ selected := by
  rw [sources] at h
  cases hsteps : Glob.components? ('*' :: s.fileSuffix) with
  | none =>
      rw [hsteps] at h
      contradiction
  | some steps =>
      rw [hsteps] at h
      obtain ⟨selected, hselected, h⟩ := bind_eq_ok_iff.mp h
      obtain ⟨found, hfound, h⟩ := bind_eq_ok_iff.mp h
      rw [← Except.ok.inj h, List.mem_mergeSort, List.mem_filter] at hp
      obtain ⟨hmem, hfile⟩ := of_mem_filterM (mapError_eq_ok_iff.mp hfound) hp.1
      exact ⟨hfile, by simpa using hp.2, steps, selected, rfl, mapError_eq_ok_iff.mp hselected,
        hmem⟩

theorem of_mem_sources (plain : Plain t) (h : sources t (.parse root) s = .ok files) {p : Path}
    (hp : p ∈ files) :
    t.isFile p.text = .ok true ∧ s.isGenerated p = false ∧ Below (.parse root) p := by
  obtain ⟨hfile, horiginal, steps, selected, hsteps, hselected, hmem⟩ :=
    selected_of_mem_sources h hp
  refine ⟨hfile, horiginal, ?_⟩
  obtain ⟨there, -, hbelow⟩ := bind_eq_ok_iff.mp hselected
  split_ifs at hbelow
  · refine below_of_mem_select plain (fun name hname => ?_) ⟨rfl, fun name hname => ?_⟩
      hbelow hmem
    · rcases List.mem_cons.mp hname with hany | hname
      · contradiction
      · exact slash_notMem_of_mem_components hsteps hname
    · intro hslash
      exact (of_mem_splitOn (List.mem_filter.mp hname).1 hslash).2 rfl
  · rw [← Except.ok.inj hbelow] at hmem
    simp at hmem

/-- A source file in the directory at `home`, and where its copy stands. -/
structure Source (s : Settings) (t : Tree) (p : Path) (home : List Text) (bytes : List UInt8) :
    Prop where
  suffix : p.suffix ≠ []
  slash : '/' ∉ p.name
  original : s.isGenerated p = false
  leads : Leads t p.text home p.name
  fit : unfit? p.text p.name = none
  file : t.find? (home ++ [p.name]) = some (.file bytes)
  copy_leads : ∀ copy, s.outputPath p = .ok copy → Leads t copy.text home (lastName copy.name)

theorem name_ne_nil {p : Path} (h : p.suffix ≠ []) : p.name ≠ [] := by
  obtain ⟨ext, hname, -⟩ := name_eq_of_suffix h
  simp [hname]

/-- A listed file stands in a directory, and so does what has another name in its place. -/
theorem exists_leads_of_mem_sources (plain : Plain t) (h : sources t (.parse root) s = .ok files)
    {p : Path} (hp : p ∈ files) :
    ∃ names home bytes, '/' ∉ p.name ∧
      (∀ name, (front p ++ name).splitOn '/' = names ++ name.splitOn '/') ∧
      Leads t p.text home p.name ∧ unfit? p.text p.name = none ∧
      t.find? (home ++ [p.name]) = some (.file bytes) := by
  obtain ⟨hfile, -, hbelow⟩ := of_mem_sources plain h hp
  have hroot : p.root = [] ∨ ∃ r, p.root = r ++ ['/'] := by
    rw [hbelow.1, Path.parse]
    split_ifs
    · exact Or.inl rfl
    · exact Or.inr ⟨['/'], rfl⟩
    · exact Or.inr ⟨[], rfl⟩
  obtain ⟨names, hnames⟩ := exists_splitOn_front_append hroot
  have hslash : '/' ∉ p.name := by
    rw [Path.name]
    cases hlast : p.parts.getLast? with
    | none => exact List.not_mem_nil
    | some last => exact hbelow.2 last (List.mem_of_getLast? hlast)
  have hway : p.text.splitOn '/' = names ++ [p.name] := by
    have hthere : ¬ (p.root = [] ∧ p.parts = []) := by
      -- The current directory is no file.
      rintro ⟨hroot, hparts⟩
      have htext : p.text.splitOn '/' = [] ++ [['.']] := by
        rw [Path.text, hroot, hparts]
        rfl
      exact (proper_of_isFile plain.unlinked_find? htext hfile).2.1 rfl
    rw [text_eq_of_not_here hthere, hnames, List.splitOn_eq_singleton hslash]
  obtain ⟨home, bytes, hleads⟩ := exists_leads_of_isFile plain.unlinked_find? hway hfile
  exact ⟨names, home, bytes, hslash, hnames, hleads⟩

theorem exists_source (plain : Plain t) (h : sources t (.parse root) s = .ok files) {p : Path}
    (hp : p ∈ files) (hsuffix : p.suffix ≠ []) : ∃ home bytes, Source s t p home bytes := by
  obtain ⟨-, horiginal, -⟩ := of_mem_sources plain h hp
  obtain ⟨names, home, bytes, hslash, hnames, hleads, hfit, hbytes⟩ :=
    exists_leads_of_mem_sources plain h hp
  refine ⟨home, bytes, hsuffix, hslash, horiginal, hleads, hfit, hbytes, fun copy hcopy => ?_⟩
  obtain ⟨before, hbefore, hblank⟩ := splitOn_name_of_outputPath hsuffix hslash hcopy
  have hlast := proper_lastName_of_outputPath hsuffix hslash hcopy
  have hcopyName : copy.name ≠ [] := by
    obtain ⟨ext, -, hext, -⟩ := name_eq_of_suffix hsuffix
    simp [name_of_outputPath hcopy, hext]
  obtain ⟨way, hsplit, hwalk⟩ := hleads.through
  have hway : p.text.splitOn '/' = names ++ [p.name] := by
    rw [text_eq_front_append (name_ne_nil hsuffix), hnames, List.splitOn_eq_singleton hslash]
  obtain rfl : way = names := List.append_inj_left' (hsplit.symm.trans hway) rfl
  refine ⟨hleads.directory, hlast, way ++ before, ?_, ?_⟩
  · rw [text_eq_front_append hcopyName, front_of_outputPath hcopy, hnames, hbefore,
      List.append_assoc]
  · rw [Tree.startOf, head?_text_of_outputPath hsuffix hcopy, ← Tree.startOf,
      walk_append plain.unlinked_find? before hwalk]
    exact walk_blank plain.unlinked_find? hleads.directory hblank

end Listing

section Sources

variable {s : Settings} {t : Tree} {p q copy copy' : Path} {home home' names : List Text}
  {bytes bytes' : List UInt8}

theorem Source.leadsTo? (unlinked : Unlinked t) (hp : Source s t p home bytes) :
    leadsTo? t p.text = some (home ++ [p.name]) := by
  rw [hp.leads.leadsTo? unlinked, if_pos hp.fit]

theorem Source.read (unlinked : Unlinked t) (hp : Source s t p home bytes) :
    t.read p.text = .ok bytes :=
  hp.leads.read unlinked hp.fit hp.file

theorem Source.copy_leadsTo? (unlinked : Unlinked t) (hp : Source s t p home bytes)
    (hcopy : s.outputPath p = .ok copy) (h : TreeCopies.leadsTo? t copy.text = some names) :
    names = home ++ [lastName copy.name] := by
  rw [(hp.copy_leads copy hcopy).leadsTo? unlinked] at h
  split_ifs at h
  exact (Option.some.inj h).symm

theorem Source.copy_ne (unlinked : Unlinked t) (hp : Source s t p home bytes)
    (hq : Source s t q home' bytes') (hcopy : s.outputPath p = .ok copy) (hstrays : ¬ Strays s p)
    (h : TreeCopies.leadsTo? t copy.text = some names) : names ≠ home' ++ [q.name] := by
  rw [hp.copy_leadsTo? unlinked hcopy h]
  intro hsame
  exact lastName_ne_name hp.suffix hp.slash hcopy hstrays hq.original
    (List.cons.inj (List.append_inj_right' hsame rfl)).1

theorem Source.eq_of_copy_eq (unlinked : Unlinked t) (hp : Source s t p home bytes)
    (hq : Source s t q home' bytes') (hcopy : s.outputPath p = .ok copy)
    (hcopy' : s.outputPath q = .ok copy') (h : TreeCopies.leadsTo? t copy.text = some names)
    (h' : TreeCopies.leadsTo? t copy'.text = some names) :
    TreeCopies.leadsTo? t p.text = TreeCopies.leadsTo? t q.text := by
  have hsame := (hp.copy_leadsTo? unlinked hcopy h).symm.trans
    (hq.copy_leadsTo? unlinked hcopy' h')
  obtain ⟨rfl, hlast⟩ := List.append_inj' hsame rfl
  have hname := name_eq_of_lastName_eq hp.suffix hq.suffix hp.slash hq.slash hcopy hcopy'
    (List.cons.inj hlast).1
  rw [hp.leadsTo? unlinked, hq.leadsTo? unlinked, hname]

end Sources

end MappingMarkers.Proofs.SourceListing
