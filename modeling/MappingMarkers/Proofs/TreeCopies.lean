import MappingMarkers.Proofs.TreeWalk

namespace MappingMarkers.Proofs.TreeCopies

open Text Files FileNames TreeWalk

section Writing

theorem lookup_map_replace (entries : List (List Text × Entry)) (names : List Text) (entry : Entry)
    (other : List Text) :
    (entries.map fun e => if e.1 = names then (names, entry) else e).lookup other =
      if other = names then (entries.lookup other).map fun _ => entry
      else entries.lookup other := by
  induction entries with
  | nil => simp
  | cons e es ih =>
      obtain ⟨key, value⟩ := e
      rw [List.map_cons, List.lookup_cons]
      by_cases hkey : key = names
      · subst hkey
        by_cases hother : other = key
        · simp [hother]
        · rw [if_pos rfl, List.lookup_cons, beq_false_of_ne hother, ih]
      · rw [if_neg hkey, List.lookup_cons]
        by_cases hother : other = key
        · simp [hother, hkey]
        · rw [beq_false_of_ne hother, ih]

@[simp] theorem home_set (t : Tree) (names : List Text) (entry : Entry) :
    (t.set names entry).home = t.home := by
  rw [Tree.set]
  split_ifs
  · rfl
  · rfl

theorem find?_set (t : Tree) {names : List Text} (hnames : t.find? names ≠ some .directory)
    (entry : Entry) (other : List Text) :
    (t.set names entry).find? other = if other = names then some entry else t.find? other := by
  by_cases hother : other <+: t.home
  · rw [find?_above_home (by rwa [home_set]), find?_above_home hother, if_neg]
    rintro rfl
    exact hnames (find?_above_home hother)
  rw [find?_apart_home (by rwa [home_set]), find?_apart_home hother, Tree.set]
  split_ifs with hthere hsame hsame
  · rw [lookup_map_replace, if_pos hsame, hsame]
    obtain ⟨value, hvalue⟩ := Option.isSome_iff_exists.mp hthere
    rw [hvalue]
    rfl
  · rw [lookup_map_replace, if_neg hsame]
  · rw [List.lookup_append, hsame, Option.not_isSome_iff_eq_none.mp hthere]
    simp
  · rw [List.lookup_append, List.lookup_cons, beq_false_of_ne hsame, List.lookup_nil,
      Option.or_none]

/-- The tree after texts were written under names, one after the other. -/
def copied (t : Tree) (copies : List (List Text × Text)) : Tree :=
  copies.foldl (fun t copy => t.set copy.1 (.file (Utf8.encode copy.2))) t

/-- The text that was written last under these names. -/
def lastText? (copies : List (List Text × Text)) (names : List Text) : Option Text :=
  copies.reverse.lookup names

theorem copied_append (t : Tree) (copies more : List (List Text × Text)) :
    copied t (copies ++ more) = copied (copied t copies) more :=
  List.foldl_append

theorem lastText?_append (copies more : List (List Text × Text)) (names : List Text) :
    lastText? (copies ++ more) names = (lastText? more names).or (lastText? copies names) := by
  rw [lastText?, List.reverse_append, List.lookup_append]
  rfl

@[simp] theorem home_copied (t : Tree) (copies : List (List Text × Text)) :
    (copied t copies).home = t.home := by
  induction copies generalizing t with
  | nil => rfl
  | cons copy copies ih => exact (ih _).trans (home_set _ _ _)

/-- Under each name is what was written there last, or else what has been there before. -/
theorem find?_copied (t : Tree) {copies : List (List Text × Text)}
    (hcopies : ∀ copy ∈ copies, t.find? copy.1 ≠ some .directory) (names : List Text) :
    (copied t copies).find? names =
      ((lastText? copies names).map fun text => .file (Utf8.encode text)).or (t.find? names) := by
  induction copies generalizing t with
  | nil => rfl
  | cons copy copies ih =>
      obtain ⟨place, text⟩ := copy
      have hplace : t.find? place ≠ some .directory := hcopies _ List.mem_cons_self
      have hfree : ∀ c ∈ copies,
          (t.set place (.file (Utf8.encode text))).find? c.1 ≠ some .directory := by
        intro c hc
        rw [find?_set t hplace]
        split_ifs
        · simp
        · exact hcopies c (List.mem_cons_of_mem _ hc)
      have hrest := ih (t.set place (.file (Utf8.encode text))) hfree
      rw [← List.singleton_append, lastText?_append, copied_append]
      refine hrest.trans ?_
      rw [find?_set t hplace]
      cases lastText? copies names with
      | some later => rfl
      | none =>
          by_cases hnames : names = place
          · simp [hnames, lastText?]
          · simp [hnames, lastText?, List.lookup_cons, beq_false_of_ne hnames]

theorem mem_of_lastText?_eq_some {copies : List (List Text × Text)} {names : List Text}
    {text : Text} (h : lastText? copies names = some text) : (names, text) ∈ copies := by
  obtain ⟨before, after, hsplit, -⟩ := List.lookup_eq_some_iff.mp h
  have hmem : (names, text) ∈ copies.reverse := by simp [hsplit]
  exact List.mem_reverse.mp hmem

theorem lastText?_eq_none_iff {copies : List (List Text × Text)} {names : List Text} :
    lastText? copies names = none ↔ ∀ copy ∈ copies, copy.1 ≠ names := by
  rw [lastText?, List.lookup_eq_none_iff]
  simp only [List.mem_reverse, bne_iff_ne]
  exact forall₂_congr fun copy hcopy => ne_comm

theorem grown_copied {t : Tree} (unlinked : Unlinked t) {copies : List (List Text × Text)}
    (hcopies : ∀ copy ∈ copies, t.find? copy.1 ≠ some .directory) : Grown t (copied t copies) := by
  have hfind := fun names => find?_copied t hcopies names
  constructor
  · exact home_copied t copies
  · intro names target h
    rw [hfind] at h
    cases hlast : lastText? copies names with
    | some text => simp [hlast] at h
    | none => exact unlinked names target (by simpa [hlast] using h)
  · intro names
    rw [hfind]
    cases hlast : lastText? copies names with
    | some text =>
        have hfree := hcopies _ (mem_of_lastText?_eq_some hlast)
        simpa [hlast] using hfree
    | none => simp
  · intro names h
    rw [hfind]
    cases hlast : lastText? copies names with
    | some text => simp
    | none => simpa using h

end Writing

section Access

/-- The names, from the root of the tree, of what a path leads to, or of the free place there. -/
def leadsTo? (t : Tree) (path : Text) : Option (List Text) :=
  match t.locate path with
  | .ok (.vacant names) | .ok (.occupied (.inside names)) => some names
  | .error _ => none

/-- Why no file can be opened for writing at a path. -/
def refusal? (t : Tree) (path : Text) : Option AccessError :=
  match t.locate path with
  | .error e => some e
  | .ok (.vacant _) => none
  | .ok (.occupied l) =>
      if t.entry? l = some .directory then some (.system .isDirectory path) else none

theorem write_of_refusal {t : Tree} {path : Text} {e : AccessError} (bytes : List UInt8)
    (h : refusal? t path = some e) : t.write path bytes = .error e := by
  rw [refusal?] at h
  rw [Tree.write]
  cases hplace : t.locate path with
  | error e' =>
      rw [hplace] at h
      rw [Option.some.inj h]
      rfl
  | ok place =>
      rw [hplace] at h
      cases place with
      | vacant names => simp at h
      | occupied l =>
          simp only at h
          split_ifs at h with hdirectory
          rw [← Option.some.inj h]
          simp [hdirectory, bind, Except.bind]

theorem exists_write {t : Tree} {path : Text} (h : refusal? t path = none) :
    ∃ names, leadsTo? t path = some names ∧
      ∀ bytes, t.write path bytes = .ok (t.set names (.file bytes)) := by
  rw [refusal?] at h
  rw [leadsTo?]
  simp only [Tree.write]
  cases hlocate : t.locate path with
  | error e => simp [hlocate] at h
  | ok place =>
      rw [hlocate] at h
      cases place with
      | vacant free => exact ⟨free, rfl, fun bytes => rfl⟩
      | occupied l =>
          have hfree : t.entry? l ≠ some .directory := by
            intro hd
            simp [hd] at h
          refine ⟨l.names, rfl, fun bytes => ?_⟩
          simp [bind, Except.bind, hfree, pure, Except.pure]

/-- The path goes through the directory at `home`, and names `name` there. -/
structure Leads (t : Tree) (path : Text) (home : List Text) (name : Text) : Prop where
  directory : t.find? home = some .directory
  proper : Proper name
  through : ∃ way, path.splitOn '/' = way ++ [name] ∧
    t.walk Tree.linkLimit (Tree.startOf path (.inside t.home)) way = .ok (.occupied (.inside home))

/-- The error about a path that no system accepts. -/
def unfit? (path name : Text) : Option AccessError :=
  if path.contains '\x00' then some .nul
  else if Tree.pathLimit < (Utf8.encode path).length ∨
      Tree.nameLimit < (Utf8.encode name).length then
    some (.system .nameTooLong path)
  else none

variable {t t' : Tree} {path name : Text} {home : List Text}

theorem Leads.grown (unlinked : Unlinked t) (grown : Grown t t') (h : Leads t path home name) :
    Leads t' path home name := by
  obtain ⟨way, hway, hwalk⟩ := h.through
  refine ⟨(grown.directory home).mpr h.directory, h.proper, way, hway, ?_⟩
  rw [grown.home]
  exact walk_grown unlinked grown hwalk

theorem Leads.locate (unlinked : Unlinked t) (h : Leads t path home name) :
    t.locate path =
      match unfit? path name with
      | some e => .error e
      | none =>
          .ok (if t.find? (home ++ [name]) = none then .vacant (home ++ [name])
            else .occupied (.inside (home ++ [name]))) := by
  obtain ⟨way, hway, hwalk⟩ := h.through
  have hpath : path ≠ [] := by
    rintro rfl
    have hname := List.append_inj_right' (hway.symm.trans (List.nil_append [[]]).symm) rfl
    exact h.proper.1 (List.cons.inj hname).1
  have hstep := step_proper unlinked h.directory h.proper
  have hwalk := (walk_append unlinked [name] hwalk).trans (walk_cons unlinked _ _ name [])
  rw [Tree.locate, unfit?, hway, hwalk, hstep]
  by_cases hnul : path.contains '\x00' = true
  · rw [if_pos hnul, if_pos hnul]
  by_cases hlong : Tree.pathLimit < (Utf8.encode path).length
  · rw [if_neg hnul, if_pos hlong, if_neg hnul, if_pos (Or.inl hlong)]
  rw [if_neg hnul, if_neg hlong, if_neg (by simpa using hpath), if_neg hnul]
  by_cases hname : Tree.nameLimit < (Utf8.encode name).length
  · rw [if_pos hname, if_pos (Or.inr hname)]
    rfl
  rw [if_neg hname, if_neg (not_or.mpr ⟨hlong, hname⟩)]
  by_cases hfound : t.find? (home ++ [name]) = none
  · rw [if_pos hfound, if_pos hfound]
    rfl
  · rw [if_neg hfound, if_neg hfound]
    simp [Tree.walk.eq_1, Except.mapError]

theorem Leads.leadsTo? (unlinked : Unlinked t) (h : Leads t path home name) :
    leadsTo? t path = if unfit? path name = none then some (home ++ [name]) else none := by
  rw [TreeCopies.leadsTo?, h.locate unlinked]
  cases unfit? path name with
  | some e => rfl
  | none =>
      by_cases hfound : t.find? (home ++ [name]) = none
      · simp [hfound]
      · simp [hfound]

theorem Leads.refusal? (unlinked : Unlinked t) (h : Leads t path home name) :
    refusal? t path =
      (unfit? path name).or
        (if t.find? (home ++ [name]) = some .directory then some (.system .isDirectory path)
          else none) := by
  rw [TreeCopies.refusal?, h.locate unlinked]
  cases unfit? path name with
  | some e => rfl
  | none =>
      by_cases hdirectory : t.find? (home ++ [name]) = some .directory
      · simp [hdirectory]
      · by_cases hfound : t.find? (home ++ [name]) = none
        · simp [hfound]
        · simp [hfound, hdirectory]

theorem Leads.read (unlinked : Unlinked t) (h : Leads t path home name)
    (hfit : unfit? path name = none) {bytes : List UInt8}
    (hfile : t.find? (home ++ [name]) = some (.file bytes)) : t.read path = .ok bytes := by
  simp [Tree.read, Tree.entryAt, h.locate unlinked, hfit, hfile, bind, Except.bind,
    pure, Except.pure]

theorem exists_file_of_isFile (h : t.isFile path = .ok true) :
    ∃ l bytes, t.locate path = .ok (.occupied l) ∧ t.entry? l = some (.file bytes) := by
  rw [Tree.isFile, Tree.holdsAt, Tree.entryAt] at h
  cases hlocate : t.locate path with
  | error e =>
      cases e with
      | nul => simp [hlocate, bind, Except.bind] at h
      | system code p =>
          rw [hlocate] at h
          simp only [bind, Except.bind] at h
          split_ifs at h
          simp at h
  | ok place =>
      rw [hlocate] at h
      cases place with
      | vacant free => simp [bind, Except.bind, SystemCode.isAbsence] at h
      | occupied l =>
          cases hentry : t.entry? l with
          | none => simp [bind, Except.bind, hentry, SystemCode.isAbsence] at h
          | some entry =>
              cases entry with
              | file bytes => exact ⟨l, bytes, rfl, hentry⟩
              | directory => simp [bind, Except.bind, hentry, pure, Except.pure] at h
              | link target => simp [bind, Except.bind, hentry, pure, Except.pure] at h

theorem walk_of_locate {place : Tree.Place} (h : t.locate path = .ok place) :
    t.walk Tree.linkLimit (Tree.startOf path (.inside t.home)) (path.splitOn '/') = .ok place ∧
      path.contains '\x00' = false ∧ (Utf8.encode path).length ≤ Tree.pathLimit := by
  rw [Tree.locate] at h
  split_ifs at h with hnul hlong hempty
  refine ⟨?_, by simpa using hnul, by omega⟩
  cases hwalk : t.walk Tree.linkLimit (Tree.startOf path (.inside t.home)) (path.splitOn '/') with
  | error e =>
      rw [hwalk] at h
      contradiction
  | ok next =>
      rw [hwalk] at h
      exact congrArg Except.ok (Except.ok.inj h)

theorem housed_startOf (t : Tree) (path : Text) : Housed t (Tree.startOf path (.inside t.home)) := by
  rw [Tree.startOf]
  split_ifs
  · exact housed_above_home List.nil_prefix
  · exact housed_above_home List.prefix_rfl

theorem proper_of_isFile (unlinked : Unlinked t) {way : List Text}
    (hway : path.splitOn '/' = way ++ [name]) (h : t.isFile path = .ok true) : Proper name := by
  obtain ⟨l, bytes, hlocate, hentry⟩ := exists_file_of_isFile h
  have hwalk := (walk_of_locate hlocate).1
  rw [hway] at hwalk
  obtain ⟨before, hbefore, hstep⟩ := exists_walk_of_append unlinked hwalk
  have hhoused := housed_walk unlinked (housed_startOf t path) hbefore
  rw [step_eq unlinked] at hstep
  split_ifs at hstep with hclosed hstay hup hlong hfree
  · rw [← Tree.Place.occupied.inj (Except.ok.inj hstep)] at hentry
    exact absurd (by simp [hentry]) hclosed
  · rw [← Tree.Place.occupied.inj (Except.ok.inj hstep)] at hentry
    rw [entry_parent_of_housed hhoused] at hentry
    simp at hentry
  · simp at hstep
  · exact ⟨(not_or.mp hstay).1, (not_or.mp hstay).2, hup⟩

theorem exists_leads_of_isFile (unlinked : Unlinked t) {way : List Text}
    (hway : path.splitOn '/' = way ++ [name]) (h : t.isFile path = .ok true) :
    ∃ home bytes, Leads t path home name ∧ unfit? path name = none ∧
      t.find? (home ++ [name]) = some (.file bytes) := by
  have hname := proper_of_isFile unlinked hway h
  obtain ⟨l, bytes, hlocate, hentry⟩ := exists_file_of_isFile h
  obtain ⟨hwalk, hnul, hshort⟩ := walk_of_locate hlocate
  rw [hway] at hwalk
  obtain ⟨before, hbefore, hstep⟩ := exists_walk_of_append unlinked hwalk
  obtain ⟨home, rfl, hhome, hlength, hplace⟩ := exists_home_of_step unlinked hname hstep
  split_ifs at hplace
  rw [Tree.Place.occupied.inj hplace] at hentry
  refine ⟨home, bytes, ⟨hhome, hname, way, hway, hbefore⟩, ?_, hentry⟩
  rw [unfit?, hnul, if_neg (by simp), if_neg (by omega)]

theorem getLast?_of_leadsTo? (unlinked : Unlinked t) {way names : List Text} (hname : Proper name)
    (hway : path.splitOn '/' = way ++ [name]) (h : leadsTo? t path = some names) :
    names.getLast? = some name := by
  have hlast : ∀ {place}, t.locate path = .ok place →
      ∃ home, place = .vacant (home ++ [name]) ∨ place = .occupied (.inside (home ++ [name])) := by
    intro place hlocate
    have hwalk := (walk_of_locate hlocate).1
    rw [hway] at hwalk
    obtain ⟨before, -, hstep⟩ := exists_walk_of_append unlinked hwalk
    obtain ⟨home, -, -, -, rfl⟩ := exists_home_of_step unlinked hname hstep
    refine ⟨home, ?_⟩
    split_ifs
    · exact Or.inl rfl
    · exact Or.inr rfl
  rw [leadsTo?] at h
  cases hlocate : t.locate path with
  | error e => simp [hlocate] at h
  | ok place =>
      obtain ⟨home, rfl | rfl⟩ := hlast hlocate
      · rw [hlocate] at h
        simp [← Option.some.inj h]
      · rw [hlocate] at h
        simp [← Option.some.inj h]

end Access

end MappingMarkers.Proofs.TreeCopies
