import MappingMarkers.Proofs.SourceListing

namespace MappingMarkers.Proofs.LinkedWalk

open Text Files Tree FileNames TreeWalk TreeCopies SourceListing

section Ways

variable {t : Tree}

/-- The ways from a location along names, with the links that may be followed before and after. -/
inductive Way (t : Tree) : Nat → Location → List Text → Nat → Place → Prop where
  | arrived {links : Nat} {here : Location} : Way t links here [] links (.occupied here)
  | stay {links left : Nat} {here : Location} {name : Text} {rest : List Text} {place : Place} :
      t.entry? here = some .directory → name = [] ∨ name = ['.'] →
      Way t links here rest left place → Way t links here (name :: rest) left place
  | up {links left : Nat} {here : Location} {rest : List Text} {place : Place} :
      t.entry? here = some .directory →
      Way t links here.parent rest left place → Way t links here (['.', '.'] :: rest) left place
  | free {links : Nat} {home : List Text} {name : Text} :
      t.find? home = some .directory → Proper name → (Utf8.encode name).length ≤ nameLimit →
      t.find? (home ++ [name]) = none →
      Way t links (.inside home) [name] links (.vacant (home ++ [name]))
  | follow {links left : Nat} {home : List Text} {name target : Text} {rest : List Text}
      {place : Place} :
      t.find? home = some .directory → Proper name → (Utf8.encode name).length ≤ nameLimit →
      t.find? (home ++ [name]) = some (.link target) →
      Way t links (startOf target (.inside home)) (target.splitOn '/' ++ rest) left place →
      Way t (links + 1) (.inside home) (name :: rest) left place
  | enter {links left : Nat} {home : List Text} {name : Text} {rest : List Text} {place : Place}
      {entry : Entry} :
      t.find? home = some .directory → Proper name → (Utf8.encode name).length ≤ nameLimit →
      t.find? (home ++ [name]) = some entry → (∀ target, entry ≠ .link target) →
      Way t links (.inside (home ++ [name])) rest left place →
      Way t links (.inside home) (name :: rest) left place

theorem walk_stay {links : Nat} {here : Location} {name : Text} {rest : List Text}
    (hopen : t.entry? here = some .directory) (hname : name = [] ∨ name = ['.']) :
    t.walk links here (name :: rest) = t.walk links here rest := by
  rw [walk.eq_def]
  dsimp only
  rw [if_neg (not_not_intro hopen), if_pos hname]

theorem walk_up {links : Nat} {here : Location} {rest : List Text}
    (hopen : t.entry? here = some .directory) :
    t.walk links here (['.', '.'] :: rest) = t.walk links here.parent rest := by
  rw [walk.eq_def]
  dsimp only
  rw [if_neg (not_not_intro hopen), if_neg (by decide), if_pos rfl]

/-- How a walk goes on with what a directory has under a name. -/
def goOn (t : Tree) (links : Nat) (home : List Text) (name : Text) (rest : List Text) :
    Option Entry → Except SystemCode Place
  | none => if rest.isEmpty then .ok (.vacant (home ++ [name])) else .error .noEntry
  | some (.link target) =>
      match links with
      | 0 => .error .linkLoop
      | links + 1 => t.walk links (startOf target (.inside home)) (target.splitOn '/' ++ rest)
  | some (.file _) | some .directory => t.walk links (.inside (home ++ [name])) rest

theorem walk_child {links : Nat} {home : List Text} {name : Text} (rest : List Text)
    (hhome : t.find? home = some .directory) (hname : Proper name)
    (hshort : (Utf8.encode name).length ≤ nameLimit) :
    t.walk links (.inside home) (name :: rest) =
      goOn t links home name rest (t.find? (home ++ [name])) := by
  have hopen : t.entry? (.inside home) = some .directory := hhome
  rw [walk.eq_def]
  dsimp only
  rw [if_neg (not_not_intro hopen), if_neg (not_or.mpr ⟨hname.1, hname.2.1⟩), if_neg hname.2.2,
    if_neg (Nat.not_lt.mpr hshort)]
  cases t.find? (home ++ [name]) with
  | none => rfl
  | some entry =>
      cases entry with
      | file bytes => rfl
      | directory => rfl
      | link target =>
          cases links with
          | zero => rfl
          | succ links => rfl

theorem goOn_entry {links : Nat} {home : List Text} {name : Text} {rest : List Text}
    {entry : Entry} (hentry : ∀ target, entry ≠ .link target) :
    goOn t links home name rest (some entry) = t.walk links (.inside (home ++ [name])) rest := by
  cases entry with
  | file bytes => rfl
  | directory => rfl
  | link target => exact absurd rfl (hentry target)

theorem goOn_link {links : Nat} {home : List Text} {name target : Text} {rest : List Text} :
    goOn t (links + 1) home name rest (some (.link target)) =
      t.walk links (startOf target (.inside home)) (target.splitOn '/' ++ rest) :=
  rfl

theorem exists_way_of_walk {links : Nat} {here : Location} {names : List Text} {place : Place}
    (h : t.walk links here names = .ok place) : ∃ left, Way t links here names left place := by
  fun_induction Tree.walk t links here names with
  | case1 links here =>
      obtain rfl := Except.ok.inj h
      exact ⟨links, .arrived⟩
  | case2 | case5 | case7 | case8 => contradiction
  | case3 links here name rest hopen hname ih =>
      obtain ⟨left, hway⟩ := ih h
      exact ⟨left, .stay (Classical.not_not.mp hopen) hname hway⟩
  | case4 links here rest hopen hname ih =>
      obtain ⟨left, hway⟩ := ih h
      exact ⟨left, .up (Classical.not_not.mp hopen) hway⟩
  | case6 links here name rest hopen hstay hup hshort hfree hlast =>
      obtain rfl := Except.ok.inj h
      obtain rfl := List.isEmpty_iff.mp hlast
      exact ⟨links, .free (Classical.not_not.mp hopen)
        ⟨(not_or.mp hstay).1, (not_or.mp hstay).2, hup⟩ (Nat.not_lt.mp hshort) hfree⟩
  | case9 here name rest hopen hstay hup hshort target hlink links ih =>
      obtain ⟨left, hway⟩ := ih h
      exact ⟨left, .follow (Classical.not_not.mp hopen)
        ⟨(not_or.mp hstay).1, (not_or.mp hstay).2, hup⟩ (Nat.not_lt.mp hshort) hlink hway⟩
  | case10 links here name rest hopen hstay hup hshort entry hentry hfound ih =>
      obtain ⟨left, hway⟩ := ih h
      exact ⟨left, .enter (Classical.not_not.mp hopen)
        ⟨(not_or.mp hstay).1, (not_or.mp hstay).2, hup⟩ (Nat.not_lt.mp hshort) hfound hentry hway⟩

theorem walk_enter {links : Nat} {home : List Text} {name : Text} {entry : Entry}
    (rest : List Text) (hhome : t.find? home = some .directory) (hname : Proper name)
    (hshort : (Utf8.encode name).length ≤ nameLimit)
    (hfound : t.find? (home ++ [name]) = some entry)
    (hentry : ∀ target, entry ≠ .link target) :
    t.walk links (.inside home) (name :: rest) = t.walk links (.inside (home ++ [name])) rest := by
  rw [walk_child rest hhome hname hshort, hfound, goOn_entry hentry]

theorem Way.walk_append {links left : Nat} {here there : Location} {front : List Text}
    (way : Way t links here front left (.occupied there)) (back : List Text) :
    t.walk links here (front ++ back) = t.walk left there back := by
  generalize hplace : Place.occupied there = place at way
  induction way with
  | arrived =>
      obtain rfl := Place.occupied.inj hplace
      rw [List.nil_append]
  | stay hopen hname way ih => rw [List.cons_append, walk_stay hopen hname, ih hplace]
  | up hopen way ih => rw [List.cons_append, walk_up hopen, ih hplace]
  | free => contradiction
  | follow hhome hname hshort hlink way ih =>
      rw [List.cons_append, walk_child _ hhome hname hshort, hlink, goOn_link, ← ih hplace,
        List.append_assoc]
  | enter hhome hname hshort hfound hentry way ih =>
      rw [List.cons_append, walk_enter _ hhome hname hshort hfound hentry, ih hplace]

theorem Way.walk_eq {links left : Nat} {here : Location} {names : List Text} {place : Place}
    (way : Way t links here names left place) : t.walk links here names = .ok place := by
  induction way with
  | arrived => exact walk.eq_1 t _ _
  | stay hopen hname way ih => rw [walk_stay hopen hname, ih]
  | up hopen way ih => rw [walk_up hopen, ih]
  | free hhome hname hshort hfree =>
      rw [walk_child _ hhome hname hshort, hfree]
      rfl
  | follow hhome hname hshort hlink way ih =>
      rw [walk_child _ hhome hname hshort, hlink, goOn_link, ih]
  | enter hhome hname hshort hfound hentry way ih =>
      rw [walk_enter _ hhome hname hshort hfound hentry, ih]

theorem walk_eq_ok_iff {links : Nat} {here : Location} {names : List Text} {place : Place} :
    t.walk links here names = .ok place ↔ ∃ left, Way t links here names left place :=
  ⟨exists_way_of_walk, fun ⟨_, way⟩ => way.walk_eq⟩

end Ways

section Standing

variable {t : Tree}

theorem housed_child {home : List Text} {name : Text} (hhome : t.find? home = some .directory)
    (housed : Housed t (.inside home)) : Housed t (.inside (home ++ [name])) := by
  intro above habove hne
  rcases List.prefix_concat_iff.mp habove with hsame | habove
  · exact absurd hsame hne
  · by_cases hsame : above = home
    · rw [hsame, hhome]
    · exact housed above habove hsame

/-- A location below directories only, at which there is no link. -/
structure Solid (t : Tree) (here : Location) : Prop where
  housed : Housed t here
  entry : ∀ target, t.entry? here ≠ some (.link target)

theorem solid_of_directory {here : Location} (housed : Housed t here)
    (hopen : t.entry? here = some .directory) : Solid t here :=
  ⟨housed, fun target => by simp [hopen]⟩

theorem solid_parent {here : Location} (solid : Solid t here) : Solid t here.parent :=
  solid_of_directory (housed_parent solid.housed) (entry_parent_of_housed solid.housed)

theorem solid_start (t : Tree) (path : Text) : Solid t (startOf path (.inside t.home)) := by
  refine solid_of_directory (housed_startOf t path) ?_
  rw [startOf]
  split_ifs
  · exact find?_nil t
  · exact find?_above_home List.prefix_rfl

theorem Way.solid {links left : Nat} {here : Location} {names : List Text} {place : Place}
    (way : Way t links here names left place) (solid : Solid t here) {there : Location}
    (hplace : place = .occupied there) : Solid t there := by
  induction way with
  | arrived => rwa [← Place.occupied.inj hplace]
  | stay hopen hname way ih => exact ih solid hplace
  | up hopen way ih => exact ih (solid_parent solid) hplace
  | free => contradiction
  | @follow links left home name target rest place hhome hname hshort hlink way ih =>
      refine ih ?_ hplace
      rw [startOf]
      split_ifs
      · exact solid_of_directory (housed_above_home List.nil_prefix) (find?_nil t)
      · exact solid
  | enter hhome hname hshort hfound hentry way ih =>
      refine ih ⟨housed_child hhome solid.housed, fun target => ?_⟩ hplace
      simp [hfound, hentry]

end Standing

section Writing

variable {t : Tree}

/-- A file that is put where a way ends is at the end of that way. -/
theorem Way.set {links left : Nat} {here : Location} {names target : List Text} {place : Place}
    (way : Way t links here names left place) (bytes : List UInt8)
    (hdirectory : t.find? target ≠ some .directory)
    (hlink : ∀ text, t.find? target ≠ some (.link text))
    (hplace : place = .vacant target ∨ place = .occupied (.inside target)) :
    Way (t.set target (.file bytes)) links here names left (.occupied (.inside target)) := by
  have hopen : ∀ here, t.entry? here = some .directory →
      Tree.entry? (t.set target (.file bytes)) here = some .directory := by
    intro here h
    rw [Tree.entry?, find?_set t hdirectory, if_neg]
    · exact h
    · rintro rfl
      exact hdirectory h
  have hwritten : (t.set target (.file bytes)).find? target = some (.file bytes) := by
    rw [find?_set t hdirectory, if_pos rfl]
  induction way with
  | arrived =>
      rcases hplace with hplace | hplace
      · contradiction
      · obtain rfl := Place.occupied.inj hplace
        exact .arrived
  | stay hhere hname way ih => exact .stay (hopen _ hhere) hname (ih hplace)
  | up hhere way ih => exact .up (hopen _ hhere) (ih hplace)
  | @free links home name hhome hname hshort hfree =>
      rcases hplace with hplace | hplace
      · obtain rfl := Place.vacant.inj hplace
        exact .enter (hopen (.inside home) hhome) hname hshort hwritten (by simp) .arrived
      · contradiction
  | @follow links left home name text rest place hhome hname hshort hfound way ih =>
      refine .follow (hopen (.inside home) hhome) hname hshort ?_ (ih hplace)
      rw [find?_set t hdirectory, if_neg, hfound]
      rintro rfl
      exact hlink _ hfound
  | @enter links left home name rest place entry hhome hname hshort hfound hentry way ih =>
      have hhome' := hopen (.inside home) hhome
      by_cases hsame : home ++ [name] = target
      · have hchild : (t.set target (.file bytes)).find? (home ++ [name]) = some (.file bytes) := by
          rw [hsame, hwritten]
        exact .enter hhome' hname hshort hchild (by simp) (ih hplace)
      · refine .enter hhome' hname hshort ?_ hentry (ih hplace)
        rw [find?_set t hdirectory, if_neg hsame, hfound]

theorem Way.find?_of_vacant {links left : Nat} {here : Location} {names target : List Text}
    {place : Place} (way : Way t links here names left place) (hplace : place = .vacant target) :
    t.find? target = none := by
  induction way with
  | arrived => contradiction
  | stay hopen hname way ih => exact ih hplace
  | up hopen way ih => exact ih hplace
  | free hhome hname hshort hfree => rwa [← Place.vacant.inj hplace]
  | follow hhome hname hshort hlink way ih => exact ih hplace
  | enter hhome hname hshort hfound hentry way ih => exact ih hplace

theorem locate_of_locate_ok {path : Text} {place : Place} (h : t.locate path = .ok place)
    {t' : Tree} (hhome : t'.home = t.home) :
    t'.locate path =
      (t'.walk linkLimit (startOf path (.inside t.home)) (path.splitOn '/')).mapError
        (.system · path) := by
  rw [Tree.locate] at h ⊢
  rw [hhome]
  split_ifs at h ⊢
  rfl

theorem exists_target_of_write {t' : Tree} {path : Text} {bytes : List UInt8}
    (h : t.write path bytes = .ok t') :
    ∃ target place, t.locate path = .ok place ∧
      (place = .vacant target ∨ place = .occupied (.inside target)) ∧
      t.find? target ≠ some .directory ∧ t' = t.set target (.file bytes) := by
  obtain ⟨place, hlocate, h⟩ := bind_eq_ok_iff.mp h
  cases place with
  | vacant target =>
      obtain ⟨left, way⟩ := walk_eq_ok_iff.mp (walk_of_locate hlocate).1
      refine ⟨target, _, hlocate, .inl rfl, ?_, (Except.ok.inj h).symm⟩
      rw [way.find?_of_vacant rfl]
      simp
  | occupied l =>
      dsimp only at h
      split_ifs at h with hdirectory
      exact ⟨l.names, _, hlocate, .inr rfl, hdirectory, (Except.ok.inj h).symm⟩

theorem read_of_write {t' : Tree} {path : Text} {bytes : List UInt8}
    (h : t.write path bytes = .ok t') : t'.read path = .ok bytes := by
  obtain ⟨target, place, hlocate, hplace, hdirectory, rfl⟩ := exists_target_of_write h
  obtain ⟨left, way⟩ := walk_eq_ok_iff.mp (walk_of_locate hlocate).1
  have hlink : ∀ text, t.find? target ≠ some (.link text) := by
    rcases hplace with hvacant | hoccupied
    · simp [way.find?_of_vacant hvacant]
    · exact (way.solid (solid_start t path) hoccupied).entry
  have hthere := (way.set bytes hdirectory hlink hplace).walk_eq
  have hlocate' := locate_of_locate_ok hlocate (home_set t target (.file bytes))
  rw [hthere] at hlocate'
  have hfound : (t.set target (.file bytes)).find? target = some (.file bytes) := by
    rw [find?_set t hdirectory, if_pos rfl]
  rw [Tree.read, Tree.entryAt, hlocate']
  simp [Except.mapError, bind, Except.bind, pure, Except.pure, hfound]

end Writing

section Shapes

/-- Trees that differ in the bytes of files only. -/
structure SameShape (t t' : Tree) : Prop where
  home : t'.home = t.home
  found : ∀ names, t'.find? names = t.find? names ∨
    ∃ bytes bytes', t.find? names = some (.file bytes) ∧ t'.find? names = some (.file bytes')

variable {t t' : Tree}

theorem SameShape.find?_eq_iff (same : SameShape t t') {names : List Text} {found : Option Entry}
    (hfound : ∀ bytes, found ≠ some (.file bytes)) :
    t'.find? names = found ↔ t.find? names = found := by
  rcases same.found names with hsame | ⟨bytes, bytes', hfile, hfile'⟩
  · rw [hsame]
  · rw [hfile, hfile']
    exact iff_of_false (hfound bytes').symm (hfound bytes).symm

theorem SameShape.open_iff (same : SameShape t t') (here : Location) :
    t'.entry? here = some .directory ↔ t.entry? here = some .directory := by
  exact same.find?_eq_iff (by simp)

theorem SameShape.walk_child (same : SameShape t t') {links : Nat} {here : Location} {name : Text}
    {rest : List Text} (hopen : ¬ t.entry? here ≠ some .directory)
    (hstay : ¬ (name = [] ∨ name = ['.'])) (hup : ¬ name = ['.', '.'])
    (hshort : ¬ nameLimit < (Utf8.encode name).length) :
    t'.walk links here (name :: rest) =
      goOn t' links here.names name rest (t'.find? (here.names ++ [name])) :=
  LinkedWalk.walk_child rest ((same.open_iff _).mpr (Classical.not_not.mp hopen))
    ⟨(not_or.mp hstay).1, (not_or.mp hstay).2, hup⟩ (Nat.not_lt.mp hshort)

/-- The same paths lead to the same places, or fail in the same way. -/
theorem SameShape.walk_eq (same : SameShape t t') (links : Nat) (here : Location)
    (names : List Text) : t'.walk links here names = t.walk links here names := by
  fun_induction Tree.walk t links here names with
  | case1 links here => exact walk.eq_1 t' links here
  | case2 links here name rest hclosed =>
      rw [walk.eq_def]
      dsimp only
      rw [if_pos (by rwa [ne_eq, same.open_iff])]
  | case3 links here name rest hopen hname ih =>
      rw [walk_stay ((same.open_iff here).mpr (Classical.not_not.mp hopen)) hname, ih]
  | case4 links here rest hopen hname ih =>
      rw [walk_up ((same.open_iff here).mpr (Classical.not_not.mp hopen)), ih]
  | case5 links here name rest hopen hstay hup hlong =>
      rw [walk.eq_def]
      dsimp only
      rw [if_neg (by rwa [ne_eq, same.open_iff]), if_neg hstay, if_neg hup, if_pos hlong]
  | case6 links here name rest hopen hstay hup hshort hfree hlast =>
      rw [same.walk_child hopen hstay hup hshort, (same.find?_eq_iff (by simp)).mpr hfree]
      exact if_pos hlast
  | case7 links here name rest hopen hstay hup hshort hfree hlast =>
      rw [same.walk_child hopen hstay hup hshort, (same.find?_eq_iff (by simp)).mpr hfree]
      exact if_neg hlast
  | case8 here name rest hopen hstay hup hshort target hlink =>
      rw [same.walk_child hopen hstay hup hshort, (same.find?_eq_iff (by simp)).mpr hlink]
      rfl
  | case9 here name rest hopen hstay hup hshort target hlink links ih =>
      rw [same.walk_child hopen hstay hup hshort, (same.find?_eq_iff (by simp)).mpr hlink,
        goOn_link, ih]
  | case10 links here name rest hopen hstay hup hshort entry hentry hfound ih =>
      rw [same.walk_child hopen hstay hup hshort]
      rcases same.found (here.names ++ [name]) with hsame | ⟨bytes, bytes', hfile, hfile'⟩
      · rw [hsame, hfound, goOn_entry hentry, ih]
      · rw [hfile', goOn_entry (by simp), ih]

theorem SameShape.locate_eq (same : SameShape t t') (path : Text) :
    t'.locate path = t.locate path := by
  rw [Tree.locate, Tree.locate, same.walk_eq, same.home]

theorem SameShape.refusal?_eq (same : SameShape t t') (path : Text) :
    refusal? t' path = refusal? t path := by
  rw [refusal?, refusal?, same.locate_eq]
  cases t.locate path with
  | error e => rfl
  | ok place =>
      cases place with
      | vacant names => rfl
      | occupied l => simp only [same.open_iff l]

theorem entryAt_eq_ok_iff {path : Text} {l : Location} {entry : Entry} :
    t.entryAt path = .ok (l, entry) ↔
      t.locate path = .ok (.occupied l) ∧ t.entry? l = some entry := by
  constructor
  · intro h
    obtain ⟨place, hlocate, h⟩ := bind_eq_ok_iff.mp h
    cases place with
    | vacant names => contradiction
    | occupied l' =>
        dsimp only at h
        cases hentry : t.entry? l' with
        | none =>
            rw [hentry] at h
            contradiction
        | some entry' =>
            rw [hentry] at h
            obtain ⟨rfl, rfl⟩ := Prod.mk.inj (Except.ok.inj h)
            exact ⟨hlocate, hentry⟩
  · rintro ⟨hlocate, hentry⟩
    rw [Tree.entryAt, hlocate]
    simp only [bind, Except.bind, hentry]
    rfl

theorem exists_target_of_read {path : Text} {bytes : List UInt8} (h : t.read path = .ok bytes) :
    ∃ target, t.locate path = .ok (.occupied (.inside target)) ∧
      t.find? target = some (.file bytes) := by
  obtain ⟨⟨l, entry⟩, hentry, h⟩ := bind_eq_ok_iff.mp h
  obtain ⟨hlocate, hentry⟩ := entryAt_eq_ok_iff.mp hentry
  cases entry with
  | directory => contradiction
  | link target => contradiction
  | file bytes' =>
      obtain rfl := Except.ok.inj h
      exact ⟨l.names, hlocate, hentry⟩

theorem exists_write_of_read {path : Text} {bytes : List UInt8} (h : t.read path = .ok bytes)
    (other : List UInt8) : ∃ t', t.write path other = .ok t' ∧ SameShape t t' := by
  obtain ⟨target, hlocate, hfile⟩ := exists_target_of_read h
  have hdirectory : t.find? target ≠ some .directory := by simp [hfile]
  refine ⟨t.set target (.file other), ?_, home_set _ _ _, fun names => ?_⟩
  · rw [Tree.write, hlocate]
    simp [bind, Except.bind, pure, Except.pure, hfile]
  · rw [find?_set t hdirectory]
    split_ifs with hsame
    · exact .inr ⟨bytes, other, hsame ▸ hfile, rfl⟩
    · exact .inl rfl

end Shapes

end MappingMarkers.Proofs.LinkedWalk
