import Mathlib.Tactic.SplitIfs
import MappingMarkers.Proofs.FileNames

namespace MappingMarkers.Proofs.TreeWalk

open Text Files Tree FileNames

/-- Nothing in the tree is a link. -/
def Unlinked (t : Tree) : Prop := ∀ names target, t.find? names ≠ some (.link target)

@[simp] theorem entry_inside (t : Tree) (names : List Text) :
    t.entry? (.inside names) = t.find? names :=
  rfl

@[simp] theorem find?_nil (t : Tree) : t.find? [] = some .directory :=
  if_pos List.nil_prefix

theorem find?_above_home {t : Tree} {names : List Text} (h : names <+: t.home) :
    t.find? names = some .directory :=
  if_pos h

theorem find?_apart_home {t : Tree} {names : List Text} (h : ¬ names <+: t.home) :
    t.find? names = t.entries.lookup names :=
  if_neg h

/-- Where one name leads. -/
def step (t : Tree) (here : Location) (name : Text) : Except SystemCode Place :=
  t.walk 0 here [name]

theorem walk_cons {t : Tree} (unlinked : Unlinked t) (links : Nat) (here : Location) (name : Text)
    (rest : List Text) :
    t.walk links here (name :: rest) =
      match step t here name with
      | .error e => .error e
      | .ok (.vacant names) => if rest = [] then .ok (.vacant names) else .error .noEntry
      | .ok (.occupied there) => t.walk links there rest := by
  rw [step, walk.eq_def t links here (name :: rest), walk.eq_def t 0 here [name]]
  by_cases hclosed : t.entry? here ≠ some .directory
  · simp only [if_pos hclosed]
  by_cases hstay : name = [] ∨ name = ['.']
  · simp only [if_neg hclosed, if_pos hstay, walk.eq_1]
  by_cases hup : name = ['.', '.']
  · simp only [if_neg hclosed, if_neg hstay, if_pos hup, walk.eq_1]
  by_cases hlong : nameLimit < (Utf8.encode name).length
  · simp only [if_neg hclosed, if_neg hstay, if_neg hup, if_pos hlong]
  simp only [if_neg hclosed, if_neg hstay, if_neg hup, if_neg hlong]
  cases hfound : t.find? (here.names ++ [name]) with
  | none => simp
  | some entry =>
      cases entry with
      | link target => exact absurd hfound (unlinked _ _)
      | file bytes => simp only [walk.eq_1]
      | directory => simp only [walk.eq_1]

theorem walk_append {t : Tree} (unlinked : Unlinked t) {links : Nat} {here there : Location}
    {front : List Text} (back : List Text) (h : t.walk links here front = .ok (.occupied there)) :
    t.walk links here (front ++ back) = t.walk links there back := by
  induction front generalizing here with
  | nil =>
      rw [walk, Except.ok.injEq, Place.occupied.injEq] at h
      rw [h, List.nil_append]
  | cons name rest ih =>
      rw [walk_cons unlinked] at h
      rw [List.cons_append, walk_cons unlinked]
      cases hstep : step t here name with
      | error e => simp [hstep] at h
      | ok place =>
          cases place with
          | occupied next =>
              rw [hstep] at h
              exact ih h
          | vacant names =>
              rw [hstep] at h
              simp only at h
              split_ifs at h
              simp at h

theorem exists_walk_of_append {t : Tree} (unlinked : Unlinked t) {links : Nat}
    {here : Location} {place : Place} {front : List Text} {name : Text}
    (h : t.walk links here (front ++ [name]) = .ok place) :
    ∃ before, t.walk links here front = .ok (.occupied before) ∧
      step t before name = .ok place := by
  induction front generalizing here with
  | nil =>
      refine ⟨here, walk.eq_1 t links here, ?_⟩
      rw [List.nil_append, walk_cons unlinked] at h
      cases hstep : step t here name with
      | error e => simp [hstep] at h
      | ok next =>
          cases next with
          | occupied there => simpa [hstep, walk] using h
          | vacant names => simpa [hstep] using h
  | cons first rest ih =>
      rw [List.cons_append, walk_cons unlinked] at h
      rw [walk_cons unlinked]
      cases hstep : step t here first with
      | error e => simp [hstep] at h
      | ok next =>
          cases next with
          | occupied there =>
              rw [hstep] at h
              exact ih h
          | vacant names => simp [hstep] at h

theorem step_eq {t : Tree} (unlinked : Unlinked t) (here : Location) (name : Text) :
    step t here name =
      if t.entry? here ≠ some .directory then .error .notDirectory
      else if name = [] ∨ name = ['.'] then .ok (.occupied here)
      else if name = ['.', '.'] then .ok (.occupied here.parent)
      else if nameLimit < (Utf8.encode name).length then .error .nameTooLong
      else if t.find? (here.names ++ [name]) = none then .ok (.vacant (here.names ++ [name]))
      else .ok (.occupied (.inside (here.names ++ [name]))) := by
  rw [step, walk.eq_def]
  simp only [walk.eq_1]
  cases hfound : t.find? (here.names ++ [name]) with
  | none => simp
  | some entry =>
      cases entry with
      | link target => exact absurd hfound (unlinked _ _)
      | file bytes => simp
      | directory => simp

theorem step_proper {t : Tree} (unlinked : Unlinked t) {home : List Text} {name : Text}
    (hhome : t.find? home = some .directory) (hname : Proper name) :
    step t (.inside home) name =
      if nameLimit < (Utf8.encode name).length then .error .nameTooLong
      else if t.find? (home ++ [name]) = none then .ok (.vacant (home ++ [name]))
      else .ok (.occupied (.inside (home ++ [name]))) := by
  rw [step_eq unlinked, if_neg (by simp [hhome]), if_neg (by simp [hname.1, hname.2.1]),
    if_neg hname.2.2]

theorem exists_home_of_step {t : Tree} (unlinked : Unlinked t) {before : Location} {place : Place}
    {name : Text} (hname : Proper name) (h : step t before name = .ok place) :
    ∃ home, before = .inside home ∧ t.find? home = some .directory ∧
      (Utf8.encode name).length ≤ nameLimit ∧
      place = if t.find? (home ++ [name]) = none then .vacant (home ++ [name])
        else .occupied (.inside (home ++ [name])) := by
  rw [step_eq unlinked, if_neg (not_or.mpr ⟨hname.1, hname.2.1⟩), if_neg hname.2.2] at h
  split_ifs at h with hclosed hlong hfree
  · exact ⟨before.names, rfl, Classical.not_not.mp hclosed, by omega,
      by rw [if_pos hfree, Except.ok.inj h]⟩
  · exact ⟨before.names, rfl, Classical.not_not.mp hclosed, by omega,
      by rw [if_neg hfree, Except.ok.inj h]⟩

/-- All that is above a place is a directory. -/
def Housed (t : Tree) (here : Location) : Prop :=
  ∀ above, above <+: here.names → above ≠ here.names → t.find? above = some .directory

theorem housed_above_home {t : Tree} {here : Location} (h : here.names <+: t.home) :
    Housed t here :=
  fun _ habove _ => find?_above_home (habove.trans h)

theorem housed_parent {t : Tree} {here : Location} (h : Housed t here) :
    Housed t here.parent := by
  intro above habove hne
  apply h above (habove.trans (List.dropLast_prefix here.names))
  rintro rfl
  exact hne (habove.eq_of_length_le (by simp [Location.parent]))

theorem entry_parent_of_housed {t : Tree} {here : Location} (h : Housed t here) :
    t.entry? here.parent = some .directory := by
  by_cases hroot : here.names = []
  · simp [Location.parent, entry?, hroot]
  · apply h _ (List.dropLast_prefix here.names)
    intro hsame
    have hlength := congrArg List.length hsame
    rw [← List.length_eq_zero_iff] at hroot
    rw [List.length_dropLast] at hlength
    omega

theorem housed_step {t : Tree} (unlinked : Unlinked t) {here there : Location} {name : Text}
    (hhere : Housed t here) (h : step t here name = .ok (.occupied there)) : Housed t there := by
  rw [step_eq unlinked] at h
  split_ifs at h with hclosed hstay hup hlong hfree
  · rwa [← Place.occupied.inj (Except.ok.inj h)]
  · rw [← Place.occupied.inj (Except.ok.inj h)]
    exact housed_parent hhere
  · simp at h
  · rw [← Place.occupied.inj (Except.ok.inj h)]
    intro above habove hne
    rcases List.prefix_concat_iff.mp habove with hsame | habove
    · exact absurd hsame hne
    · by_cases hsame : above = here.names
      · rw [hsame]
        exact Classical.not_not.mp hclosed
      · exact hhere above habove hsame

theorem housed_walk {t : Tree} (unlinked : Unlinked t) {links : Nat} {here there : Location}
    {names : List Text} (hhere : Housed t here)
    (h : t.walk links here names = .ok (.occupied there)) : Housed t there := by
  induction names generalizing here with
  | nil =>
      rw [walk, Except.ok.injEq, Place.occupied.injEq] at h
      rwa [← h]
  | cons name rest ih =>
      rw [walk_cons unlinked] at h
      cases hstep : step t here name with
      | error e => simp [hstep] at h
      | ok next =>
          rw [hstep] at h
          cases next with
          | occupied place => exact ih (housed_step unlinked hhere hstep) h
          | vacant free =>
              simp only at h
              split_ifs at h
              simp at h

theorem walk_blank {t : Tree} (unlinked : Unlinked t) {links : Nat} {here : Location}
    {names : List Text} (hhere : t.entry? here = some .directory)
    (hnames : ∀ name ∈ names, name = [] ∨ name = ['.']) :
    t.walk links here names = .ok (.occupied here) := by
  induction names with
  | nil => exact walk.eq_1 t links here
  | cons name rest ih =>
      have hstep : step t here name = .ok (.occupied here) := by
        rw [step_eq unlinked, if_neg (not_not_intro hhere),
          if_pos (hnames name List.mem_cons_self)]
      rw [walk_cons unlinked, hstep]
      exact ih fun n hn => hnames n (List.mem_cons_of_mem _ hn)

/-- A tree that has the same directories, and something wherever there was something. -/
structure Grown (t t' : Tree) : Prop where
  home : t'.home = t.home
  unlinked : Unlinked t'
  directory : ∀ names, t'.find? names = some .directory ↔ t.find? names = some .directory
  found : ∀ names, t.find? names ≠ none → t'.find? names ≠ none

theorem step_grown {t t' : Tree} (unlinked : Unlinked t) (grown : Grown t t')
    {here there : Location} {name : Text} (h : step t here name = .ok (.occupied there)) :
    step t' here name = .ok (.occupied there) := by
  have hdirectory : t'.entry? here = some .directory ↔ t.entry? here = some .directory :=
    grown.directory here.names
  simp only [step_eq unlinked, ne_eq] at h
  simp only [step_eq grown.unlinked, ne_eq, hdirectory]
  by_cases hfree : t.find? (here.names ++ [name]) = none
  · rw [if_pos hfree] at h
    split_ifs at h ⊢
    · exact h
    · exact h
    · simp at h
    · simp at h
  · rw [if_neg hfree] at h
    rwa [if_neg (grown.found _ hfree)]

theorem walk_grown {t t' : Tree} (unlinked : Unlinked t) (grown : Grown t t') {links : Nat}
    {here there : Location} {names : List Text}
    (h : t.walk links here names = .ok (.occupied there)) :
    t'.walk links here names = .ok (.occupied there) := by
  induction names generalizing here with
  | nil => rwa [walk.eq_1] at h ⊢
  | cons name rest ih =>
      rw [walk_cons unlinked] at h
      cases hstep : step t here name with
      | error e => simp [hstep] at h
      | ok place =>
          rw [hstep] at h
          cases place with
          | occupied next =>
              rw [walk_cons grown.unlinked, step_grown unlinked grown hstep]
              exact ih h
          | vacant free =>
              simp only at h
              split_ifs at h
              simp at h

end MappingMarkers.Proofs.TreeWalk
