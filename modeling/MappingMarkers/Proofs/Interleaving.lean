import Mathlib.Data.List.DropRight
import MappingMarkers.Proofs.AttributeLine

/-!
A file as it was, and the markers that were put above its lines. The lines of the file keep their
order; each moves down by as many lines as there are markers above it.
-/

namespace MappingMarkers.Proofs.Interleaving

open Text SourceBuffer AttributeLine

/-- A marker, and the line above which it is put, by its number in the file as it was. -/
structure Placement where
  line : Nat
  marker : Text
  deriving DecidableEq

/-- The markers above a line, the first one on top. -/
def markersAt (placed : List Placement) (i : Nat) : List Text :=
  (placed.filter (·.line == i)).map (·.marker)

/-- The lines from number `first` on, with the markers above each of them, as far from the margin as
the line itself. -/
def interleaveFrom (placed : List Placement) (first : Nat) (lines : List Text) : List Text :=
  (lines.zipIdx first).flatMap fun (line, i) =>
    (markersAt placed i).map (indent line ++ ·) ++ [line]

/-- All lines of a file, with the markers above them. -/
def interleave (placed : List Placement) (lines : List Text) : List Text :=
  interleaveFrom placed 0 lines

/-- How many markers stand above the lines before line `i`. -/
def countBefore (placed : List Placement) (i : Nat) : Nat := placed.countP (·.line < i)

/-- Where a line stands among the lines and the markers. -/
def position (placed : List Placement) (i : Nat) : Nat := i + countBefore placed (i + 1)

theorem markersAt_concat (placed : List Placement) (i j : Nat) (marker : Text) :
    markersAt (placed ++ [⟨i, marker⟩]) j =
      markersAt placed j ++ if i = j then [marker] else [] := by
  by_cases h : i = j <;> simp [markersAt, h]

theorem mem_markersAt_iff {placed : List Placement} {i : Nat} {marker : Text} :
    marker ∈ markersAt placed i ↔ ⟨i, marker⟩ ∈ placed := by
  simp only [markersAt, List.mem_map, List.mem_filter, beq_iff_eq]
  constructor
  · rintro ⟨p, ⟨hp, rfl⟩, rfl⟩
    exact hp
  · intro h
    exact ⟨⟨i, marker⟩, ⟨h, rfl⟩, rfl⟩

theorem countBefore_succ (placed : List Placement) (i : Nat) :
    countBefore placed (i + 1) = countBefore placed i + (markersAt placed i).length := by
  induction placed with
  | nil => rfl
  | cons p ps ih =>
      simp only [countBefore, markersAt, List.countP_cons, List.filter_cons,
        List.length_map] at ih ⊢
      rcases Nat.lt_trichotomy p.line i with h | h | h
      · have hnext : p.line < i + 1 := by omega
        have hne : (p.line == i) = false := beq_false_of_ne (Nat.ne_of_lt h)
        simp only [h, hnext, hne, decide_true, if_true, Bool.false_eq_true, if_false]
        omega
      · have hnext : p.line < i + 1 := by omega
        have hnot : ¬ p.line < i := by omega
        have heq : (p.line == i) = true := beq_iff_eq.mpr h
        simp only [hnext, hnot, heq, decide_true, decide_false, if_true, Bool.false_eq_true,
          if_false, List.length_cons]
        omega
      · have hnext : ¬ p.line < i + 1 := by omega
        have hnot : ¬ p.line < i := by omega
        have hne : (p.line == i) = false := beq_false_of_ne (Nat.ne_of_gt h)
        simp only [hnext, hnot, hne, decide_false, Bool.false_eq_true, if_false]
        omega

theorem countBefore_mono (placed : List Placement) {i j : Nat} (h : i ≤ j) :
    countBefore placed i ≤ countBefore placed j := by
  apply List.countP_mono_left
  intro p _ hp
  simp only [decide_eq_true_eq] at hp ⊢
  omega

theorem position_le_iff (placed : List Placement) (i j : Nat) :
    position placed i ≤ position placed j ↔ i ≤ j := by
  constructor
  · intro h
    by_contra hlt
    have hmono := countBefore_mono placed (i := j + 1) (j := i + 1) (by omega)
    simp only [position] at h
    omega
  · intro h
    have hmono := countBefore_mono placed (i := i + 1) (j := j + 1) (by omega)
    simp only [position]
    omega

theorem position_concat (placed : List Placement) (i j : Nat) (marker : Text) :
    position (placed ++ [⟨i, marker⟩]) j =
      if position placed i ≤ position placed j then position placed j + 1
      else position placed j := by
  simp only [position_le_iff]
  simp only [position, countBefore, List.countP_append, List.countP_singleton]
  by_cases h : i ≤ j
  · have hbefore : i < j + 1 := by omega
    simp only [h, hbefore, decide_true, if_true]
    omega
  · have hnot : ¬ i < j + 1 := by omega
    simp only [h, hnot, decide_false, Bool.false_eq_true, if_false, Nat.add_zero]

@[simp] theorem interleaveFrom_nil (placed : List Placement) (n : Nat) :
    interleaveFrom placed n [] = [] := rfl

theorem interleaveFrom_cons (placed : List Placement) (n : Nat) (line : Text)
    (rest : List Text) :
    interleaveFrom placed n (line :: rest) =
      (markersAt placed n).map (indent line ++ ·) ++
        line :: interleaveFrom placed (n + 1) rest := by
  simp [interleaveFrom, List.zipIdx_cons]

@[simp] theorem interleave_nil (lines : List Text) : interleave [] lines = lines := by
  rw [interleave]
  generalize 0 = n
  induction lines generalizing n with
  | nil => rfl
  | cons line rest ih =>
      rw [interleaveFrom_cons, ih]
      rfl

@[simp] theorem position_nil (i : Nat) : position [] i = i := rfl

theorem interleaveFrom_append (placed : List Placement) (n : Nat) (front back : List Text) :
    interleaveFrom placed n (front ++ back) =
      interleaveFrom placed n front ++ interleaveFrom placed (n + front.length) back := by
  simp [interleaveFrom, List.zipIdx_append]

theorem length_interleaveFrom (placed : List Placement) (n : Nat) (lines : List Text) :
    (interleaveFrom placed n lines).length + countBefore placed n =
      lines.length + countBefore placed (n + lines.length) := by
  induction lines generalizing n with
  | nil => simp
  | cons line rest ih =>
      have hrest := ih (n + 1)
      have hsucc := countBefore_succ placed n
      have hcount : n + 1 + rest.length = n + (rest.length + 1) := by omega
      rw [hcount] at hrest
      simp only [interleaveFrom_cons, List.length_append, List.length_map, List.length_cons]
      omega

theorem interleaveFrom_congr {placed placed' : List Placement} {n : Nat} {lines : List Text}
    (h : ∀ i, n ≤ i → i < n + lines.length → markersAt placed i = markersAt placed' i) :
    interleaveFrom placed n lines = interleaveFrom placed' n lines := by
  induction lines generalizing n with
  | nil => rfl
  | cons line rest ih =>
      have hfirst := h n (Nat.le_refl n) (by simp)
      have hrest := ih (n := n + 1) fun i hi hlt => h i (by omega) (by simp; omega)
      rw [interleaveFrom_cons, interleaveFrom_cons, hfirst, hrest]

theorem mem_interleave {placed : List Placement} {lines : List Text} {text : Text}
    (h : text ∈ interleave placed lines) :
    text ∈ lines ∨ ∃ line ∈ lines, ∃ p ∈ placed, indent line ++ p.marker = text := by
  obtain ⟨⟨line, i⟩, hline, htext⟩ := List.mem_flatMap.mp h
  have hmem := List.fst_mem_of_mem_zipIdx hline
  rcases List.mem_append.mp htext with htext | htext
  · obtain ⟨marker, hmarker, rfl⟩ := List.mem_map.mp htext
    exact Or.inr ⟨line, hmem, _, mem_markersAt_iff.mp hmarker, rfl⟩
  · obtain rfl := List.mem_singleton.mp htext
    exact Or.inl hmem

theorem findSome?_interleave {α : Type} {f : Text → Option α} {placed : List Placement}
    (h : ∀ p ∈ placed, ∀ line, f (indent line ++ p.marker) = none) (lines : List Text) :
    (interleave placed lines).findSome? f = lines.findSome? f := by
  rw [interleave]
  generalize 0 = n
  induction lines generalizing n with
  | nil => rfl
  | cons line rest ih =>
      have hmarkers : ((markersAt placed n).map (indent line ++ ·)).findSome? f = none := by
        rw [List.findSome?_eq_none_iff, List.forall_mem_map]
        intro marker hmarker
        exact h _ (mem_markersAt_iff.mp hmarker) line
      rw [interleaveFrom_cons, List.findSome?_append, hmarkers, Option.none_or,
        List.findSome?_cons, List.findSome?_cons, ih]

theorem interleave_ne_nil {placed : List Placement} {lines : List Text} (h : lines ≠ []) :
    interleave placed lines ≠ [] := by
  obtain ⟨line, rest, rfl⟩ := List.exists_cons_of_ne_nil h
  rw [interleave, interleaveFrom_cons]
  exact List.append_ne_nil_of_right_ne_nil _ (List.cons_ne_nil _ _)

theorem insertIdx_length_append {α : Type} (front back : List α) (a : α) :
    (front ++ back).insertIdx front.length a = front ++ a :: back := by
  induction front with
  | nil => simp
  | cons b rest ih => simp [ih]

section Line

variable (placed : List Placement) {lines : List Text} {i : Nat} {line : Text}

theorem split_at (h : lines[i]? = some line) :
    lines = lines.take i ++ line :: lines.drop (i + 1) ∧ (lines.take i).length = i := by
  obtain ⟨hi, hline⟩ := List.getElem?_eq_some_iff.mp h
  constructor
  · rw [← hline, ← List.drop_eq_getElem_cons hi, List.take_append_drop]
  · exact List.length_take_of_le (Nat.le_of_lt hi)

theorem interleave_eq_append (h : lines[i]? = some line) :
    interleave placed lines =
      interleave placed (lines.take i) ++ (markersAt placed i).map (indent line ++ ·) ++
        line :: interleaveFrom placed (i + 1) (lines.drop (i + 1)) := by
  obtain ⟨hsplit, hlength⟩ := split_at h
  calc
    interleave placed lines =
        interleaveFrom placed 0 (lines.take i ++ line :: lines.drop (i + 1)) := by
      rw [← hsplit]
      rfl
    _ = _ := by
      rw [interleaveFrom_append, hlength, interleaveFrom_cons, Nat.zero_add, List.append_assoc]
      rfl

theorem position_eq_length (h : lines[i]? = some line) :
    position placed i =
      (interleave placed (lines.take i) ++
        (markersAt placed i).map (indent line ++ ·)).length := by
  have hlength := length_interleaveFrom placed 0 (lines.take i)
  have hzero : countBefore placed 0 = 0 := by simp [countBefore]
  rw [(split_at h).2, hzero] at hlength
  simp only [interleave, position, countBefore_succ, List.length_append, List.length_map]
  rw [Nat.zero_add] at hlength
  omega

theorem getElem?_interleave (h : lines[i]? = some line) :
    (interleave placed lines)[position placed i]? = some line := by
  rw [interleave_eq_append placed h, position_eq_length placed h,
    List.getElem?_append_right (Nat.le_refl _), Nat.sub_self]
  rfl

theorem marker_mem_interleave (h : lines[i]? = some line) {marker : Text}
    (hmarker : ⟨i, marker⟩ ∈ placed) : indent line ++ marker ∈ interleave placed lines := by
  rw [interleave_eq_append placed h]
  refine List.mem_append_left _ (List.mem_append_right _ ?_)
  exact List.mem_map_of_mem (mem_markersAt_iff.mpr hmarker)

theorem take_interleave (h : lines[i]? = some line) :
    (interleave placed lines).take (position placed i) =
      interleave placed (lines.take i) ++ (markersAt placed i).map (indent line ++ ·) := by
  rw [interleave_eq_append placed h, position_eq_length placed h, List.take_left]

/-- Putting a marker right above the line adds it to the line's markers, as the last one. -/
theorem insertIdx_interleave (h : lines[i]? = some line) (marker : Text) :
    (interleave placed lines).insertIdx (position placed i) (indent line ++ marker) =
      interleave (placed ++ [⟨i, marker⟩]) lines := by
  have hlength := (split_at h).2
  have hbefore : interleave (placed ++ [⟨i, marker⟩]) (lines.take i) =
      interleave placed (lines.take i) := by
    apply interleaveFrom_congr
    intro j _ hj
    have hne : i ≠ j := by omega
    simp [markersAt_concat, hne]
  have hafter : interleaveFrom (placed ++ [⟨i, marker⟩]) (i + 1) (lines.drop (i + 1)) =
      interleaveFrom placed (i + 1) (lines.drop (i + 1)) := by
    apply interleaveFrom_congr
    intro j hj _
    have hne : i ≠ j := by omega
    simp [markersAt_concat, hne]
  have hsplit := interleave_eq_append (placed ++ [Placement.mk i marker]) h
  rw [hbefore, hafter, markersAt_concat, if_pos rfl] at hsplit
  rw [hsplit, interleave_eq_append placed h, position_eq_length placed h,
    insertIdx_length_append]
  simp

end Line

end MappingMarkers.Proofs.Interleaving
