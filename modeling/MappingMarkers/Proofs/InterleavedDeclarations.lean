import MappingMarkers.Proofs.Interleaving

namespace MappingMarkers.Proofs.InterleavedDeclarations

open Text SourceBuffer AttributeLine Interleaving

/-- A numbered line that is no attribute line. -/
def isPlain (e : Text × Nat) : Bool := !opensAttribute e.1

/-- What a numbered line adds to the index of declarations. -/
def declared? (e : Text × Nat) : Option (Text × Nat) :=
  (Declaration.property? e.1).map fun name => (lower name, e.2)

theorem plain_interleaveFrom {placed : List Placement} (n : Nat) (lines : List Text)
    (hmarkers : ∀ p ∈ placed, Bracketed p.marker) :
    ((interleaveFrom placed n lines).zipIdx (n + countBefore placed n)).filter isPlain =
      ((lines.zipIdx n).filter isPlain).map fun e => (e.1, position placed e.2) := by
  induction lines generalizing n with
  | nil => rfl
  | cons line rest ih =>
      have hblock : (((markersAt placed n).map (indent line ++ ·)).zipIdx
          (n + countBefore placed n)).filter isPlain = [] := by
        apply List.filter_eq_nil_iff.mpr
        intro e he
        obtain ⟨marker, hmarker, hline⟩ :=
          List.mem_map.mp (List.fst_mem_of_mem_zipIdx he)
        have hopens : opensAttribute e.1 = true := by
          rw [← hline]
          exact opensAttribute_indented (hmarkers _ (mem_markersAt_iff.mp hmarker))
            fun _ => isBlank_of_mem_indent
        simp [isPlain, hopens]
      have hstart : n + countBefore placed n + (markersAt placed n).length =
          position placed n := by
        rw [position, countBefore_succ, Nat.add_assoc]
      have hnext : position placed n + 1 = n + 1 + countBefore placed (n + 1) := by
        rw [position]
        omega
      rw [interleaveFrom_cons, List.zipIdx_append, List.filter_append, hblock, List.nil_append,
        List.length_map, hstart, List.zipIdx_cons, hnext, List.zipIdx_cons]
      have hrest := ih (n + 1)
      by_cases hplain : opensAttribute line = true
      · simpa [isPlain, hplain] using hrest
      · simpa [isPlain, hplain] using hrest

theorem index_eq_filterMap_plain (lines : List Text) :
    Declaration.index lines = ((lines.zipIdx.filter isPlain).filterMap declared?).reverse := by
  rw [List.filterMap_filter]
  simp only [Declaration.index]
  congr 2
  funext e
  by_cases hopens : opensAttribute e.1 = true
  · simp [isPlain, hopens, property?_eq_none_of_opensAttribute hopens]
  · simp [isPlain, hopens, declared?]

theorem plain_interleave {placed : List Placement} (lines : List Text)
    (hmarkers : ∀ p ∈ placed, Bracketed p.marker) :
    (interleave placed lines).zipIdx.filter isPlain =
      (lines.zipIdx.filter isPlain).map fun e => (e.1, position placed e.2) := by
  have hzero : 0 + countBefore placed 0 = 0 := by simp [countBefore]
  have hplain := plain_interleaveFrom 0 lines hmarkers
  rwa [hzero] at hplain

theorem mem_index_iff {lines : List Text} {name : Text} {i : Nat} :
    (name, i) ∈ Declaration.index lines ↔
      ∃ line found, lines[i]? = some line ∧ Declaration.property? line = some found ∧
        lower found = name := by
  simp only [Declaration.index, List.mem_reverse, List.mem_filterMap, Option.map_eq_some_iff,
    Prod.exists, Prod.mk.injEq, List.mem_zipIdx_iff_getElem?]
  constructor
  · rintro ⟨line, j, hline, found, hfound, hname, rfl⟩
    exact ⟨line, found, hline, hfound, hname⟩
  · rintro ⟨line, found, hline, hfound, hname⟩
    exact ⟨line, i, hline, found, hfound, hname, rfl⟩

theorem lookup_map_snd {α β γ : Type} [BEq α] (f : β → γ) (l : List (α × β)) (a : α) :
    (l.map fun e => (e.1, f e.2)).lookup a = (l.lookup a).map f := by
  induction l with
  | nil => rfl
  | cons e rest ih =>
      obtain ⟨key, value⟩ := e
      simp only [List.map_cons, List.lookup_cons]
      cases a == key with
      | true => rfl
      | false => exact ih

theorem index_interleave {placed : List Placement} (lines : List Text)
    (hmarkers : ∀ p ∈ placed, Bracketed p.marker) :
    Declaration.index (interleave placed lines) =
      (Declaration.index lines).map fun e => (e.1, position placed e.2) := by
  have hmoved (e : Text × Nat) : declared? (e.1, position placed e.2) =
      (declared? e).map fun e => (e.1, position placed e.2) := by
    cases h : Declaration.property? e.1 <;> simp [declared?, h]
  rw [index_eq_filterMap_plain, index_eq_filterMap_plain, plain_interleave lines hmarkers,
    List.map_reverse, List.filterMap_map, List.map_filterMap]
  simp only [Function.comp_def, hmoved]

theorem navigation?_eq_find?_plain (lines : List Text) (type : Text) :
    lines.findIdx? (Declaration.isNavigation type) =
      ((lines.zipIdx.filter isPlain).find? fun e => Declaration.isNavigation type e.1).map
        (·.2) := by
  rw [List.findIdx?_eq_fst_find?_zipIdx, List.find?_filter]
  congr 2
  funext e
  by_cases hopens : opensAttribute e.1 = true
  · simp [isNavigation_eq_false_of_opensAttribute hopens]
  · simp [isPlain, hopens]

theorem navigation?_interleave {placed : List Placement} (lines : List Text)
    (hmarkers : ∀ p ∈ placed, Bracketed p.marker) (refTable : Text) :
    Declaration.navigation? (interleave placed lines) refTable =
      (Declaration.navigation? lines refTable).map (position placed) := by
  simp only [Declaration.navigation?]
  split
  · rfl
  · rw [navigation?_eq_find?_plain, navigation?_eq_find?_plain, plain_interleave lines hmarkers,
      List.find?_map, Option.map_map, Option.map_map]
    rfl

/-- The attribute lines that stand right above line `i`, from the top. -/
def attributesAbove (lines : List Text) (i : Nat) : List Text :=
  (lines.take i).rtakeWhile opensAttribute

theorem attributeBlock_eq_reverse (b : SourceBuffer) (i : Nat) :
    b.attributeBlock i = (attributesAbove b.lines i).reverse := by
  rw [attributesAbove, List.rtakeWhile, List.reverse_reverse]
  rfl

theorem rtakeWhile_append_of_pos {α : Type} {p : α → Bool} {front back : List α}
    (h : ∀ a ∈ back, p a = true) :
    (front ++ back).rtakeWhile p = front.rtakeWhile p ++ back := by
  have hback : ∀ a ∈ back.reverse, p a = true := fun a ha => h a (List.mem_reverse.mp ha)
  rw [List.rtakeWhile, List.reverse_append, List.takeWhile_append_of_pos hback,
    List.reverse_append, List.reverse_reverse]
  rfl

/-- The markers are attribute lines, and every one of them stands above a line that is none. -/
structure Sited (lines : List Text) (placed : List Placement) : Prop where
  bracketed : ∀ p ∈ placed, Bracketed p.marker
  plain : ∀ p ∈ placed, ∃ line, lines[p.line]? = some line ∧ opensAttribute line = false

section Sited

variable {lines : List Text} {placed : List Placement} {i : Nat} {line : Text}

theorem Sited.nil : Sited lines [] :=
  ⟨fun _ h => absurd h List.not_mem_nil, fun _ h => absurd h List.not_mem_nil⟩

theorem Sited.concat (h : Sited lines placed) {marker : Text} (hmarker : Bracketed marker)
    (hline : lines[i]? = some line) (hplain : opensAttribute line = false) :
    Sited lines (placed ++ [⟨i, marker⟩]) := by
  constructor
  · intro p hp
    rcases List.mem_append.mp hp with hp | hp
    · exact h.bracketed p hp
    · obtain rfl := List.mem_singleton.mp hp
      exact hmarker
  · intro p hp
    rcases List.mem_append.mp hp with hp | hp
    · exact h.plain p hp
    · obtain rfl := List.mem_singleton.mp hp
      exact ⟨line, hline, hplain⟩

theorem Sited.markersAt_eq_nil (h : Sited lines placed) (hline : lines[i]? = some line)
    (hopens : opensAttribute line = true) : markersAt placed i = [] := by
  apply List.eq_nil_iff_forall_not_mem.mpr
  intro marker hmarker
  obtain ⟨found, hfound, hplain⟩ := h.plain _ (mem_markersAt_iff.mp hmarker)
  rw [hline, Option.some.injEq] at hfound
  rw [← hfound, hopens] at hplain
  contradiction

theorem rtakeWhile_interleave (front : List Text)
    (h : ∀ i line, front[i]? = some line → opensAttribute line = true →
      markersAt placed i = []) :
    (interleave placed front).rtakeWhile opensAttribute = front.rtakeWhile opensAttribute := by
  induction front using List.reverseRecOn with
  | nil => rfl
  | append_singleton front last ih =>
      have hlast : (front ++ [last])[front.length]? = some last := by simp
      have hfront := ih fun i line hline hopens => h i line (by
        rw [List.getElem?_append_left (List.getElem?_eq_some_iff.mp hline).1]
        exact hline) hopens
      have hsplit : interleave placed (front ++ [last]) =
          interleave placed front ++
            (markersAt placed front.length).map (indent last ++ ·) ++ [last] := by
        rw [interleave, interleaveFrom_append, interleaveFrom_cons, Nat.zero_add,
          ← List.append_assoc]
        rfl
      rw [hsplit]
      by_cases hopens : opensAttribute last = true
      · rw [h _ _ hlast hopens, List.map_nil, List.append_nil,
          List.rtakeWhile_concat_pos _ _ _ hopens, List.rtakeWhile_concat_pos _ _ _ hopens,
          hfront]
      · rw [List.rtakeWhile_concat_neg _ _ _ hopens, List.rtakeWhile_concat_neg _ _ _ hopens]

/-- Right above a line there stand the attribute lines that were there, and then its markers. -/
theorem Sited.attributesAbove_interleave (h : Sited lines placed)
    (hline : lines[i]? = some line) :
    attributesAbove (interleave placed lines) (position placed i) =
      attributesAbove lines i ++ (markersAt placed i).map (indent line ++ ·) := by
  have hmarkers : ∀ l ∈ (markersAt placed i).map (indent line ++ ·),
      opensAttribute l = true := by
    intro l hl
    obtain ⟨marker, hmarker, rfl⟩ := List.mem_map.mp hl
    exact opensAttribute_indented (h.bracketed _ (mem_markersAt_iff.mp hmarker))
      fun _ => isBlank_of_mem_indent
  rw [attributesAbove, take_interleave placed hline, rtakeWhile_append_of_pos hmarkers,
    rtakeWhile_interleave, attributesAbove]
  intro j l hl hopens
  refine h.markersAt_eq_nil ?_ hopens
  rw [List.getElem?_take] at hl
  split at hl
  · exact hl
  · contradiction

end Sited

end MappingMarkers.Proofs.InterleavedDeclarations
