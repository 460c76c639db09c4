import Mathlib.Data.List.Sort
import MappingMarkers.Proofs.RepeatedInjection

namespace MappingMarkers.Proofs.KeyOrder

open Text SourceBuffer Interleaving OnePassInjection RepeatedInjection

/-- The second list has the elements of the first in an order that keeps any two of them that have
something in common in their order. Every element is told apart by its number in the first list. -/
def Rearranged {α : Type} (common : α → α → Prop) (l l' : List α) : Prop :=
  ∃ numbered : List (α × Nat), numbered.Perm l.zipIdx ∧ numbered.map (·.1) = l' ∧
    numbered.Pairwise fun a b => common a.1 b.1 → a.2 < b.2

def columnLines (lines : List Text) (column : Text) : List Nat :=
  (targetLine? lines (.property (Identifier.pascal column))).toList

/-- The lines that a foreign key is aimed at: those of its columns' properties, and the one of its
navigation property. -/
def keyLines (lines : List Text) (key : ForeignKey Text) : List Nat :=
  key.columns.flatMap (columnLines lines) ++ (Declaration.navigation? lines key.refTable).toList

/-- Two columns or keys are aimed at a line in common. -/
def Meet {α : Type} (linesOf : α → List Nat) (a b : α) : Prop := ∃ i ∈ linesOf a, i ∈ linesOf b

instance {α : Type} (linesOf : α → List Nat) : DecidableRel (Meet linesOf) :=
  fun _ _ => inferInstanceAs (Decidable (∃ i ∈ _, i ∈ _))

section Rearrangements

variable {α : Type} {common : α → α → Prop} {l l' : List α}

theorem pairwise_lt_zipIdx (l : List α) (n : Nat) :
    (l.zipIdx n).Pairwise fun a b => a.2 < b.2 := by
  induction l generalizing n with
  | nil => exact .nil
  | cons a l ih =>
      rw [List.zipIdx_cons, List.pairwise_cons]
      exact ⟨fun b hb => List.le_snd_of_mem_zipIdx hb, ih (n + 1)⟩

theorem Rearranged.filter_eq (h : Rearranged common l l') {p : α → Bool}
    (hp : ∀ a b, p a = true → p b = true → common a b) : l'.filter p = l.filter p := by
  obtain ⟨numbered, hperm, rfl, hordered⟩ := h
  have hnew : (numbered.filter (p ∘ Prod.fst)).Pairwise fun a b => a.2 < b.2 := by
    refine (hordered.sublist List.filter_sublist).imp_of_mem fun ha hb hab => ?_
    exact hab (hp _ _ (List.mem_filter.mp ha).2 (List.mem_filter.mp hb).2)
  have hold : (l.zipIdx.filter (p ∘ Prod.fst)).Pairwise fun a b => a.2 < b.2 :=
    (pairwise_lt_zipIdx l 0).sublist List.filter_sublist
  have hsame : numbered.filter (p ∘ Prod.fst) = l.zipIdx.filter (p ∘ Prod.fst) := by
    refine (hperm.filter _).eq_of_pairwise (fun a b _ _ hab hba => ?_) hnew hold
    exact absurd hab (Nat.lt_asymm hba)
  calc
    (numbered.map (·.1)).filter p = (numbered.filter (p ∘ Prod.fst)).map (·.1) := List.filter_map
    _ = (l.zipIdx.filter (p ∘ Prod.fst)).map (·.1) := by rw [hsame]
    _ = (l.zipIdx.map (·.1)).filter p := List.filter_map.symm
    _ = l.filter p := by rw [List.zipIdx_map_fst]

theorem filter_flatMap {β : Type} {f : α → List β} {p : α → Bool} {q : β → Bool}
    (h : ∀ a, p a = false → ∀ b ∈ f a, q b = false) (l : List α) :
    (l.flatMap f).filter q = (l.filter p).flatMap fun a => (f a).filter q := by
  induction l with
  | nil => rfl
  | cons a l ih =>
      rw [List.flatMap_cons, List.filter_append, ih]
      cases hp : p a with
      | true => rw [List.filter_cons_of_pos hp, List.flatMap_cons]
      | false =>
          have hnone : (f a).filter q = [] :=
            List.filter_eq_nil_iff.mpr fun b hb => by simp [h a hp b hb]
          rw [List.filter_cons_of_neg (by simp [hp]), hnone, List.nil_append]

theorem Rearranged.filter_flatMap_eq {β : Type} {linesOf : α → List Nat} {i : Nat}
    (h : Rearranged (Meet linesOf) l l') {f : α → List β} {q : β → Bool}
    (hq : ∀ a, i ∉ linesOf a → ∀ b ∈ f a, q b = false) :
    (l'.flatMap f).filter q = (l.flatMap f).filter q := by
  have hlines : ∀ a, decide (i ∈ linesOf a) = false → ∀ b ∈ f a, q b = false :=
    fun a ha => hq a (of_decide_eq_false ha)
  rw [filter_flatMap hlines, filter_flatMap hlines, h.filter_eq]
  intro a b ha hb
  exact ⟨i, of_decide_eq_true ha, of_decide_eq_true hb⟩

end Rearrangements

section Lines

variable {lines : List Text} {i : Nat}

def aimsAt (lines : List Text) (i : Nat) (r : Request) : Bool :=
  targetLine? lines r.target == some i

theorem aimsAt_ofColumn {column : Text} (h : i ∉ columnLines lines column) (marker : Text) :
    aimsAt lines i (Request.ofColumn column marker) = false := by
  rw [columnLines, Option.mem_toList] at h
  exact beq_false_of_ne h

theorem aimsAt_of_mem_ofPrimary {column : Text} (h : i ∉ columnLines lines column) :
    ∀ r ∈ Request.ofPrimary column, aimsAt lines i r = false := by
  intro r hr
  simp only [Request.ofPrimary, List.mem_cons, List.not_mem_nil, or_false] at hr
  rcases hr with rfl | rfl
  · exact aimsAt_ofColumn h _
  · exact aimsAt_ofColumn h _

theorem aimsAt_of_mem_foreignColumns {key : ForeignKey Text} (h : i ∉ keyLines lines key) :
    ∀ r ∈ key.columns.map Request.ofForeignColumn, aimsAt lines i r = false := by
  intro r hr
  obtain ⟨column, hcolumn, rfl⟩ := List.mem_map.mp hr
  refine aimsAt_ofColumn (fun hmem => h ?_) _
  exact List.mem_append_left _ (List.mem_flatMap.mpr ⟨column, hcolumn, hmem⟩)

theorem aimsAt_of_mem_ofForeignKey {key : ForeignKey Text} (h : i ∉ keyLines lines key) :
    ∀ r ∈ Request.ofForeignKey key, aimsAt lines i r = false := by
  intro r hr
  rw [Request.ofForeignKey] at hr
  split at hr
  · simp at hr
  · obtain rfl := List.mem_singleton.mp hr
    refine beq_false_of_ne fun hline => h ?_
    exact List.mem_append_right _ (Option.mem_toList.mpr hline)

theorem filter_requests_eq {keys keys' : TableKeys Text}
    (hprimary : Rearranged (Meet (columnLines lines)) keys.primary keys'.primary)
    (hforeign : Rearranged (Meet (keyLines lines)) keys.foreign keys'.foreign) (i : Nat) :
    keys'.requests.filter (aimsAt lines i) = keys.requests.filter (aimsAt lines i) := by
  simp only [TableKeys.requests, List.filter_append]
  rw [hprimary.filter_flatMap_eq fun _ => aimsAt_of_mem_ofPrimary,
    hforeign.filter_flatMap_eq fun _ => aimsAt_of_mem_foreignColumns,
    hforeign.filter_flatMap_eq fun _ => aimsAt_of_mem_ofForeignKey]

theorem filter_filterMap_aim? (rs : List Request) :
    (rs.filterMap (aim? lines)).filter (·.line == i) =
      (rs.filter (aimsAt lines i)).filterMap (aim? lines) := by
  induction rs with
  | nil => rfl
  | cons r rs ih =>
      cases htarget : targetLine? lines r.target with
      | none => simp [aim?, aimsAt, htarget, ih]
      | some j =>
          have haim : aim? lines r = some ⟨j, r.guard, r.marker⟩ := by simp [aim?, htarget]
          rw [List.filterMap_cons_some haim, List.filter_cons, List.filter_cons, ih]
          by_cases h : j = i
          · simp [aimsAt, htarget, h, aim?]
          · simp [aimsAt, htarget, h]

end Lines

section Placements

variable {lines : List Text} {placed placed' : List Placement}

theorem admits_congr {aim : Aim} (h : markersAt placed aim.line = markersAt placed' aim.line) :
    Admits lines placed aim ↔ Admits lines placed' aim := by
  rw [Admits, Admits, h]

theorem markersAt_filter (placed : List Placement) (i : Nat) :
    markersAt (placed.filter (·.line == i)) i = markersAt placed i := by
  simp [markersAt]

/-- What one aim adds above a line depends on the markers above that line alone. -/
theorem filter_place (aim : Aim) (i : Nat) :
    (place lines placed aim).filter (·.line == i) =
      if aim.line = i then place lines (placed.filter (·.line == i)) aim
      else placed.filter (·.line == i) := by
  split
  · rename_i h
    subst h
    have hadmits : Admits lines (placed.filter (·.line == aim.line)) aim ↔
        Admits lines placed aim := admits_congr (markersAt_filter placed aim.line)
    by_cases hnow : Admits lines placed aim
    · rw [place, place, if_pos hnow, if_pos (hadmits.mpr hnow), List.filter_append]
      simp
    · rw [place, place, if_neg hnow, if_neg (hnow ∘ hadmits.mp)]
  · rename_i h
    rw [place]
    split
    · simp [List.filter_append, h]
    · rfl

theorem filter_foldl_place (aims : List Aim) (i : Nat) :
    (aims.foldl (place lines) placed).filter (·.line == i) =
      (aims.filter (·.line == i)).foldl (place lines) (placed.filter (·.line == i)) := by
  induction aims generalizing placed with
  | nil => rfl
  | cons aim rest ih =>
      rw [List.foldl_cons, ih, filter_place, List.filter_cons]
      by_cases h : aim.line = i <;> simp [h]

theorem interleave_congr (h : ∀ i, placed'.filter (·.line == i) = placed.filter (·.line == i))
    (lines : List Text) : interleave placed' lines = interleave placed lines :=
  interleaveFrom_congr fun i _ _ => by rw [markersAt, markersAt, h]

theorem perm_of_filter_eq (h : ∀ i, placed'.filter (·.line == i) = placed.filter (·.line == i)) :
    placed'.Perm placed := by
  rw [List.perm_iff_count]
  intro p
  have hcount (l : List Placement) : l.count p = (l.filter (·.line == p.line)).count p :=
    (List.count_filter (by simp)).symm
  rw [hcount placed', hcount placed, h]

end Placements

section Outcome

variable {content : Text} {keys keys' : TableKeys Text}

theorem filter_placedIn_eq
    (hprimary : Rearranged (Meet (columnLines (splitLines content))) keys.primary keys'.primary)
    (hforeign : Rearranged (Meet (keyLines (splitLines content))) keys.foreign keys'.foreign)
    (i : Nat) :
    (placedIn content keys').filter (·.line == i) =
      (placedIn content keys).filter (·.line == i) := by
  simp only [placedIn, placements, filter_foldl_place, aims_eq_filterMap_requests,
    filter_filterMap_aim?, filter_requests_eq hprimary hforeign i]

end Outcome

/-- Keys injected in another order, with those that are aimed at a line in common in the same one,
put the same markers into the same text. -/
theorem inject_rearranged {content : Text} {keys keys' : TableKeys Text}
    (hprimary : Rearranged (Meet (columnLines (splitLines content))) keys.primary keys'.primary)
    (hforeign : Rearranged (Meet (keyLines (splitLines content))) keys.foreign keys'.foreign) :
    (inject content keys').changed = (inject content keys).changed ∧
      (inject content keys').text = (inject content keys).text ∧
      (inject content keys').inserted.Perm (inject content keys).inserted := by
  have hfilter := filter_placedIn_eq hprimary hforeign
  have hperm := perm_of_filter_eq hfilter
  have hempty : (placedIn content keys').isEmpty = (placedIn content keys).isEmpty :=
    hperm.isEmpty_eq
  have hlines := interleave_congr hfilter (splitLines content)
  rw [inject_eq_ofBuffer, inject_eq_ofBuffer, ofBuffer_bufferOf, ofBuffer_bufferOf, hempty, hlines]
  cases (placedIn content keys).isEmpty with
  | true => exact ⟨rfl, rfl, .refl _⟩
  | false => exact ⟨rfl, rfl, hperm.map _⟩

theorem inject_rearranged_threeKeys :
    let content := joinLines ["public int A \x7bget;set;\x7d".toList,
      "public int B \x7bget;set;\x7d".toList, "public T? T \x7bget;set;\x7d".toList]
    let a : ForeignKey Text := ⟨[], ['S'], ['T'], [(['A'], ['X'])]⟩
    let b : ForeignKey Text := ⟨[], ['S'], ['U'], [(['B'], ['Y'])]⟩
    let c : ForeignKey Text := ⟨[], ['S'], ['T'], [(['D'], ['Z'])]⟩
    let keys : TableKeys Text := ⟨['S'], [['A'], ['B']], [a, b, c]⟩
    let keys' : TableKeys Text := ⟨['S'], [['B'], ['A']], [b, a, c]⟩
    Meet (keyLines (splitLines content)) a c ∧ (inject content keys).changed = true ∧
      (inject content keys').inserted ≠ (inject content keys).inserted ∧
      (inject content keys').text = (inject content keys).text := by
  intro content a b c keys keys'
  have hprimary : Rearranged (Meet (columnLines (splitLines content))) keys.primary keys'.primary :=
    ⟨[(['B'], 1), (['A'], 0)], by decide, rfl, by decide +kernel⟩
  have hforeign : Rearranged (Meet (keyLines (splitLines content))) keys.foreign keys'.foreign :=
    ⟨[(b, 1), (a, 0), (c, 2)], by decide, rfl, by decide +kernel⟩
  obtain ⟨-, htext, -⟩ := inject_rearranged hprimary hforeign
  exact ⟨by decide +kernel, by decide +kernel, by decide +kernel, htext⟩

end MappingMarkers.Proofs.KeyOrder
