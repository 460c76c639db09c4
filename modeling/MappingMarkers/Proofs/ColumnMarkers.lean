import MappingMarkers.Marker
import MappingMarkers.Proofs.AttributeOpening

namespace MappingMarkers.Proofs.ColumnMarkers

open Text Attribute AttributeOpening LinewiseAttributes Reading

section Format

/-- The whole attribute that maps a column: the words in any case of their letters, white space
wherever it may stand, and the argument with its label or without. -/
def Renders (name marker : Text) : Prop :=
  ∃ o : Opening "column".toList, o.name = name ∧
    ∃ gap, Blank gap ∧ marker = o.text ++ (gap ++ ")]".toList)

/-- The text has column attributes with these names, in this order. What stands in front of them,
between them and behind them has no opening bracket. -/
inductive Maps : List Text → Text → Prop
  | last (filler : Text) (hfiller : '[' ∉ filler) : Maps [] filler
  | next {name marker rest : Text} {names : List Text} (filler : Text) (hfiller : '[' ∉ filler)
      (hname : name ≠ []) (hmarker : Renders name marker) (hrest : Maps names rest) :
      Maps (name :: names) (filler ++ (marker ++ rest))

/-- `[Column(Name = "…"`, as markers are written. -/
def plainOpening (name : Text) (h : '"' ∉ name) : Opening "column".toList where
  word := "Column".toList
  gap := []
  margin := []
  label := "Name = ".toList
  name := name
  spelled := by decide
  blank_gap := blank_nil
  blank_margin := blank_nil
  labelled := Or.inr ⟨"Name".toList, [' '], [' '], by decide, by decide, by decide, by decide⟩
  closed := h

theorem renders_column {name : Text} (h : '"' ∉ name) : Renders name (Marker.column name) := by
  refine ⟨plainOpening name h, rfl, [], blank_nil, ?_⟩
  calc
    Marker.column name = "[Column(Name = \"".toList ++ (name ++ (['"'] ++ ")]".toList)) :=
      List.append_assoc _ _ _
    _ = "[Column(Name = \"".toList ++ ((name ++ ['"']) ++ ")]".toList) := by
      rw [List.append_assoc name]
    _ = (plainOpening name h).text ++ ([] ++ ")]".toList) := rfl

theorem maps_column {name : Text} (hname : name ≠ []) (h : '"' ∉ name) :
    Maps [name] (Marker.column name) := by
  have hmaps := Maps.next [] List.not_mem_nil hname (renders_column h) (.last [] List.not_mem_nil)
  rwa [List.nil_append, List.append_nil] at hmaps

end Format

section Reading

theorem columns_renders {name marker : Text} (hname : name ≠ []) (h : Renders name marker)
    (rest : Text) : columns (marker ++ rest) = name :: columns rest := by
  obtain ⟨o, rfl, gap, hgap, rfl⟩ := h
  have hread := argument?_text o (gap ++ ")]".toList ++ rest)
  rw [if_neg hname] at hread
  have hend : '[' ∉ gap ++ ")]".toList := by
    rw [List.mem_append, not_or]
    exact ⟨mark_notMem_of_blank (by decide) hgap, by decide⟩
  rw [List.append_assoc, columns_of_eq_some hread, columns_append_of_notMem hend]

theorem columns_maps {names : List Text} {content : Text} (h : Maps names content) :
    columns content = names := by
  induction h with
  | last filler hfiller => exact columns_of_notMem hfiller
  | next filler hfiller hname hmarker _ ih =>
      rw [columns_append_of_notMem hfiller, columns_renders hname hmarker, ih]

end Reading

section FirstPlaces

variable {α : Type} [BEq α] [LawfulBEq α]

theorem idxOf_lt_of_filter {p : α → Bool} {l : List α} {a b : α} (ha : p a = true) (hb : p b = true)
    (h : (l.filter p).idxOf a < (l.filter p).idxOf b) : l.idxOf a < l.idxOf b := by
  induction l with
  | nil => simp at h
  | cons c cs ih =>
      by_cases hc : p c = true
      · rw [List.filter_cons_of_pos hc] at h
        by_cases hca : c = a
        · by_cases hcb : c = b <;> simp_all [List.idxOf_cons]
        · by_cases hcb : c = b <;> simp_all [List.idxOf_cons]
      · rw [List.filter_cons_of_neg hc] at h
        have hca : c ≠ a := fun heq => hc (heq ▸ ha)
        have hcb : c ≠ b := fun heq => hc (heq ▸ hb)
        simpa [List.idxOf_cons, hca, hcb] using ih h

theorem pairwise_idxOf_eraseDups (l : List α) :
    l.eraseDups.Pairwise fun a b => l.idxOf a < l.idxOf b := by
  induction hn : l.length using Nat.strong_induction_on generalizing l with
  | _ n ih =>
      cases l with
      | nil => exact List.Pairwise.nil
      | cons a as =>
          have hshorter := List.length_filter_le (fun b => !b == a) as
          rw [List.length_cons] at hn
          have hrest := ih _ (by omega) (as.filter fun b => !b == a) rfl
          have hother : ∀ b ∈ (as.filter fun b => !b == a).eraseDups, (!b == a) = true := by
            intro b hb
            exact (List.mem_filter.mp (List.mem_eraseDups.mp hb)).2
          have hsucc (b : α) (hb : (!b == a) = true) : (a :: as).idxOf b = as.idxOf b + 1 := by
            have hne : a ≠ b := by
              rintro rfl
              simp at hb
            simp [hne]
          rw [List.eraseDups_cons, List.pairwise_cons]
          constructor
          · intro b hb
            rw [hsucc b (hother b hb), List.idxOf_cons_self]
            exact Nat.succ_pos _
          · refine hrest.imp_of_mem fun hb hc h => ?_
            rw [hsucc _ (hother _ hb), hsucc _ (hother _ hc)]
            exact Nat.succ_lt_succ (idxOf_lt_of_filter (hother _ hb) (hother _ hc) h)

end FirstPlaces

/-- What is written as column attributes is read back: the distinct names, in the order in which
they come first. A marker by itself gives its column. -/
theorem mappedColumns_maps :
    (∀ names content, Maps names content →
      mappedColumns content = names.eraseDups ∧
        (∀ name, name ∈ mappedColumns content ↔ name ∈ names) ∧
        (mappedColumns content).Pairwise fun a b => names.idxOf a < names.idxOf b) ∧
    ∀ name, name ≠ [] → '"' ∉ name → mappedColumns (Marker.column name) = [name] := by
  have hread {names : List Text} {content : Text} (h : Maps names content) :
      mappedColumns content = names.eraseDups := by
    rw [mappedColumns, columns_maps h]
  constructor
  · intro names content h
    rw [hread h]
    exact ⟨rfl, fun name => List.mem_eraseDups, pairwise_idxOf_eraseDups names⟩
  · intro name hname hquote
    exact hread (maps_column hname hquote)

theorem labelled_nil : ([] : Text) = [] ∨ Labels "name".toList [] := .inl rfl

/-- `[COLUMN (` and a name with an opening bracket, without a label. -/
def bracketOpening : Opening "column".toList where
  word := "COLUMN".toList
  gap := " ".toList
  margin := "\t".toList
  label := []
  name := "A[Column(".toList
  spelled := by decide
  blank_gap := blank_space
  blank_margin := by decide
  labelled := labelled_nil
  closed := by decide

theorem mappedColumns_maps_bracketName :
    let content := "s = \"\n[COLUMN (\t\"A[Column(\"\n)] \"[Column(Name = \"B\")]".toList ++
      "[COLUMN (\t\"A[Column(\")]\n".toList
    Maps ["A[Column(".toList, ['B'], "A[Column(".toList] content ∧
      mappedColumns content = ["A[Column(".toList, ['B']] ∧
      mappedColumns (Marker.column "A[Column(".toList) = ["A[Column(".toList] := by
  intro content
  have hlast : Maps ["A[Column(".toList] "[COLUMN (\t\"A[Column(\")]\n".toList :=
    .next [] List.not_mem_nil (by decide) ⟨bracketOpening, rfl, [], blank_nil, rfl⟩
      (.last ['\n'] (by decide))
  have hquote : '"' ∉ ['B'] := by decide
  have hsecond := Maps.next " \"".toList (by decide) (by decide) (renders_column hquote) hlast
  have hmaps : Maps ["A[Column(".toList, ['B'], "A[Column(".toList] content :=
    .next "s = \"\n".toList (by decide) (by decide)
      ⟨bracketOpening, rfl, ['\n'], by decide, rfl⟩ hsecond
  obtain ⟨hread, hmarker⟩ := mappedColumns_maps
  exact ⟨hmaps, (hread _ _ hmaps).1.trans (by decide), hmarker _ (by decide) (by decide)⟩

end MappingMarkers.Proofs.ColumnMarkers
