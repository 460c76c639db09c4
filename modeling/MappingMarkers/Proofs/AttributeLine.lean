import Mathlib.Data.List.TakeWhile
import MappingMarkers.SourceBuffer

namespace MappingMarkers.Proofs.AttributeLine

open Text SourceBuffer

theorem occursIn_iff_infix (piece t : Text) : occursIn piece t = true ↔ piece <:+: t := by
  induction t with
  | nil => simp [occursIn]
  | cons c cs ih => simp [occursIn, List.infix_cons_iff, ih]

theorem isBlank_of_mem_indent {line : Text} {c : Char} (h : c ∈ indent line) :
    isBlank c = true :=
  List.mem_takeWhile_imp h

theorem indent_subset (line : Text) : indent line ⊆ line :=
  (List.takeWhile_prefix _).subset

def Bracketed (t : Text) : Prop := t.head? = some '['

theorem Bracketed.exists_cons {t : Text} (h : Bracketed t) : ∃ rest, t = '[' :: rest := by
  cases t with
  | nil => simp [Bracketed] at h
  | cons c cs => exact ⟨cs, by simpa [Bracketed] using h⟩

theorem Bracketed.append {t : Text} (h : Bracketed t) (u : Text) : Bracketed (t ++ u) := by
  obtain ⟨rest, rfl⟩ := h.exists_cons
  rfl

theorem infix_indented_iff {piece blanks t : Text} (hpiece : Bracketed piece)
    (hblanks : ∀ c ∈ blanks, isBlank c = true) : piece <:+: blanks ++ t ↔ piece <:+: t := by
  induction blanks with
  | nil => rfl
  | cons c cs ih =>
      have hrest := ih fun d hd => hblanks d (List.mem_cons_of_mem _ hd)
      have hnot : ¬ piece <+: c :: (cs ++ t) := by
        obtain ⟨rest, rfl⟩ := hpiece.exists_cons
        rw [List.cons_prefix_cons]
        rintro ⟨rfl, -⟩
        exact absurd (hblanks '[' List.mem_cons_self) (by decide)
      rw [List.cons_append, List.infix_cons_iff, hrest]
      exact or_iff_right hnot

theorem opensAttribute_indented {blanks t : Text} (ht : Bracketed t)
    (hblanks : ∀ c ∈ blanks, isBlank c = true) : opensAttribute (blanks ++ t) = true := by
  obtain ⟨rest, rfl⟩ := ht.exists_cons
  rw [opensAttribute, skipBlanks, List.dropWhile_append_of_pos hblanks,
    List.dropWhile_cons_of_neg (by decide)]
  rfl

theorem head?_eq_none_of_opensAttribute {line : Text} (h : opensAttribute line = true) :
    Declaration.head? line = none := by
  have hhead : (skipBlanks line).head? = some '[' := by simpa [opensAttribute] using h
  obtain ⟨rest, hrest⟩ := Bracketed.exists_cons hhead
  rw [Declaration.head?, hrest]
  rfl

theorem property?_eq_none_of_opensAttribute {line : Text} (h : opensAttribute line = true) :
    Declaration.property? line = none := by
  rw [Declaration.property?, head?_eq_none_of_opensAttribute h]
  rfl

theorem isNavigation_eq_false_of_opensAttribute {line : Text} (h : opensAttribute line = true)
    (type : Text) : Declaration.isNavigation type line = false := by
  rw [Declaration.isNavigation, head?_eq_none_of_opensAttribute h]
  rfl

end MappingMarkers.Proofs.AttributeLine
