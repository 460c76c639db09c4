import Mathlib.Data.List.Sort
import MappingMarkers.Text.Basic

namespace MappingMarkers.Proofs.DictionaryOrder

open Text

/-- The first text comes before the second one in the dictionary order of their code points. -/
def Before : Text → Text → Prop := List.Lex fun c d => c.toNat < d.toNat

theorem before_irrefl (t : Text) : ¬ Before t t :=
  List.lex_irrefl (fun c => Nat.lt_irrefl c.toNat) t

theorem Before.trans {t u v : Text} (h : Before t u) (h' : Before u v) : Before t v :=
  List.lex_trans Nat.lt_trans h h'

section Lists

variable {α : Type} [DecidableEq α] {le : α → α → Bool}

theorem inOrder_total (h : ∀ a b, le a b || le b a) (l m : List α) :
    inOrder le l m || inOrder le m l := by
  induction l generalizing m with
  | nil => rfl
  | cons a l ih =>
      cases m with
      | nil => rfl
      | cons b m =>
          by_cases hab : a = b
          · subst hab
            simpa [inOrder] using ih m
          · simpa [inOrder, hab, Ne.symm hab] using h a b

theorem inOrder_iff_lex {lt : α → α → Prop} (hirrefl : ∀ a, ¬ lt a a)
    (h : ∀ a b, le a b = true ↔ a = b ∨ lt a b) (l m : List α) :
    inOrder le l m = true ↔ l = m ∨ List.Lex lt l m := by
  induction l generalizing m with
  | nil => cases m <;> simp [inOrder]
  | cons a l ih =>
      cases m with
      | nil => simp [inOrder]
      | cons b m =>
          rw [inOrder, List.cons_lex_cons_iff, List.cons.injEq]
          by_cases hab : a = b
          · subst hab
            simp [ih, hirrefl]
          · simp [hab, h]

end Lists

theorem notAfter_iff (t u : Text) : notAfter t u = true ↔ t = u ∨ Before t u := by
  refine inOrder_iff_lex (fun c => Nat.lt_irrefl c.toNat) (fun c d => ?_) t u
  rw [decide_eq_true_eq, Nat.le_iff_lt_or_eq, or_comm, Char.toNat_inj]

theorem notAfter_total (t u : Text) : notAfter t u || notAfter u t :=
  inOrder_total (fun c d => by simpa using Nat.le_total c.toNat d.toNat) t u

theorem notAfter_trans (t u v : Text) (h : notAfter t u = true) (h' : notAfter u v = true) :
    notAfter t v = true := by
  rw [notAfter_iff] at h h' ⊢
  obtain rfl | h := h
  · exact h'
  · obtain rfl | h' := h'
    · exact .inr h
    · exact .inr (h.trans h')

theorem nodup_eraseDups {α : Type} [BEq α] [LawfulBEq α] (ts : List α) :
    ts.eraseDups.Nodup := by
  induction hn : ts.length using Nat.strong_induction_on generalizing ts with
  | _ n ih =>
      cases ts with
      | nil => exact List.nodup_nil
      | cons t ts =>
          have hshorter := List.length_filter_le (fun u => !u == t) ts
          rw [List.length_cons] at hn
          rw [List.eraseDups_cons, List.nodup_cons, List.mem_eraseDups]
          exact ⟨by simp, ih _ (by omega) _ rfl⟩

theorem mem_sortedSet_iff {t : Text} {ts : List Text} : t ∈ sortedSet ts ↔ t ∈ ts := by
  rw [sortedSet, List.mem_mergeSort, List.mem_eraseDups]

theorem pairwise_before_sortedSet (ts : List Text) : (sortedSet ts).Pairwise Before := by
  have hsorted := List.pairwise_mergeSort notAfter_trans notAfter_total ts.eraseDups
  have hnodup := (List.mergeSort_perm ts.eraseDups notAfter).nodup_iff.mpr (nodup_eraseDups ts)
  refine hsorted.imp₂ (fun t u h hne => ?_) hnodup
  exact ((notAfter_iff t u).mp h).resolve_left hne

theorem eq_of_mem_iff {ts us : List Text} (hts : ts.Pairwise Before) (hus : us.Pairwise Before)
    (h : ∀ t, t ∈ ts ↔ t ∈ us) : ts = us := by
  have hirrefl : Std.Irrefl Before := ⟨before_irrefl⟩
  have hantisymm : Std.Antisymm Before :=
    ⟨fun t u htu hut => absurd (htu.trans hut) (before_irrefl t)⟩
  exact hts.eq_of_mem_iff hus h

end MappingMarkers.Proofs.DictionaryOrder
