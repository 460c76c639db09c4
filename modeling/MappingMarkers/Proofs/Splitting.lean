import MappingMarkers.Text.Basic

namespace MappingMarkers.Proofs.Splitting

open Text

theorem of_mem_splitOnP {α : Type} {p : α → Bool} {l piece : List α} {a : α}
    (hpiece : piece ∈ l.splitOnP p) (ha : a ∈ piece) : a ∈ l ∧ p a = false := by
  induction l generalizing piece with
  | nil => simp_all
  | cons b bs ih =>
      rw [List.splitOnP_cons_eq_if_modifyHead] at hpiece
      obtain ⟨first, others, hsplit⟩ := List.exists_cons_of_ne_nil (List.splitOnP_ne_nil p bs)
      rw [hsplit] at hpiece ih
      split at hpiece
      · rcases List.mem_cons.mp hpiece with rfl | hpiece
        · simp at ha
        · exact ⟨List.mem_cons_of_mem _ (ih hpiece ha).1, (ih hpiece ha).2⟩
      · rename_i hb
        rcases List.mem_cons.mp hpiece with rfl | hpiece
        · rcases List.mem_cons.mp ha with rfl | ha
          · exact ⟨List.mem_cons_self, by simpa using hb⟩
          · have hfirst := ih List.mem_cons_self ha
            exact ⟨List.mem_cons_of_mem _ hfirst.1, hfirst.2⟩
        · have hother := ih (List.mem_cons_of_mem _ hpiece) ha
          exact ⟨List.mem_cons_of_mem _ hother.1, hother.2⟩

theorem flatten_splitOnP {α : Type} (p : α → Bool) (l : List α) :
    (l.splitOnP p).flatten = l.filter (!p ·) := by
  induction l with
  | nil => rfl
  | cons a as ih =>
      obtain ⟨first, others, hsplit⟩ := List.exists_cons_of_ne_nil (List.splitOnP_ne_nil p as)
      rw [List.splitOnP_cons_eq_if_modifyHead]
      rw [hsplit] at ih ⊢
      cases ha : p a with
      | true => simpa [ha] using ih
      | false => simpa [ha] using ih

theorem splitOnP_map {α : Type} {p : α → Bool} {f : α → α} {l : List α}
    (h : ∀ a ∈ l, p (f a) = p a) : (l.map f).splitOnP p = (l.splitOnP p).map (·.map f) := by
  induction l with
  | nil => rfl
  | cons a as ih =>
      have has := ih fun b hb => h b (List.mem_cons_of_mem _ hb)
      obtain ⟨first, others, hsplit⟩ := List.exists_cons_of_ne_nil (List.splitOnP_ne_nil p as)
      rw [List.map_cons, List.splitOnP_cons_eq_if_modifyHead, has, h a List.mem_cons_self,
        List.splitOnP_cons_eq_if_modifyHead, hsplit]
      cases p a with
      | true => rfl
      | false => rfl

theorem of_mem_splitOn {a c : Char} {t piece : Text} (hpiece : piece ∈ t.splitOn a)
    (hc : c ∈ piece) : c ∈ t ∧ c ≠ a := by
  rw [List.splitOn_eq_splitOnP] at hpiece
  have h := of_mem_splitOnP hpiece hc
  exact ⟨h.1, by simpa using h.2⟩

theorem cutFirst?_eq_some_iff {mark : Char} {t before rest : Text} :
    cutFirst? mark t = some (before, rest) ↔ t = before ++ mark :: rest ∧ mark ∉ before := by
  induction t generalizing before with
  | nil => simp [cutFirst?]
  | cons c cs ih =>
      by_cases hc : c = mark
      · subst hc
        rw [cutFirst?, if_pos rfl, Option.some.injEq, Prod.mk.injEq]
        constructor
        · rintro ⟨rfl, rfl⟩
          exact ⟨rfl, List.not_mem_nil⟩
        · rintro ⟨hsplit, hnot⟩
          cases before with
          | nil => exact ⟨rfl, (List.cons.inj hsplit).2⟩
          | cons d ds =>
              rw [List.cons_append, List.cons.injEq] at hsplit
              exact absurd (hsplit.1 ▸ List.mem_cons_self) hnot
      · rw [cutFirst?, if_neg hc, Option.map_eq_some_iff]
        constructor
        · rintro ⟨⟨front, back⟩, hcut, heq⟩
          obtain ⟨rfl, rfl⟩ := Prod.mk.inj heq
          obtain ⟨rfl, hnot⟩ := ih.mp hcut
          exact ⟨rfl, by simp [Ne.symm hc, hnot]⟩
        · rintro ⟨hsplit, hnot⟩
          cases before with
          | nil => exact absurd (List.cons.inj hsplit).1 hc
          | cons d ds =>
              obtain ⟨rfl, hrest⟩ := List.cons.inj hsplit
              exact ⟨(ds, rest), ih.mpr ⟨hrest, fun h => hnot (List.mem_cons_of_mem _ h)⟩, rfl⟩

theorem cutLast?_eq_some_iff {mark : Char} {t before rest : Text} :
    cutLast? mark t = some (before, rest) ↔ t = before ++ mark :: rest ∧ mark ∉ rest := by
  rw [cutLast?, Option.map_eq_some_iff]
  constructor
  · rintro ⟨⟨front, back⟩, hcut, heq⟩
    obtain ⟨rfl, rfl⟩ := Prod.mk.inj heq
    obtain ⟨hsplit, hnot⟩ := cutFirst?_eq_some_iff.mp hcut
    refine ⟨?_, by simpa using hnot⟩
    rw [← List.reverse_reverse t, hsplit]
    simp
  · rintro ⟨rfl, hnot⟩
    refine ⟨(rest.reverse, before.reverse), cutFirst?_eq_some_iff.mpr ⟨?_, by simpa using hnot⟩, ?_⟩
    · simp
    · simp

theorem cutFirst?_eq_none_iff {mark : Char} {t : Text} : cutFirst? mark t = none ↔ mark ∉ t := by
  induction t with
  | nil => simp [cutFirst?]
  | cons c cs ih =>
      by_cases hc : c = mark
      · simp [cutFirst?, hc]
      · simp [cutFirst?, hc, Ne.symm hc, ih]

theorem cutLast?_eq_none_iff {mark : Char} {t : Text} : cutLast? mark t = none ↔ mark ∉ t := by
  rw [cutLast?, Option.map_eq_none_iff, cutFirst?_eq_none_iff, List.mem_reverse]

theorem mem_joined {separator : Text} {ts : List Text} {c : Char} (h : c ∈ joined separator ts) :
    c ∈ separator ∨ ∃ t ∈ ts, c ∈ t := by
  induction ts with
  | nil => simp [joined] at h
  | cons t rest ih =>
      cases rest with
      | nil => exact Or.inr ⟨t, List.mem_cons_self, by simpa [joined] using h⟩
      | cons next rest =>
          rw [joined, List.intercalate_cons_cons] at h
          rcases List.mem_append.mp h with h | h
          · rcases List.mem_append.mp h with h | h
            · exact Or.inr ⟨t, List.mem_cons_self, h⟩
            · exact Or.inl h
          · rcases ih h with h | ⟨found, hfound, h⟩
            · exact Or.inl h
            · exact Or.inr ⟨found, List.mem_cons_of_mem _ hfound, h⟩

theorem mem_joined_of_mem {separator : Text} {ts : List Text} {t : Text} {c : Char} (ht : t ∈ ts)
    (hc : c ∈ t) : c ∈ joined separator ts := by
  induction ts with
  | nil => simp at ht
  | cons first rest ih =>
      cases rest with
      | nil => simpa [joined, List.mem_singleton.mp ht] using hc
      | cons next rest =>
          rw [joined, List.intercalate_cons_cons]
          rcases List.mem_cons.mp ht with rfl | ht
          · exact List.mem_append_left _ (List.mem_append_left _ hc)
          · exact List.mem_append_right _ (ih ht)

end MappingMarkers.Proofs.Splitting
