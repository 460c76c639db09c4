import MappingMarkers.Proofs.Splitting
import MappingMarkers.Text.Lines

namespace MappingMarkers.Proofs.Lines

open Text Splitting

/-- The text has no line end inside. -/
def Unbroken (t : Text) : Prop := '\r' ∉ t ∧ '\n' ∉ t

instance (t : Text) : Decidable (Unbroken t) := inferInstanceAs (Decidable (_ ∧ _))

theorem Unbroken.append {t u : Text} (ht : Unbroken t) (hu : Unbroken u) : Unbroken (t ++ u) := by
  simp only [Unbroken, List.mem_append, not_or]
  exact ⟨⟨ht.1, hu.1⟩, ht.2, hu.2⟩

theorem Unbroken.of_subset {t u : Text} (hu : Unbroken u) (h : t ⊆ u) : Unbroken t :=
  ⟨fun hr => hu.1 (h hr), fun hn => hu.2 (h hn)⟩

theorem mergePairs_append {t u : Text} (h : '\r' ∉ t) :
    mergePairs (t ++ u) = t ++ mergePairs u := by
  induction t with
  | nil => rfl
  | cons c cs ih =>
      have hc : c ≠ '\r' := fun e => h (e ▸ List.mem_cons_self)
      have hcs : '\r' ∉ cs := fun m => h (List.mem_cons_of_mem _ m)
      rw [List.cons_append, mergePairs.eq_3 _ _ (fun _ e => absurd e hc), ih hcs]
      rfl

/-- A line feed keeps what follows it apart, also when it is merged with a carriage return. -/
theorem exists_mergePairs_append_feed (t u : Text) :
    ∃ front, mergePairs (t ++ '\n' :: u) = front ++ '\n' :: mergePairs u := by
  fun_induction mergePairs t with
  | case1 => exact ⟨[], mergePairs_append (t := ['\n']) (by decide)⟩
  | case2 cs ih =>
      obtain ⟨front, hfront⟩ := ih
      exact ⟨'\n' :: front, by simp [mergePairs, hfront]⟩
  | case3 c cs hpair ih =>
      obtain ⟨front, hfront⟩ := ih
      by_cases h : c = '\r' ∧ cs = []
      · obtain ⟨rfl, rfl⟩ := h
        exact ⟨[], by simp [mergePairs]⟩
      · refine ⟨c :: front, ?_⟩
        rw [List.cons_append, mergePairs.eq_3, hfront, List.cons_append]
        rintro rest rfl hrest
        cases cs with
        | nil => exact h ⟨rfl, rfl⟩
        | cons d ds => exact hpair ds rfl (by simp_all)

theorem feedReturns_append (t u : Text) : feedReturns (t ++ u) = feedReturns t ++ feedReturns u :=
  List.map_append

theorem feedReturns_eq_self {t : Text} (h : '\r' ∉ t) : feedReturns t = t := by
  refine (List.map_congr_left fun c hc => ?_).trans (List.map_id t)
  have hne : c ≠ '\r' := fun e => h (e ▸ hc)
  rw [if_neg hne]
  rfl

theorem return_notMem_feedReturns (t : Text) : '\r' ∉ feedReturns t := by
  simp only [feedReturns, List.mem_map, not_exists, not_and]
  intro c _ h
  split at h
  · exact absurd h (by decide)
  · contradiction

theorem unbroken_of_mem_splitLines {content line : Text} (h : line ∈ splitLines content) :
    Unbroken line := by
  constructor
  · intro hr
    exact return_notMem_feedReturns _ (of_mem_splitOn h hr).1
  · intro hn
    exact (of_mem_splitOn h hn).2 rfl

theorem splitLines_ne_nil (content : Text) : splitLines content ≠ [] :=
  List.splitOn_ne_nil _ _

theorem splitLines_of_unbroken {line : Text} (h : Unbroken line) : splitLines line = [line] := by
  have hmerged : mergePairs line = line := by
    simpa [mergePairs] using mergePairs_append (u := []) h.1
  rw [splitLines, hmerged, feedReturns_eq_self h.1, List.splitOn_eq_singleton h.2]

theorem splitLines_append_end {line t rest : Text} (h : Unbroken line)
    (ht : feedReturns (mergePairs t) = '\n' :: feedReturns (mergePairs rest)) :
    splitLines (line ++ t) = line :: splitLines rest := by
  rw [splitLines, mergePairs_append h.1, feedReturns_append, feedReturns_eq_self h.1, ht,
    List.splitOn_append_cons_self_of_not_mem h.2]
  rfl

theorem splitLines_append_feed {line : Text} (h : Unbroken line) (rest : Text) :
    splitLines (line ++ '\n' :: rest) = line :: splitLines rest :=
  splitLines_append_end h rfl

theorem exists_splitLines_append_feed (t rest : Text) :
    ∃ front, splitLines (t ++ '\n' :: rest) = front ++ splitLines rest := by
  obtain ⟨front, hfront⟩ := exists_mergePairs_append_feed t rest
  have hfed : feedReturns ('\n' :: mergePairs rest) = '\n' :: feedReturns (mergePairs rest) := rfl
  refine ⟨(feedReturns front).splitOn '\n', ?_⟩
  rw [splitLines, hfront, feedReturns_append, hfed, List.splitOn_append_cons_self]
  rfl

theorem joinLines_cons_cons (line next : Text) (rest : List Text) :
    joinLines (line :: next :: rest) = line ++ '\n' :: joinLines (next :: rest) := by
  simp [joinLines, joined, List.intercalate_cons_cons]

theorem splitLines_joinLines {lines : List Text} (hne : lines ≠ [])
    (h : ∀ line ∈ lines, Unbroken line) : splitLines (joinLines lines) = lines := by
  induction lines with
  | nil => contradiction
  | cons line rest ih =>
      have hline := h line List.mem_cons_self
      have hrest : ∀ line ∈ rest, Unbroken line := fun l hl => h l (List.mem_cons_of_mem _ hl)
      cases rest with
      | nil => simpa [joinLines, joined] using splitLines_of_unbroken hline
      | cons next rest =>
          rw [joinLines_cons_cons, splitLines_append_feed hline, ih (by simp) hrest]

theorem mem_splitLines_joinLines {lines : List Text} {line : Text} (hmem : line ∈ lines)
    (hline : Unbroken line) : line ∈ splitLines (joinLines lines) := by
  induction lines with
  | nil => simp at hmem
  | cons first rest ih =>
      cases rest with
      | nil =>
          obtain rfl : line = first := by simpa using hmem
          simp [joinLines, joined, splitLines_of_unbroken hline]
      | cons next rest =>
          rw [joinLines_cons_cons]
          rcases List.mem_cons.mp hmem with rfl | hmem
          · rw [splitLines_append_feed hline]
            exact List.mem_cons_self
          · obtain ⟨front, hfront⟩ :=
              exists_splitLines_append_feed first (joinLines (next :: rest))
            rw [hfront]
            exact List.mem_append_right _ (ih hmem)

def lineEnds : List Text := [['\n'], ['\r'], ['\r', '\n']]

/-- The text is made of these lines, with some line end between each two of them. -/
inductive MadeOf : Text → List Text → Prop
  | last {line : Text} (hline : Unbroken line) : MadeOf line [line]
  | next {line mark rest : Text} {lines : List Text} (hline : Unbroken line)
      (hmark : mark ∈ lineEnds) (hrest : MadeOf rest lines) :
      MadeOf (line ++ (mark ++ rest)) (line :: lines)

theorem unbroken_or_exists_lineEnd (t : Text) :
    Unbroken t ∨ ∃ line mark rest, t = line ++ (mark ++ rest) ∧ Unbroken line ∧ mark ∈ lineEnds ∧
      feedReturns (mergePairs (mark ++ rest)) = '\n' :: feedReturns (mergePairs rest) := by
  fun_induction mergePairs t with
  | case1 => exact Or.inl (by decide)
  | case2 cs _ =>
      refine Or.inr ⟨[], ['\r', '\n'], cs, rfl, by decide, by decide, ?_⟩
      simp [mergePairs, feedReturns]
  | case3 c cs hpair ih =>
      by_cases hc : c = '\r' ∨ c = '\n'
      · refine Or.inr ⟨[], [c], cs, rfl, by decide, ?_, ?_⟩
        · rcases hc with rfl | rfl <;> decide
        · rw [List.singleton_append, mergePairs.eq_3 _ _ hpair]
          rcases hc with rfl | rfl <;> rfl
      · obtain ⟨hr, hn⟩ := not_or.mp hc
        have hfirst : Unbroken [c] := ⟨by simpa using Ne.symm hr, by simpa using Ne.symm hn⟩
        rcases ih with hcs | ⟨line, mark, rest, rfl, hline, hmark, hend⟩
        · exact Or.inl (hfirst.append hcs)
        · exact Or.inr ⟨c :: line, mark, rest, rfl, hfirst.append hline, hmark, hend⟩

theorem madeOf_splitLines (content : Text) : MadeOf content (splitLines content) := by
  induction hlength : content.length using Nat.strongRecOn generalizing content with
  | _ n ih =>
      rcases unbroken_or_exists_lineEnd content with
        hline | ⟨line, mark, rest, rfl, hline, hmark, hend⟩
      · rw [splitLines_of_unbroken hline]
        exact .last hline
      · have hpos : ∀ m ∈ lineEnds, 0 < m.length := by decide
        have hshorter := hpos mark hmark
        simp only [List.length_append] at hlength
        rw [splitLines_append_end hline hend]
        exact .next hline hmark (ih rest.length (by omega) rest rfl)

theorem madeOf_joinLines {lines : List Text} (hne : lines ≠ [])
    (h : ∀ line ∈ lines, Unbroken line) : MadeOf (joinLines lines) lines := by
  have hmade := madeOf_splitLines (joinLines lines)
  rwa [splitLines_joinLines hne h] at hmade

end MappingMarkers.Proofs.Lines
