import Mathlib.Data.List.DropRight
import Mathlib.Data.List.Forall2
import Mathlib.Data.Nat.Find
import MappingMarkers.Text.Case

namespace MappingMarkers.Proofs.Reading

open Text

def Blank (t : Text) : Prop := ∀ c ∈ t, isBlank c = true

instance (t : Text) : Decidable (Blank t) := List.decidableBAll _ t

/-- The text is the word, in whatever case its letters are. -/
def Spells (word t : Text) : Prop := List.Forall₂ (fun w c => isLetter w c = true) word t

instance (word t : Text) : Decidable (Spells word t) :=
  inferInstanceAs (Decidable (List.Forall₂ _ word t))

theorem blank_nil : Blank [] := fun _ h => absurd h List.not_mem_nil

theorem blank_space : Blank " ".toList := by decide

section Beginnings

theorem after?_eq_some_iff {head t rest : Text} : after? head t = some rest ↔ t = head ++ rest := by
  induction head generalizing t with
  | nil => simp [after?, eq_comm]
  | cons h hs ih =>
      cases t with
      | nil => simp [after?]
      | cons c cs =>
          rw [after?, Option.ite_none_right_eq_some, ih, List.cons_append, List.cons.injEq,
            eq_comm (a := h)]

theorem after?_append {head t rest : Text} (h : after? head t = some rest) (more : Text) :
    after? head (t ++ more) = some (rest ++ more) := by
  rw [after?_eq_some_iff] at h ⊢
  rw [h, List.append_assoc]

theorem suffix_of_after? {head t rest : Text} (h : after? head t = some rest) : rest <:+ t := by
  rw [after?_eq_some_iff.mp h]
  exact List.suffix_append _ _

theorem afterWord?_eq_some_iff {word t rest : Text} :
    afterWord? word t = some rest ↔ ∃ w, Spells word w ∧ t = w ++ rest := by
  induction word generalizing t with
  | nil => simp [afterWord?, Spells]
  | cons l ls ih =>
      constructor
      · intro h
        cases t with
        | nil => contradiction
        | cons c cs =>
            rw [afterWord?, Option.ite_none_right_eq_some] at h
            obtain ⟨w, hw, rfl⟩ := ih.mp h.2
            exact ⟨c :: w, .cons h.1 hw, rfl⟩
      · rintro ⟨w, hw, rfl⟩
        cases hw with
        | cons hc hw =>
            rw [List.cons_append, afterWord?, if_pos hc]
            exact ih.mpr ⟨_, hw, rfl⟩

theorem afterWord?_append {word t rest : Text} (h : afterWord? word t = some rest) (more : Text) :
    afterWord? word (t ++ more) = some (rest ++ more) := by
  obtain ⟨w, hw, rfl⟩ := afterWord?_eq_some_iff.mp h
  exact afterWord?_eq_some_iff.mpr ⟨w, hw, List.append_assoc _ _ _⟩

theorem suffix_of_afterWord? {word t rest : Text} (h : afterWord? word t = some rest) :
    rest <:+ t := by
  obtain ⟨w, -, rfl⟩ := afterWord?_eq_some_iff.mp h
  exact List.suffix_append _ _

end Beginnings

section WhiteSpace

theorem Blank.append {t u : Text} (ht : Blank t) (hu : Blank u) : Blank (t ++ u) :=
  List.forall_mem_append.mpr ⟨ht, hu⟩

theorem Blank.skipBlanks_append {blanks : Text} (h : Blank blanks) (t : Text) :
    skipBlanks (blanks ++ t) = skipBlanks t :=
  List.dropWhile_append_of_pos h

theorem skipBlanks_cons {c : Char} (h : isBlank c = false) (t : Text) :
    skipBlanks (c :: t) = c :: t :=
  List.dropWhile_cons_of_neg (by simp [h])

theorem exists_blanks (t : Text) : ∃ blanks, Blank blanks ∧ t = blanks ++ skipBlanks t :=
  ⟨indent t, fun _ => List.mem_takeWhile_imp, List.takeWhile_append_dropWhile.symm⟩

theorem skipBlanks_suffix (t : Text) : skipBlanks t <:+ t := List.dropWhile_suffix _

theorem skipBlanks_append {t : Text} (h : skipBlanks t ≠ []) (more : Text) :
    skipBlanks (t ++ more) = skipBlanks t ++ more := by
  have hleft : ¬ (t.dropWhile isBlank).isEmpty = true := fun hempty =>
    h (List.isEmpty_iff.mp hempty)
  rw [skipBlanks, List.dropWhile_append, if_neg hleft]
  rfl

theorem skipBlanks_ne_nil {t rest : Text} {c : Char} (h : after? [c] (skipBlanks t) = some rest) :
    skipBlanks t ≠ [] := by
  rw [after?_eq_some_iff.mp h]
  exact List.cons_ne_nil _ _

theorem skipBlanks_append_of_head {head : Text} (h : head.head?.any (!isBlank ·) = true)
    (t : Text) : skipBlanks (head ++ t) = head ++ t := by
  cases head with
  | nil => contradiction
  | cons c cs => exact skipBlanks_cons (by simpa using h) (cs ++ t)

theorem after?_skipBlanks_iff (head : Text) {t rest : Text}
    (h : head.head?.any (!isBlank ·) = true) :
    after? head (skipBlanks t) = some rest ↔
      ∃ blanks, Blank blanks ∧ t = blanks ++ (head ++ rest) := by
  constructor
  · intro hafter
    obtain ⟨blanks, hblanks, ht⟩ := exists_blanks t
    exact ⟨blanks, hblanks, by rwa [after?_eq_some_iff.mp hafter] at ht⟩
  · rintro ⟨blanks, hblanks, rfl⟩
    rw [hblanks.skipBlanks_append, skipBlanks_append_of_head h]
    exact after?_eq_some_iff.mpr rfl

theorem afterBlanks?_eq_some_iff {t rest : Text} :
    afterBlanks? t = some rest ↔
      ∃ blanks, Blank blanks ∧ blanks ≠ [] ∧ t = blanks ++ rest ∧ skipBlanks rest = rest := by
  constructor
  · intro h
    cases t with
    | nil => contradiction
    | cons c cs =>
        rw [afterBlanks?, Option.ite_none_right_eq_some] at h
        obtain ⟨hc, hrest⟩ := h
        obtain rfl : skipBlanks cs = rest := Option.some.inj hrest
        obtain ⟨blanks, hblanks, hcs⟩ := exists_blanks cs
        refine ⟨c :: blanks, List.forall_mem_cons.mpr ⟨hc, hblanks⟩, List.cons_ne_nil _ _, ?_, ?_⟩
        · rw [List.cons_append, ← hcs]
        · exact List.dropWhile_idempotent _ cs
  · rintro ⟨blanks, hblanks, hne, rfl, hrest⟩
    obtain ⟨c, cs, rfl⟩ := List.exists_cons_of_ne_nil hne
    obtain ⟨hc, hcs⟩ := List.forall_mem_cons.mp hblanks
    rw [List.cons_append, afterBlanks?, if_pos hc, Blank.skipBlanks_append hcs, hrest]

end WhiteSpace

section Runs

variable {p : Char → Bool} {front rest : Text}

theorem span_append (hfront : ∀ c ∈ front, p c = true) (hrest : rest.takeWhile p = []) :
    (front ++ rest).takeWhile p = front ∧ (front ++ rest).dropWhile p = rest := by
  have hdrop := List.takeWhile_append_dropWhile (p := p) (l := rest)
  rw [hrest, List.nil_append] at hdrop
  rw [List.takeWhile_append_of_pos hfront, List.dropWhile_append_of_pos hfront, hrest, hdrop]
  exact ⟨List.append_nil _, rfl⟩

theorem takeWhile_blank_mark (hp : ∀ c, isBlank c = true → p c = false) {blanks : Text}
    (hblanks : Blank blanks) {mark : Char} (hmark : p mark = false) (t : Text) :
    (blanks ++ mark :: t).takeWhile p = [] := by
  cases blanks with
  | nil => exact List.takeWhile_cons_of_neg (by simp [hmark])
  | cons c cs =>
      exact List.takeWhile_cons_of_neg (by simp [hp c (hblanks c List.mem_cons_self)])

end Runs

section FirstPlace

variable {α β : Type} {read? : Text → Option β} {text : α → Text} {t front rest : Text} {a : α}

theorem findFirst?_append_of_none {front : Text}
    (h : ∀ u, u <:+ front → u ≠ [] → read? (u ++ t) = none) :
    findFirst? read? (front ++ t) = findFirst? read? t := by
  induction front with
  | nil => rfl
  | cons c cs ih =>
      have hfirst := h _ List.suffix_rfl (List.cons_ne_nil _ _)
      rw [List.cons_append] at hfirst ⊢
      rw [findFirst?, hfirst, Option.none_or]
      exact ih fun u hu => h u (hu.trans (List.suffix_cons _ _))

theorem findFirst?_of_eq_some {b : β} (h : read? t = some b) : findFirst? read? t = some b := by
  cases t with
  | nil => exact h
  | cons c cs => rw [findFirst?, h, Option.some_or]

theorem findFirst?_eq_none_iff :
    findFirst? read? t = none ↔ ∀ tail, tail <:+ t → read? tail = none := by
  induction t with
  | nil => simp [findFirst?]
  | cons c cs ih => simp [findFirst?, Option.or_eq_none_iff, ih, List.suffix_cons_iff]

theorem exists_of_findFirst? {b : β} (h : findFirst? read? t = some b) :
    ∃ front tail, t = front ++ tail ∧ read? tail = some b ∧
      ∀ u, u <:+ front → u ≠ [] → read? (u ++ tail) = none := by
  induction t with
  | nil => exact ⟨[], [], rfl, h, fun u hu hne => absurd (List.suffix_nil.mp hu) hne⟩
  | cons c cs ih =>
      rw [findFirst?, Option.or_eq_some_iff] at h
      rcases h with h | ⟨hnone, h⟩
      · exact ⟨[], c :: cs, rfl, h, fun u hu hne => absurd (List.suffix_nil.mp hu) hne⟩
      · obtain ⟨front, tail, rfl, hread, hearlier⟩ := ih h
        refine ⟨c :: front, tail, rfl, hread, fun u hu hne => ?_⟩
        rcases List.suffix_cons_iff.mp hu with rfl | hu
        · exact hnone
        · exact hearlier u hu hne

/-- One of some pieces of text stands behind `front`, and none of them begins further to the
left. -/
structure FirstIn (text : α → Text) (content front : Text) (a : α) (rest : Text) : Prop where
  split : content = front ++ (text a ++ rest)
  first : ∀ front' a' rest', content = front' ++ (text a' ++ rest') →
    front.length ≤ front'.length

theorem FirstIn.ne_of_suffix {content : Text} (h : FirstIn text content front a rest) {u : Text}
    (hu : u <:+ front) (hne : u ≠ []) (a' : α) (rest' : Text) :
    u ++ (text a ++ rest) ≠ text a' ++ rest' := by
  obtain ⟨start, rfl⟩ := hu
  intro heq
  have hlength := h.first start a' rest' (by rw [h.split, List.append_assoc, heq])
  have hpos := List.length_pos_of_ne_nil hne
  rw [List.length_append] at hlength
  omega

theorem none_or_exists_first (text : α → Text) (content : Text) :
    (∀ front a rest, content ≠ front ++ (text a ++ rest)) ∨
      ∃ front a rest, FirstIn text content front a rest := by
  classical
  by_cases h : ∃ n front a rest, front.length = n ∧ content = front ++ (text a ++ rest)
  · obtain ⟨front, a, rest, hlength, hsplit⟩ := Nat.find_spec h
    refine Or.inr ⟨front, a, rest, hsplit, fun front' a' rest' hsplit' => ?_⟩
    rw [hlength]
    exact Nat.find_min' h ⟨front', a', rest', rfl, hsplit'⟩
  · exact Or.inl fun front a rest hsplit => h ⟨_, front, a, rest, rfl, hsplit⟩

/-- A reader of certain pieces, tried from the left, reads the first of them. -/
theorem findFirst?_eq_some_iff {result : α → Text → β}
    (hread : ∀ t b, read? t = some b ↔ ∃ a rest, t = text a ++ rest ∧ result a rest = b) {b : β} :
    findFirst? read? t = some b ↔
      ∃ front a rest, FirstIn text t front a rest ∧ result a rest = b := by
  constructor
  · intro h
    obtain ⟨front, tail, rfl, hfound, hearlier⟩ := exists_of_findFirst? h
    obtain ⟨a, rest, rfl, hresult⟩ := (hread _ _).mp hfound
    refine ⟨front, a, rest, ⟨rfl, fun front' a' rest' hsplit => ?_⟩, hresult⟩
    rcases List.append_eq_append_iff.mp hsplit with ⟨more, rfl, -⟩ | ⟨more, rfl, hmore⟩
    · simp
    · by_contra hshort
      have hne : more ≠ [] := by
        rintro rfl
        simp at hshort
      have hnone := hearlier more (List.suffix_append _ _) hne
      rw [← hmore, (hread _ _).mpr ⟨a', rest', rfl, rfl⟩] at hnone
      contradiction
  · rintro ⟨front, a, rest, h, hresult⟩
    rw [h.split, findFirst?_append_of_none]
    · exact findFirst?_of_eq_some ((hread _ _).mpr ⟨a, rest, rfl, hresult⟩)
    · intro u hu hne
      rw [Option.eq_none_iff_forall_ne_some]
      intro b hb
      obtain ⟨a', rest', hsplit, -⟩ := (hread _ _).mp hb
      exact h.ne_of_suffix hu hne a' rest' hsplit

end FirstPlace

end MappingMarkers.Proofs.Reading
