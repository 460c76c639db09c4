import MappingMarkers.Declaration
import MappingMarkers.Proofs.Reading

namespace MappingMarkers.Proofs.DeclarationGrammar

open Text Reading

section Grammar

/-- The line begins as a public member of this type, and `named` stands behind the type. -/
def Begins (line type named : Text) : Prop :=
  ∃ indent gap margin, Blank indent ∧ Blank gap ∧ gap ≠ [] ∧ Blank margin ∧ margin ≠ [] ∧
    type ≠ [] ∧ (∀ c ∈ type, isBlank c = false) ∧
    line = indent ++ ("public".toList ++ (gap ++ (type ++ (margin ++ named))))

def Accessors (t : Text) : Prop :=
  ∃ b₁ b₂ b₃ b₄ b₅, Blank b₁ ∧ Blank b₂ ∧ Blank b₃ ∧ Blank b₄ ∧ Blank b₅ ∧
    t = b₁ ++ (['{'] ++ (b₂ ++ ("get;".toList ++ (b₃ ++ ("set;".toList ++ (b₄ ++ (['}'] ++ b₅)))))))

def IsAsciiLetter (c : Char) : Prop := ('A' ≤ c ∧ c ≤ 'Z') ∨ ('a' ≤ c ∧ c ≤ 'z')

/-- The text begins with an ASCII letter or an underscore, and goes on with such characters and
digits. -/
def IsName (name : Text) : Prop :=
  ∃ first rest, name = first :: rest ∧ (IsAsciiLetter first ∨ first = '_') ∧
    ∀ c ∈ rest, IsAsciiLetter c ∨ ('0' ≤ c ∧ c ≤ '9') ∨ c = '_'

/-- The line declares a property of this name. -/
def Declares (line name : Text) : Prop :=
  ∃ type rest, Begins line type (name ++ rest) ∧ IsName name ∧ Accessors rest

end Grammar

section Names

theorem isAlpha_iff {c : Char} : c.isAlpha = true ↔ IsAsciiLetter c := by
  have hupper : c.isUpper = true ↔ 'A' ≤ c ∧ c ≤ 'Z' := decide_eq_true_iff
  have hlower : c.isLower = true ↔ 'a' ≤ c ∧ c ≤ 'z' := by
    change (decide ('a' ≤ c) && decide (c ≤ 'z')) = true ↔ _
    rw [Bool.and_eq_true, decide_eq_true_eq, decide_eq_true_eq]
  change (c.isUpper || c.isLower) = true ↔ _
  rw [Bool.or_eq_true, hupper, hlower, IsAsciiLetter]

theorem isNameStart_iff {c : Char} :
    Declaration.isNameStart c = true ↔ IsAsciiLetter c ∨ c = '_' := by
  simp [Declaration.isNameStart, isAlpha_iff]

theorem isNamePart_iff {c : Char} :
    Declaration.isNamePart c = true ↔ IsAsciiLetter c ∨ ('0' ≤ c ∧ c ≤ '9') ∨ c = '_' := by
  simp [Declaration.isNamePart, Char.isAlphanum, isAlpha_iff, Char.isDigit, Char.le_def, or_assoc]

theorem toNat_of_isNamePart {c : Char} (h : Declaration.isNamePart c = true) :
    48 ≤ c.toNat ∧ c.toNat ≤ 122 := by
  rw [isNamePart_iff] at h
  simp only [IsAsciiLetter, Char.le_def, UInt32.le_iff_toNat_le, Char.toNat_val] at h
  rcases h with (h | h) | h | rfl
  · change 65 ≤ c.toNat ∧ c.toNat ≤ 90 at h
    omega
  · change 97 ≤ c.toNat ∧ c.toNat ≤ 122 at h
    omega
  · change 48 ≤ c.toNat ∧ c.toNat ≤ 57 at h
    omega
  · decide

theorem toNat_of_isBlank {c : Char} (h : isBlank c = true) : c.toNat ≤ 32 ∨ 133 ≤ c.toNat := by
  simp only [isBlank, Bool.or_eq_true, Bool.and_eq_true, decide_eq_true_eq, beq_iff_eq] at h
  omega

theorem isNamePart_eq_false {c : Char} (h : isBlank c = true ∨ c = '{') :
    Declaration.isNamePart c = false := by
  rcases h with h | rfl
  · rw [Bool.eq_false_iff]
    intro hpart
    have hrange := toNat_of_isNamePart hpart
    have hblank := toNat_of_isBlank h
    omega
  · decide

theorem isBlank_eq_false_of_isNamePart {c : Char} (h : Declaration.isNamePart c = true) :
    isBlank c = false := by
  rw [Bool.eq_false_iff]
  intro hblank
  rw [isNamePart_eq_false (Or.inl hblank)] at h
  contradiction

theorem IsName.isNamePart {name : Text} (h : IsName name) :
    ∀ c ∈ name, Declaration.isNamePart c = true := by
  obtain ⟨first, rest, rfl, hfirst, hrest⟩ := h
  simp only [isNamePart_iff]
  exact List.forall_mem_cons.mpr ⟨hfirst.imp_right Or.inr, hrest⟩

theorem isName_takeWhile_iff {t : Text} :
    IsName (t.takeWhile Declaration.isNamePart) ↔
      (t.takeWhile Declaration.isNamePart).head?.any Declaration.isNameStart = true := by
  constructor
  · rintro ⟨first, rest, hname, hfirst, -⟩
    simpa [hname] using isNameStart_iff.mpr hfirst
  · intro h
    cases hname : t.takeWhile Declaration.isNamePart with
    | nil => simp [hname] at h
    | cons first rest =>
        rw [hname] at h
        refine ⟨first, rest, rfl, isNameStart_iff.mp (by simpa using h), fun c hc => ?_⟩
        have hmem : c ∈ t.takeWhile Declaration.isNamePart := by simp [hname, hc]
        exact isNamePart_iff.mp (List.mem_takeWhile_imp hmem)

end Names

section Readers

theorem head?_eq_some_iff {line type named : Text} :
    Declaration.head? line = some (type, named) ↔
      Begins line type named ∧ skipBlanks named = named := by
  simp only [Declaration.head?, Option.bind_eq_bind, Option.bind_eq_some_iff, Option.pure_def,
    Option.some.injEq, Prod.mk.injEq, afterBlanks?_eq_some_iff,
    after?_skipBlanks_iff ("public".toList) (by decide)]
  constructor
  · rintro ⟨_, ⟨indent, hindent, rfl⟩, typed, ⟨gap, hgap, hgapne, rfl, htyped⟩, _,
      ⟨margin, hmargin, hmarginne, hsplit, hnamed⟩, rfl, rfl⟩
    have hwhole := List.takeWhile_append_dropWhile (p := (!isBlank ·)) (l := typed)
    rw [hsplit] at hwhole
    refine ⟨⟨indent, gap, margin, hindent, hgap, hgapne, hmargin, hmarginne, fun hnil => ?_,
      fun c hc => by simpa using List.mem_takeWhile_imp hc, by rw [hwhole]⟩, hnamed⟩
    -- Without a type the white space behind it would belong to the white space in front of it.
    rw [hnil, List.nil_append] at hwhole
    rw [← hwhole, hmargin.skipBlanks_append, hnamed] at htyped
    exact hmarginne (List.self_eq_append_left.mp htyped)
  · rintro ⟨⟨indent, gap, margin, hindent, hgap, hgapne, hmargin, hmarginne, htypene, hplain, rfl⟩,
      hnamed⟩
    have hmarginstop : (margin ++ named).takeWhile (!isBlank ·) = [] := by
      obtain ⟨c, cs, rfl⟩ := List.exists_cons_of_ne_nil hmarginne
      exact List.takeWhile_cons_of_neg (by simp [hmargin c List.mem_cons_self])
    obtain ⟨htake, hdrop⟩ :=
      span_append (p := (!isBlank ·)) (fun c hc => by simp [hplain c hc]) hmarginstop
    have htyped : skipBlanks (type ++ (margin ++ named)) = type ++ (margin ++ named) := by
      obtain ⟨c, cs, rfl⟩ := List.exists_cons_of_ne_nil htypene
      exact skipBlanks_append_of_head (by simp [hplain c List.mem_cons_self]) _
    exact ⟨_, ⟨indent, hindent, rfl⟩, type ++ (margin ++ named), ⟨gap, hgap, hgapne, rfl, htyped⟩,
      named, ⟨margin, hmargin, hmarginne, hdrop, hnamed⟩, htake, rfl⟩

theorem isAccessors_iff {t : Text} : Declaration.isAccessors t = true ↔ Accessors t := by
  simp only [Declaration.isAccessors, Option.any_eq_true, Option.bind_eq_bind,
    Option.bind_eq_some_iff, List.all_eq_true,
    after?_skipBlanks_iff ['{'] (by decide),
    after?_skipBlanks_iff ("get;".toList) (by decide),
    after?_skipBlanks_iff ("set;".toList) (by decide),
    after?_skipBlanks_iff ['}'] (by decide)]
  constructor
  · rintro ⟨b₅, ⟨_, ⟨b₁, h₁, rfl⟩, _, ⟨b₂, h₂, rfl⟩, _, ⟨b₃, h₃, rfl⟩, b₄, h₄, rfl⟩, h₅⟩
    exact ⟨b₁, b₂, b₃, b₄, b₅, h₁, h₂, h₃, h₄, h₅, rfl⟩
  · rintro ⟨b₁, b₂, b₃, b₄, b₅, h₁, h₂, h₃, h₄, h₅, rfl⟩
    exact ⟨b₅, ⟨_, ⟨b₁, h₁, rfl⟩, _, ⟨b₂, h₂, rfl⟩, _, ⟨b₃, h₃, rfl⟩, b₄, h₄, rfl⟩, h₅⟩

theorem takeWhile_name {name rest : Text} (hname : IsName name) (hrest : Accessors rest) :
    (name ++ rest).takeWhile Declaration.isNamePart = name ∧
      (name ++ rest).dropWhile Declaration.isNamePart = rest := by
  obtain ⟨b₁, _, _, _, _, h₁, -, -, -, -, rfl⟩ := hrest
  refine span_append hname.isNamePart (takeWhile_blank_mark (fun c hc => ?_) h₁ ?_ _)
  · exact isNamePart_eq_false (Or.inl hc)
  · exact isNamePart_eq_false (Or.inr rfl)

theorem skipBlanks_name {name : Text} (hname : IsName name) (rest : Text) :
    skipBlanks (name ++ rest) = name ++ rest := by
  have hpart := hname.isNamePart
  obtain ⟨first, others, rfl, -, -⟩ := hname
  have hfirst := isBlank_eq_false_of_isNamePart (hpart first List.mem_cons_self)
  exact skipBlanks_append_of_head (by simp [hfirst]) rest

theorem property?_eq_some_iff {line name : Text} :
    Declaration.property? line = some name ↔ Declares line name := by
  simp only [Declaration.property?, Option.bind_eq_bind, Option.bind_eq_some_iff, Prod.exists,
    head?_eq_some_iff, Option.ite_none_right_eq_some, Option.some.injEq, Bool.and_eq_true,
    ← isName_takeWhile_iff, isAccessors_iff]
  constructor
  · rintro ⟨type, named, ⟨hbegins, -⟩, ⟨hname, haccessors⟩, rfl⟩
    refine ⟨type, _, ?_, hname, haccessors⟩
    rwa [List.takeWhile_append_dropWhile]
  · rintro ⟨type, rest, hbegins, hname, haccessors⟩
    obtain ⟨htake, hdrop⟩ := takeWhile_name hname haccessors
    refine ⟨type, name ++ rest, ⟨hbegins, skipBlanks_name hname rest⟩, ?_, htake⟩
    rw [htake, hdrop]
    exact ⟨hname, haccessors⟩

end Readers

section Index

theorem index_concat (lines : List Text) (line : Text) :
    Declaration.index (lines ++ [line]) =
      ((Declaration.property? line).map fun name => (lower name, lines.length)).toList ++
        Declaration.index lines := by
  simp only [Declaration.index, List.zipIdx_append, List.filterMap_append, List.reverse_append]
  cases h : Declaration.property? line <;> simp [h]

theorem lookup_index_concat (lines : List Text) (line key : Text) :
    (Declaration.index (lines ++ [line])).lookup key =
      if (Declaration.property? line).map lower = some key then some lines.length
      else (Declaration.index lines).lookup key := by
  rw [index_concat]
  cases h : Declaration.property? line with
  | none => rfl
  | some name =>
      by_cases hkey : lower name = key
      · simp [hkey]
      · have hne : (key == lower name) = false := beq_false_of_ne (Ne.symm hkey)
        simp [List.lookup_cons, hkey, hne]

/-- The line declares a property with a name that has this form in small letters. -/
def Answers (key line : Text) : Prop :=
  ∃ name, Declares line name ∧ lower name = key

theorem map_lower_property?_eq_some_iff {key line : Text} :
    (Declaration.property? line).map lower = some key ↔ Answers key line := by
  simp only [Option.map_eq_some_iff, property?_eq_some_iff, Answers]

theorem getElem?_concat_of_ne {lines : List Text} {last line : Text} (h : line ≠ last) (i : Nat) :
    (lines ++ [last])[i]? = some line ↔ lines[i]? = some line := by
  rcases Nat.lt_or_ge i lines.length with hi | hi
  · rw [List.getElem?_append_left hi]
  · simp [List.getElem?_append_right hi, List.getElem?_singleton, hi, h.symm]

/-- A key is found in the last line that answers to it. The lines are taken from the back, since the
entry of the last one stands first in the index. -/
theorem lookup_index_eq_some_iff {lines : List Text} {key : Text} {i : Nat} :
    (Declaration.index lines).lookup key = some i ↔
      (∃ line, lines[i]? = some line ∧ Answers key line) ∧
        ∀ j line, i < j → lines[j]? = some line → ¬ Answers key line := by
  induction lines using List.reverseRecOn with
  | nil => simp [Declaration.index]
  | append_singleton lines last ih =>
      rw [lookup_index_concat]
      by_cases hlast : Answers key last
      · rw [if_pos (map_lower_property?_eq_some_iff.mpr hlast), Option.some.injEq]
        constructor
        · rintro rfl
          refine ⟨⟨last, by simp, hlast⟩, fun j line hj hline => ?_⟩
          rw [List.getElem?_eq_none (by simp; omega)] at hline
          contradiction
        · rintro ⟨⟨line, hline, -⟩, hlater⟩
          have hbound := (List.getElem?_eq_some_iff.mp hline).1
          rw [List.length_append, List.length_singleton] at hbound
          by_contra hne
          exact hlater lines.length last (by omega) (by simp) hlast
      · rw [if_neg (mt map_lower_property?_eq_some_iff.mp hlast), ih]
        -- The last line does not answer, and so the answering lines are those before it.
        have hother {line : Text} (hline : Answers key line) (j : Nat) :
            (lines ++ [last])[j]? = some line ↔ lines[j]? = some line := by
          refine getElem?_concat_of_ne ?_ j
          rintro rfl
          exact hlast hline
        refine and_congr ?_ ?_
        · exact exists_congr fun line => and_congr_left fun hline => (hother hline i).symm
        · refine forall_congr' fun j => forall_congr' fun line => imp_congr_right fun _ => ?_
          rw [imp_not_comm, imp_not_comm (a := _ = _)]
          exact imp_congr_right fun hline => not_congr (hother hline j).symm

end Index

/-- A name is found in the last line of the grammar that declares it, whatever the case of its
letters. The grammar leaves no choice of the name in a line, and the reader finds just that name. -/
theorem lookup_index_iff (lines : List Text) (key : Text) (i : Nat) :
    ((Declaration.index lines).lookup key = some i ↔
      (∃ line name, lines[i]? = some line ∧ Declares line name ∧ lower name = key) ∧
        ∀ j line name, i < j → lines[j]? = some line → Declares line name → lower name ≠ key) ∧
    (∀ line name name', Declares line name → Declares line name' → name = name') ∧
    ∀ line name, Declaration.property? line = some name ↔ Declares line name := by
  refine ⟨?_, ?_, fun line name => property?_eq_some_iff⟩
  · rw [lookup_index_eq_some_iff]
    simp only [Answers, not_exists, not_and, exists_and_left, ne_eq]
    refine and_congr_right fun _ => forall_congr' fun j => forall_congr' fun line => ?_
    exact ⟨fun h name hj hline => h hj hline name, fun h hj hline name => h name hj hline⟩
  · intro line name name' hname hname'
    have hread := property?_eq_some_iff.mpr hname
    rw [property?_eq_some_iff.mpr hname', Option.some.injEq] at hread
    exact hread.symm

end MappingMarkers.Proofs.DeclarationGrammar
