import MappingMarkers.Proofs.DeclarationGrammar
import MappingMarkers.Proofs.PascalForm

namespace MappingMarkers.Proofs.NavigationGrammar

open Text Reading DeclarationGrammar

section Grammar

/-- The line declares a property of this type and name. -/
def DeclaresAs (line type name : Text) : Prop :=
  ∃ rest, Begins line type (name ++ rest) ∧ IsName name ∧ Accessors rest

/-- The line declares a public member that has the type, with or without a question mark behind it,
for its type and again for its name. No character of the type has a meaning of its own. -/
def Navigates (type line : Text) : Prop :=
  ∃ indent gap mark margin rest, Blank indent ∧ Blank gap ∧ gap ≠ [] ∧ (mark = [] ∨ mark = ['?']) ∧
    Blank margin ∧ margin ≠ [] ∧ Accessors rest ∧
    line = indent ++ ("public".toList ++ (gap ++ (type ++ mark ++ (margin ++ (type ++ rest)))))

/-- The line declares a property whose name is the type, and whose type is it or its nullable
form. -/
def DeclaresOwn (type line : Text) : Prop :=
  DeclaresAs line type type ∨ DeclaresAs line (type ++ ['?']) type

/-- Line `i` has the property, and no line before it has. -/
def IsFirst (p : Text → Prop) (lines : List Text) (i : Nat) : Prop :=
  (∃ line, lines[i]? = some line ∧ p line) ∧ ∀ j line, j < i → lines[j]? = some line → ¬ p line

theorem IsFirst.congr {p q : Text → Prop} (h : ∀ line, p line ↔ q line) (lines : List Text)
    (i : Nat) : IsFirst p lines i ↔ IsFirst q lines i := by
  simp only [IsFirst, h]

theorem findIdx?_eq_some_iff {p : Text → Bool} {lines : List Text} {i : Nat} :
    lines.findIdx? p = some i ↔ IsFirst (p · = true) lines i := by
  rw [List.findIdx?_eq_some_iff_getElem, IsFirst]
  constructor
  · rintro ⟨hi, hline, hbefore⟩
    refine ⟨⟨lines[i], List.getElem?_eq_getElem hi, hline⟩, ?_⟩
    intro j line hj hget
    obtain ⟨-, rfl⟩ := List.getElem?_eq_some_iff.mp hget
    exact hbefore j hj
  · rintro ⟨⟨line, hget, hline⟩, hbefore⟩
    obtain ⟨hi, rfl⟩ := List.getElem?_eq_some_iff.mp hget
    exact ⟨hi, hline, fun j hj => hbefore j _ hj (List.getElem?_eq_getElem (by omega))⟩

end Grammar

section Readers

variable {type line : Text}

theorem isNavigation_iff_begins :
    Declaration.isNavigation type line = true ↔
      ∃ mark rest, (mark = [] ∨ mark = ['?']) ∧ Begins line (type ++ mark) (type ++ rest) ∧
        skipBlanks (type ++ rest) = type ++ rest ∧ Accessors rest := by
  simp only [Declaration.isNavigation, Option.any_eq_true, Prod.exists, head?_eq_some_iff,
    Bool.and_eq_true, Bool.or_eq_true, beq_iff_eq, isAccessors_iff, after?_eq_some_iff]
  constructor
  · rintro ⟨found, named, ⟨hbegins, hnamed⟩, hfound, rest, rfl, hrest⟩
    rcases hfound with rfl | rfl
    · exact ⟨[], rest, Or.inl rfl, by rwa [List.append_nil], hnamed, hrest⟩
    · exact ⟨['?'], rest, Or.inr rfl, hbegins, hnamed, hrest⟩
  · rintro ⟨mark, rest, hmark, hbegins, hnamed, hrest⟩
    refine ⟨type ++ mark, type ++ rest, ⟨hbegins, hnamed⟩, ?_, rest, rfl, hrest⟩
    rcases hmark with rfl | rfl
    · exact Or.inl (List.append_nil type)
    · exact Or.inr rfl

variable (hne : type ≠ []) (hplain : ∀ c ∈ type, isBlank c = false)

include hne hplain

/-- White space ends the type and the name, so neither of them can be cut in another way. -/
theorem isNavigation_iff : Declaration.isNavigation type line = true ↔ Navigates type line := by
  rw [isNavigation_iff_begins]
  constructor
  · rintro ⟨mark, rest, hmark, hbegins, -, hrest⟩
    obtain ⟨indent, gap, margin, hindent, hgap, hgapne, hmargin, hmarginne, -, -, hline⟩ := hbegins
    exact ⟨indent, gap, mark, margin, rest, hindent, hgap, hgapne, hmark, hmargin, hmarginne, hrest,
      hline⟩
  · rintro ⟨indent, gap, mark, margin, rest, hindent, hgap, hgapne, hmark, hmargin, hmarginne,
      hrest, hline⟩
    have hmarkplain : ∀ c ∈ mark, isBlank c = false := by
      rcases hmark with rfl | rfl
      · simp
      · exact List.forall_mem_singleton.mpr (by decide)
    refine ⟨mark, rest, hmark, ⟨indent, gap, margin, hindent, hgap, hgapne, hmargin, hmarginne,
      List.append_ne_nil_of_left_ne_nil hne _, List.forall_mem_append.mpr ⟨hplain, hmarkplain⟩,
      hline⟩, ?_, hrest⟩
    obtain ⟨c, cs, rfl⟩ := List.exists_cons_of_ne_nil hne
    exact skipBlanks_append_of_head (by simp [hplain c List.mem_cons_self]) rest

theorem navigates_iff_of_isName (hname : IsName type) :
    Navigates type line ↔ DeclaresOwn type line := by
  rw [← isNavigation_iff hne hplain, isNavigation_iff_begins]
  constructor
  · rintro ⟨mark, rest, rfl | rfl, hbegins, -, hrest⟩
    · rw [List.append_nil] at hbegins
      exact Or.inl ⟨rest, hbegins, hname, hrest⟩
    · exact Or.inr ⟨rest, hbegins, hname, hrest⟩
  · rintro (⟨rest, hbegins, -, hrest⟩ | ⟨rest, hbegins, -, hrest⟩)
    · exact ⟨[], rest, Or.inl rfl, by rwa [List.append_nil], skipBlanks_name hname rest, hrest⟩
    · exact ⟨['?'], rest, Or.inr rfl, hbegins, skipBlanks_name hname rest, hrest⟩

end Readers

section Index

variable {lines : List Text}

theorem DeclaresOwn.declares {type line : Text} (h : DeclaresOwn type line) :
    Declares line type := by
  rcases h with ⟨rest, h⟩ | ⟨rest, h⟩
  · exact ⟨type, rest, h⟩
  · exact ⟨type ++ ['?'], rest, h⟩

theorem exists_lookup_index {key line : Text} {i : Nat} (hline : lines[i]? = some line)
    (h : Answers key line) : ∃ k, (Declaration.index lines).lookup key = some k ∧ i ≤ k := by
  induction lines using List.reverseRecOn with
  | nil => simp at hline
  | append_singleton lines last ih =>
      rw [lookup_index_concat]
      have hbound := (List.getElem?_eq_some_iff.mp hline).1
      rw [List.length_append, List.length_singleton] at hbound
      split
      · exact ⟨lines.length, rfl, by omega⟩
      · rename_i hlast
        refine ih ((getElem?_concat_of_ne ?_ i).mp hline)
        rintro rfl
        exact hlast (map_lower_property?_eq_some_iff.mpr h)

end Index

theorem navigation?_eq_findIdx? {refTable : Text} (h : Identifier.pascal refTable ≠ [])
    (lines : List Text) :
    Declaration.navigation? lines refTable =
      lines.findIdx? (Declaration.isNavigation (Identifier.pascal refTable)) := by
  simp [Declaration.navigation?, h]

theorem isBlank_eq_false_of_mem_pascal {name : Text} {c : Char} (h : c ∈ Identifier.pascal name) :
    isBlank c = false := by
  have hseparator := PascalForm.isSeparator_eq_false_of_mem_pascal h
  simp only [Identifier.isSeparator, Bool.or_eq_false_iff] at hseparator
  exact hseparator.2

theorem navigation?_eq_none_iff_forall {refTable : Text} (h : Identifier.pascal refTable ≠ [])
    (lines : List Text) :
    Declaration.navigation? lines refTable = none ↔
      ∀ line ∈ lines, ¬ Navigates (Identifier.pascal refTable) line := by
  rw [navigation?_eq_findIdx? h, List.findIdx?_eq_none_iff]
  refine forall₂_congr fun line _ => ?_
  rw [← isNavigation_iff h fun _ => isBlank_eq_false_of_mem_pascal, Bool.not_eq_true]

theorem navigation?_eq_some_iff_first {refTable : Text} (h : Identifier.pascal refTable ≠ [])
    (lines : List Text) (i : Nat) :
    Declaration.navigation? lines refTable = some i ↔
      IsFirst (Navigates (Identifier.pascal refTable)) lines i := by
  rw [navigation?_eq_findIdx? h, findIdx?_eq_some_iff]
  exact IsFirst.congr (fun _ => isNavigation_iff h fun _ => isBlank_eq_false_of_mem_pascal) lines i

/-- A referenced table is found in the first line that navigates to the Pascal form of its name.
When that form is a name, this is the first line that declares a property of this very name and
type; so the index knows the name too, and leads to that line or to a later one. -/
theorem navigation?_agrees (lines : List Text) (refTable : Text) :
    let type := Identifier.pascal refTable
    (type ≠ [] →
      (∀ i, Declaration.navigation? lines refTable = some i ↔ IsFirst (Navigates type) lines i) ∧
        (Declaration.navigation? lines refTable = none ↔ ∀ line ∈ lines, ¬ Navigates type line)) ∧
    (IsName type →
      (∀ i, Declaration.navigation? lines refTable = some i ↔ IsFirst (DeclaresOwn type) lines i) ∧
        (Declaration.navigation? lines refTable = none ↔ ∀ line ∈ lines, ¬ DeclaresOwn type line) ∧
        ∀ i, Declaration.navigation? lines refTable = some i →
          ∃ k, (Declaration.index lines).lookup (lower type) = some k ∧ i ≤ k) := by
  intro type
  constructor
  · intro hne
    exact ⟨navigation?_eq_some_iff_first hne lines, navigation?_eq_none_iff_forall hne lines⟩
  intro hname
  have hne : type ≠ [] := by
    obtain ⟨first, rest, htype, -⟩ := hname
    rw [htype]
    exact List.cons_ne_nil _ _
  have hown (line : Text) : Navigates type line ↔ DeclaresOwn type line :=
    navigates_iff_of_isName hne (fun _ => isBlank_eq_false_of_mem_pascal) hname
  have hsome (i : Nat) :
      Declaration.navigation? lines refTable = some i ↔ IsFirst (DeclaresOwn type) lines i :=
    (navigation?_eq_some_iff_first hne lines i).trans (IsFirst.congr hown lines i)
  refine ⟨hsome, ?_, fun i hi => ?_⟩
  · rw [navigation?_eq_none_iff_forall hne]
    exact forall₂_congr fun line _ => not_congr (hown line)
  · obtain ⟨⟨line, hline, hdeclares⟩, -⟩ := (hsome i).mp hi
    exact exists_lookup_index hline ⟨type, hdeclares.declares, rfl⟩

/-- A class with two navigation properties, and a property of another type that differs from one of
them in the case of its name. -/
def orderLines : List Text :=
  ["class Order \x7b".toList, "  public Company? Company \x7b get; set; \x7d".toList,
    "  public A.b$ A.b$\t\x7bget;set;\x7d".toList, "  public int company \x7b get; set; \x7d".toList]

theorem navigation?_agrees_orderLines :
    Identifier.pascal "COMPANY".toList = "Company".toList ∧ IsName "Company".toList ∧
      Declaration.navigation? orderLines "COMPANY".toList = some 1 ∧
      IsFirst (DeclaresOwn "Company".toList) orderLines 1 ∧
      (∃ k, (Declaration.index orderLines).lookup (lower "Company".toList) = some k ∧ 1 ≤ k) ∧
      Identifier.pascal "A.B$".toList = "A.b$".toList ∧
      IsFirst (Navigates "A.b$".toList) orderLines 2 := by
  have hcompany : Identifier.pascal "COMPANY".toList = "Company".toList := by decide
  have hname : IsName "Company".toList := (isName_takeWhile_iff (t := "Company".toList)).mpr rfl
  have hfound : Declaration.navigation? orderLines "COMPANY".toList = some 1 := by decide
  have hliteral : Identifier.pascal "A.B$".toList = "A.b$".toList := by decide
  have hnamed := (navigation?_agrees orderLines "COMPANY".toList).2
  have hplain := (navigation?_agrees orderLines "A.B$".toList).1
  rw [hcompany] at hnamed
  rw [hliteral] at hplain
  obtain ⟨hsome, -, hindex⟩ := hnamed hname
  exact ⟨hcompany, hname, hfound, (hsome 1).mp hfound, hindex 1 hfound, hliteral,
    ((hplain (by decide)).1 2).mp (by decide)⟩

end MappingMarkers.Proofs.NavigationGrammar
