import Mathlib
import MappingMarkers.Proofs.BufferInsertions
import MappingMarkers.Proofs.NavigationGrammar
import MappingMarkers.Proofs.RepeatedInjection

namespace MappingMarkers.Proofs.PascalNames

open Text Identifier SourceBuffer Splitting DeclarationGrammar NavigationGrammar BufferInsertions
  InterleavedDeclarations

section Words

/-- Underscores and white space only. -/
def Separators (t : Text) : Prop := ∀ c ∈ t, c = '_' ∨ isBlank c = true

instance (t : Text) : Decidable (Separators t) :=
  List.decidableBAll (fun c => c = '_' ∨ isBlank c = true) t

variable {name s : Text}

theorem isSeparator_iff {c : Char} : isSeparator c = true ↔ c = '_' ∨ isBlank c = true := by
  simp [isSeparator]

theorem words_append_cons {c : Char} (hc : c = '_' ∨ isBlank c = true) (a b : Text) :
    words (a ++ c :: b) = words a ++ words b := by
  rw [words, List.splitOnP_append_cons a b (isSeparator_iff.mpr hc), List.filter_append]
  rfl

theorem words_separators_append (h : Separators s) (name : Text) :
    words (s ++ name) = words name := by
  induction s with
  | nil => rfl
  | cons c cs ih =>
      have hskip := words_append_cons (h c List.mem_cons_self) [] (cs ++ name)
      rw [List.cons_append]
      exact hskip.trans (ih fun d hd => h d (List.mem_cons_of_mem _ hd))

theorem words_append_separators_append (hne : s ≠ []) (h : Separators s) (a b : Text) :
    words (a ++ s ++ b) = words a ++ words b := by
  obtain ⟨c, cs, rfl⟩ := List.exists_cons_of_ne_nil hne
  rw [List.append_assoc, List.cons_append, words_append_cons (h c List.mem_cons_self),
    words_separators_append fun d hd => h d (List.mem_cons_of_mem _ hd)]

theorem pascal_append_separators_append (hne : s ≠ []) (h : Separators s) (a b : Text) :
    pascal (a ++ s ++ b) = pascal a ++ pascal b := by
  rw [pascal, words_append_separators_append hne h, List.flatMap_append]
  rfl

theorem pascal_separators_append (h : Separators s) (name : Text) :
    pascal (s ++ name) = pascal name := by
  rw [pascal, words_separators_append h]
  rfl

@[simp] theorem pascal_nil : pascal [] = [] := rfl

theorem pascal_separators (h : Separators s) : pascal s = [] := by
  rw [← List.append_nil s, pascal_separators_append h, pascal_nil]

theorem pascal_append_separators (h : Separators s) (name : Text) :
    pascal (name ++ s) = pascal name := by
  by_cases hne : s = []
  · rw [hne, List.append_nil]
  · simpa using pascal_append_separators_append hne h name []

/-- The name without its separators. -/
def bare (name : Text) : Text := name.filter (!isSeparator ·)

theorem flatten_words (name : Text) : (words name).flatten = bare name := by
  rw [words, List.flatten_filter_not_isEmpty, flatten_splitOnP]
  rfl

theorem subset_of_mem_words {word : Text} (h : word ∈ words name) : word ⊆ name :=
  fun _ hc => (of_mem_splitOnP (List.mem_filter.mp h).1 hc).1

end Words

section Ascii

def Ascii (t : Text) : Prop := ∀ c ∈ t, c.toNat < 128

instance (t : Text) : Decidable (Ascii t) := List.decidableBAll (fun c : Char => c.toNat < 128) t

/-- The texts differ in the case of ASCII letters only. -/
def SameLetters (t u : Text) : Prop := t.map Char.toLower = u.map Char.toLower

instance (t u : Text) : Decidable (SameLetters t u) :=
  inferInstanceAs (Decidable (t.map Char.toLower = u.map Char.toLower))

theorem of_toNat_lt {p : Char → Prop} (h : ∀ n < 128, p (Char.ofNat n)) {c : Char}
    (hc : c.toNat < 128) : p c := by
  rw [← Char.ofNat_toNat c]
  exact h c.toNat hc

theorem isSeparator_toLower {c : Char} (hc : c.toNat < 128) :
    isSeparator c.toLower = isSeparator c :=
  of_toNat_lt (p := fun c => isSeparator c.toLower = isSeparator c) (by decide) hc

theorem toNat_toLower_lt {c : Char} (hc : c.toNat < 128) : c.toLower.toNat < 128 :=
  of_toNat_lt (p := fun c => c.toLower.toNat < 128) (by decide) hc

theorem toNat_toUpper_lt {c : Char} (hc : c.toNat < 128) : c.toUpper.toNat < 128 :=
  of_toNat_lt (p := fun c => c.toUpper.toNat < 128) (by decide) hc

variable {t : Text}

theorem Ascii.of_subset {u : Text} (ht : Ascii t) (h : u ⊆ t) : Ascii u := fun c hc => ht c (h hc)

theorem Ascii.map_toLower (ht : Ascii t) : Ascii (t.map Char.toLower) := by
  intro c hc
  obtain ⟨d, hd, rfl⟩ := List.mem_map.mp hc
  exact toNat_toLower_lt (ht d hd)

theorem lowerAfter_of_ascii (ht : Ascii t) (cased : Bool) :
    lowerAfter cased t = t.map Char.toLower := by
  induction t generalizing cased with
  | nil => rfl
  | cons c cs ih =>
      have hc : c.toNat < 128 := ht c List.mem_cons_self
      have hsigma : c ≠ 'Σ' := by
        rintro rfl
        exact absurd hc (by decide)
      have hcs : Ascii cs := ht.of_subset (List.subset_cons_self c cs)
      rw [lowerAfter, if_neg hsigma, small, if_pos hc, ih hcs]
      rfl

theorem lower_of_ascii (ht : Ascii t) : lower t = t.map Char.toLower := lowerAfter_of_ascii ht false

theorem capitalized_of_ascii {c : Char} {cs : Text} (h : Ascii (c :: cs)) :
    capitalized (c :: cs) = c.toUpper :: cs.map Char.toLower := by
  have hc : c.toNat < 128 := h c List.mem_cons_self
  rw [capitalized, capital, if_pos hc, lower_of_ascii (h.of_subset (List.subset_cons_self c cs))]
  rfl

theorem map_toLower_map_toLower (t : Text) :
    (t.map Char.toLower).map Char.toLower = t.map Char.toLower := by
  rw [List.map_map]
  exact List.map_congr_left fun c _ => Char.toLower_toLower_eq_toLower c

theorem capitalized_map_toLower (ht : Ascii t) :
    capitalized (t.map Char.toLower) = capitalized t := by
  cases t with
  | nil => rfl
  | cons c cs =>
      have hlow : Ascii (c.toLower :: cs.map Char.toLower) := ht.map_toLower
      rw [List.map_cons, capitalized_of_ascii hlow, capitalized_of_ascii ht,
        Char.toUpper_toLower_eq_toUpper, map_toLower_map_toLower]

theorem map_toLower_capitalized (ht : Ascii t) :
    (capitalized t).map Char.toLower = t.map Char.toLower := by
  cases t with
  | nil => rfl
  | cons c cs =>
      rw [capitalized_of_ascii ht, List.map_cons, Char.toLower_toUpper_eq_toLower,
        map_toLower_map_toLower, List.map_cons]

theorem Ascii.capitalized (ht : Ascii t) : Ascii (capitalized t) := by
  cases t with
  | nil => exact ht
  | cons c cs =>
      rw [capitalized_of_ascii ht]
      refine List.forall_mem_cons.mpr ⟨toNat_toUpper_lt (ht c List.mem_cons_self), ?_⟩
      exact (ht.of_subset (List.subset_cons_self c cs)).map_toLower

variable {name : Text}

theorem Ascii.of_mem_words (h : Ascii name) {word : Text} (hword : word ∈ words name) :
    Ascii word :=
  h.of_subset (subset_of_mem_words hword)

theorem words_map_toLower (h : Ascii name) :
    words (name.map Char.toLower) = (words name).map (·.map Char.toLower) := by
  rw [words, splitOnP_map fun c hc => isSeparator_toLower (h c hc), List.filter_map, words]
  simp [Function.comp_def]

theorem pascal_map_toLower (h : Ascii name) : pascal (name.map Char.toLower) = pascal name := by
  rw [pascal, words_map_toLower h, List.flatMap_map]
  exact List.flatMap_congr fun word hword => capitalized_map_toLower (h.of_mem_words hword)

theorem pascal_congr (ha : Ascii name) {other : Text} (hb : Ascii other)
    (h : SameLetters name other) : pascal name = pascal other := by
  rw [← pascal_map_toLower ha, h, pascal_map_toLower hb]

theorem Ascii.bare (h : Ascii name) : Ascii (bare name) :=
  h.of_subset (List.filter_subset_self name)

theorem Ascii.pascal (h : Ascii name) : Ascii (pascal name) := by
  intro c hc
  obtain ⟨word, hword, hc⟩ := List.mem_flatMap.mp hc
  exact (h.of_mem_words hword).capitalized c hc

theorem lower_pascal_of_ascii (h : Ascii name) :
    lower (Identifier.pascal name) = (bare name).map Char.toLower := by
  rw [lower_of_ascii h.pascal, ← flatten_words, Identifier.pascal, List.map_flatMap,
    List.map_flatten, List.flatMap_def]
  refine congrArg List.flatten (List.map_congr_left fun word hword => ?_)
  exact map_toLower_capitalized (h.of_mem_words hword)

end Ascii

section Tokens

theorem ne_separator_of_mem_pascal {name : Text} {c : Char} (h : c ∈ pascal name) :
    c ≠ '_' ∧ isBlank c = false := by
  simpa [isSeparator] using PascalForm.isSeparator_eq_false_of_mem_pascal h

theorem ne_separator_of_mem_pascalList {names : List Text} {c : Char} (h : c ∈ pascalList names) :
    c ≠ '_' ∧ isBlank c = false := by
  rcases mem_joined h with hcomma | ⟨form, hform, hc⟩
  · rw [List.mem_singleton.mp hcomma]
    decide
  · obtain ⟨name, -, rfl⟩ := List.mem_map.mp hform
    exact ne_separator_of_mem_pascal hc

theorem begins_of_navigation? {lines : List Text} {refTable : Text} {i : Nat}
    (h : Declaration.navigation? lines refTable = some i) :
    ∃ line mark rest, lines[i]? = some line ∧ (mark = [] ∨ mark = ['?']) ∧
      Begins line (pascal refTable ++ mark) (pascal refTable ++ rest) ∧ Accessors rest := by
  have hne : pascal refTable ≠ [] := by
    intro hnil
    simp [Declaration.navigation?, hnil] at h
  rw [navigation?_eq_findIdx? hne, findIdx?_eq_some_iff] at h
  obtain ⟨⟨line, hline, hnavigation⟩, -⟩ := h
  obtain ⟨mark, rest, hmark, hbegins, -, hrest⟩ := isNavigation_iff_begins.mp hnavigation
  exact ⟨line, mark, rest, hline, hmark, hbegins, hrest⟩

end Tokens

section Columns

/-- The line declares a property with the name of the column, but for separators and the case of the
letters. -/
def Names (column line : Text) : Prop :=
  ∃ name, Declares line name ∧ SameLetters name (bare column)

/-- Line `i` has the property, and no line after it has. -/
def IsLast (p : Text → Prop) (lines : List Text) (i : Nat) : Prop :=
  (∃ line, lines[i]? = some line ∧ p line) ∧ ∀ j line, i < j → lines[j]? = some line → ¬ p line

theorem answers_iff_names {column line : Text} :
    Answers ((bare column).map Char.toLower) line ↔ Names column line := by
  refine exists_congr fun name => and_congr_right fun hname => ?_
  -- The grammar leaves a declared name only ASCII characters.
  obtain ⟨-, -, -, hname, -⟩ := hname
  have hascii : Ascii name := by
    intro c hc
    have hrange := toNat_of_isNamePart (hname.isNamePart c hc)
    omega
  rw [lower_of_ascii hascii, SameLetters]

variable {column : Text} (h : Ascii column)

include h

theorem lineOf?_pascal (b : SourceBuffer) :
    b.lineOf? (pascal column) = b.properties.lookup ((bare column).map Char.toLower) := by
  rw [lineOf?, lower_pascal_of_ascii h]

theorem lineOf?_ofText_eq_some_iff {content : Text} {i : Nat} :
    (ofText content).lineOf? (pascal column) = some i ↔
      IsLast (Names column) (splitLines content) i := by
  rw [lineOf?_pascal h, IsLast]
  refine lookup_index_eq_some_iff.trans ?_
  simp only [answers_iff_names]

/-- Among the markers, too, a column leads to the line that it names in the file as it was. -/
theorem lineOf?_insertAll?_eq_some_iff {content : Text} {calls : List Insertion} {b : SourceBuffer}
    (hcalls : insertAll? (ofText content) calls = some b) {i : Nat} :
    b.lineOf? (pascal column) = some i ↔
      ∃ j, IsLast (Names column) (splitLines content) j ∧ moved calls j = i := by
  rw [(moved_of_insertAll? hcalls).1, Option.map_eq_some_iff]
  exact exists_congr fun j => and_congr_left fun _ => lineOf?_ofText_eq_some_iff h

end Columns

/-- A name is taken word by word, whatever separates the words, and none of what separates them is
left in the form. The form of an ASCII name does not depend on the case of its letters, and so a
buffer finds a column in the line of the property that has the column's name without separators, in
whatever case. -/
theorem pascal_wordwise :
    (∀ a s b, s ≠ [] → Separators s → pascal (a ++ s ++ b) = pascal a ++ pascal b) ∧
    (∀ s name, Separators s →
      pascal (s ++ name) = pascal name ∧ pascal (name ++ s) = pascal name ∧ pascal s = []) ∧
    (∀ a s t b, s ≠ [] → Separators s → t ≠ [] → Separators t →
      pascal (a ++ s ++ b) = pascal (a ++ t ++ b)) ∧
    (∀ name, ∀ c ∈ pascal name, c ≠ '_' ∧ isBlank c = false) ∧
    (∀ names, ∀ c ∈ pascalList names, c ≠ '_' ∧ isBlank c = false) ∧
    (∀ lines refTable i, Declaration.navigation? lines refTable = some i →
      ∃ line mark rest, lines[i]? = some line ∧ (mark = [] ∨ mark = ['?']) ∧
        Begins line (pascal refTable ++ mark) (pascal refTable ++ rest) ∧ Accessors rest) ∧
    (∀ key : ForeignKey Text, Lines.Unbroken (Marker.association key)) ∧
    (∀ a b, Ascii a → Ascii b → SameLetters a b → pascal a = pascal b) ∧
    ∀ column, Ascii column →
      (∀ b : SourceBuffer, b.lineOf? (pascal column) = b.lineOf? (bare column) ∧
        b.lineOf? (pascal column) = b.properties.lookup ((bare column).map Char.toLower)) ∧
      ∀ content calls b, insertAll? (ofText content) calls = some b →
        (∀ i, b.lineOf? (pascal column) = some i ↔
          ∃ j, IsLast (Names column) (splitLines content) j ∧ moved calls j = i) ∧
        ∀ (j : Nat) line, (splitLines content)[j]? = some line →
          b.lines[moved calls j]? = some line := by
  refine ⟨fun a s b hne hs => pascal_append_separators_append hne hs a b, fun s name hs => ?_,
    fun a s t b hs hseps ht htseps => ?_, fun name c => ne_separator_of_mem_pascal,
    fun names c => ne_separator_of_mem_pascalList, fun lines refTable i => begins_of_navigation?,
    RepeatedInjection.unbroken_association, fun a b ha hb => pascal_congr ha hb,
    fun column h => ⟨fun b => ⟨?_, lineOf?_pascal h b⟩, fun content calls b hcalls => ?_⟩⟩
  · exact ⟨pascal_separators_append hs name, pascal_append_separators hs name, pascal_separators hs⟩
  · rw [pascal_append_separators_append hs hseps, pascal_append_separators_append ht htseps]
  · rw [lineOf?_pascal h, lineOf?, lower_of_ascii h.bare]
  · exact ⟨fun i => lineOf?_insertAll?_eq_some_iff h hcalls, (moved_of_insertAll? hcalls).2⟩

theorem pascal_wordwise_orderNumber :
    let column := "ORDER _no".toList
    let content := "public int No \x7bget;set;\x7d\npublic int orderNO \x7bget;set;\x7d".toList
    let calls := [⟨0, "[PrimaryKey]".toList⟩]
    let lines := ["public Order? Order \x7bget;set;\x7d".toList]
    (" _".toList ≠ [] ∧ Separators " _".toList ∧
      pascal column = pascal "ORDER".toList ++ pascal "no".toList) ∧
    (Ascii column ∧ Ascii "order _NO".toList ∧ SameLetters column "order _NO".toList ∧
      pascal column = pascal "order _NO".toList) ∧
    (Declaration.navigation? lines "ORDER_".toList = some 0 ∧
      ∃ line mark rest, lines[0]? = some line ∧ (mark = [] ∨ mark = ['?']) ∧
        Begins line (pascal "ORDER_".toList ++ mark) (pascal "ORDER_".toList ++ rest) ∧
        Accessors rest) ∧
    ∃ b, insertAll? (ofText content) calls = some b ∧ b.lineOf? (pascal column) = some 2 ∧
      ∃ j, IsLast (Names column) (splitLines content) j ∧ moved calls j = 2 := by
  intro column content calls lines
  obtain ⟨hwords, -, -, -, -, htokens, -, hcase, hcolumns⟩ := pascal_wordwise
  have hne : " _".toList ≠ [] := by decide
  have hseparators : Separators " _".toList := by decide
  have hascii : Ascii column := by decide
  have hother : Ascii "order _NO".toList := by decide
  have hsame : SameLetters column "order _NO".toList := by decide
  have hnavigation : Declaration.navigation? lines "ORDER_".toList = some 0 := by decide
  have h : (insertAll? (ofText content) calls).isSome = true := by decide
  obtain ⟨b, hb⟩ := Option.isSome_iff_exists.mp h
  have hfound : (insertAll? (ofText content) calls).bind (·.lineOf? (pascal column)) = some 2 := by
    decide
  rw [hb, Option.bind_some] at hfound
  have hlines := (hcolumns column hascii).2 content calls b hb
  exact ⟨⟨hne, hseparators, hwords "ORDER".toList _ "no".toList hne hseparators⟩,
    ⟨hascii, hother, hsame, hcase _ _ hascii hother hsame⟩,
    ⟨hnavigation, htokens lines _ 0 hnavigation⟩, b, hb, hfound, (hlines.1 2).mp hfound⟩

end MappingMarkers.Proofs.PascalNames
