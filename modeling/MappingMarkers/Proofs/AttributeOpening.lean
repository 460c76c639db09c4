import MappingMarkers.Proofs.LinewiseAttributes

namespace MappingMarkers.Proofs.AttributeOpening

open Text Attribute LinewiseAttributes Reading

section Characters

def smallLetters : Text := "abcdefghijklmnopqrstuvwxyz".toList

/-- What a word in small letters can be spelled with. -/
def letters : Text := 'ſ' :: (smallLetters ++ smallLetters.map Char.toUpper)

/-- What stands between the words, the blanks and the quoted texts of attributes. -/
def marks : Text := "[]()=,\"".toList

/-- What words and identifiers are made of. -/
def isPlain (c : Char) : Bool := !isBlank c && !marks.contains c

theorem isPlain_iff {c : Char} : isPlain c = true ↔ isBlank c = false ∧ c ∉ marks := by
  simp [isPlain]

theorem isPlain_of_mem_letters : ∀ c ∈ letters, isPlain c = true :=
  List.all_eq_true.mp (by decide)

theorem isBlank_of_mem_marks {c : Char} (h : c ∈ marks) : isBlank c = false := by
  have hall : marks.all (!isBlank ·) = true := by decide
  simpa using List.all_eq_true.mp hall c h

theorem mem_letters {l c : Char} (hl : l ∈ smallLetters) (h : isLetter l c = true) :
    c ∈ letters := by
  simp only [isLetter, Bool.or_eq_true, Bool.and_eq_true, beq_iff_eq] at h
  rw [letters, List.mem_cons, List.mem_append]
  rcases h with (rfl | rfl) | ⟨-, rfl⟩
  · exact Or.inr (Or.inl hl)
  · exact Or.inr (Or.inr (List.mem_map_of_mem hl))
  · exact Or.inl rfl

theorem subset_letters {word t : Text} (hword : word ⊆ smallLetters) (h : Spells word t) :
    t ⊆ letters := by
  induction h with
  | nil => exact List.nil_subset _
  | cons hletter _ ih =>
      obtain ⟨hl, hword⟩ := List.cons_subset.mp hword
      exact List.cons_subset.mpr ⟨mem_letters hl hletter, ih hword⟩

theorem isPlain_of_spells {word t : Text} (hword : word ⊆ smallLetters) (h : Spells word t) :
    ∀ c ∈ t, isPlain c = true := fun c hc =>
  isPlain_of_mem_letters c (subset_letters hword h hc)

variable {m : Char} (hmark : m ∈ marks)

include hmark

theorem mark_notMem_of_spells {word t : Text} (hword : word ⊆ smallLetters) (h : Spells word t) :
    m ∉ t := fun hmem =>
  (isPlain_iff.mp (isPlain_of_spells hword h m hmem)).2 hmark

theorem mark_notMem_of_blank {t : Text} (h : Blank t) : m ∉ t := by
  intro hmem
  have hblank := h m hmem
  rw [isBlank_of_mem_marks hmark] at hblank
  contradiction

end Characters

section Labels

/-- The word, in whatever case its letters are, and an equals sign, with white space behind each. -/
def Labels (word label : Text) : Prop :=
  ∃ w gap margin, Spells word w ∧ Blank gap ∧ Blank margin ∧
    label = w ++ (gap ++ '=' :: margin)

theorem afterLabel?_eq_some_iff {word t rest : Text} :
    afterLabel? word t = some rest ↔
      ∃ label, Labels word label ∧ t = label ++ rest ∧ skipBlanks rest = rest := by
  simp only [afterLabel?, Option.bind_eq_bind, Option.bind_eq_some_iff, Option.pure_def,
    Option.some.injEq, afterWord?_eq_some_iff, after?_skipBlanks_iff ['='] (by decide)]
  constructor
  · rintro ⟨_, ⟨w, hw, rfl⟩, v, ⟨gap, hgap, rfl⟩, rfl⟩
    obtain ⟨margin, hmargin, hv⟩ := exists_blanks v
    refine ⟨w ++ (gap ++ '=' :: margin), ⟨w, gap, margin, hw, hgap, hmargin, rfl⟩, ?_,
      List.dropWhile_idempotent _ v⟩
    simp [← hv]
  · rintro ⟨_, ⟨w, gap, margin, hw, hgap, hmargin, rfl⟩, rfl, hrest⟩
    refine ⟨_, ⟨w, hw, List.append_assoc _ _ _⟩, margin ++ rest, ⟨gap, hgap, ?_⟩, ?_⟩
    · simp
    · rw [hmargin.skipBlanks_append, hrest]

theorem mark_notMem_of_labels {m : Char} (hmark : m ∈ marks) (heq : m ≠ '=')
    {word label : Text} (hword : word ⊆ smallLetters) (h : Labels word label) : m ∉ label := by
  obtain ⟨w, gap, margin, hw, hgap, hmargin, rfl⟩ := h
  simp only [List.mem_append, List.mem_cons, not_or]
  exact ⟨mark_notMem_of_spells hmark hword hw, mark_notMem_of_blank hmark hgap, heq,
    mark_notMem_of_blank hmark hmargin⟩

end Labels

/-- An attribute of a kind from its opening bracket to the quote that closes its first argument. -/
structure Opening (kind : Text) where
  word : Text
  gap : Text
  margin : Text
  label : Text
  name : Text
  spelled : Spells kind word
  blank_gap : Blank gap
  blank_margin : Blank margin
  labelled : label = [] ∨ Labels "name".toList label
  closed : '"' ∉ name

namespace Opening

variable {kind : Text} (o : Opening kind)

def inside : Text := o.word ++ (o.gap ++ '(' :: (o.margin ++ o.label))

def text : Text := '[' :: (o.inside ++ '"' :: (o.name ++ ['"']))

theorem mark_notMem_label {m : Char} (hmark : m ∈ marks) (heq : m ≠ '=') :
    m ∉ o.label := by
  rcases o.labelled with h | h
  · rw [h]
    exact List.not_mem_nil
  · exact mark_notMem_of_labels hmark heq (by decide) h

theorem mark_notMem_inside (hkind : kind ⊆ smallLetters) {m : Char} (hmark : m ∈ marks)
    (heq : m ≠ '=') (hparen : m ≠ '(') : m ∉ o.inside := by
  simp only [inside, List.mem_cons, List.mem_append, not_or]
  exact ⟨mark_notMem_of_spells hmark hkind o.spelled, mark_notMem_of_blank hmark o.blank_gap,
    hparen, mark_notMem_of_blank hmark o.blank_margin, o.mark_notMem_label hmark heq⟩

theorem skipBlanks_label (rest : Text) :
    skipBlanks (o.label ++ '"' :: rest) = o.label ++ '"' :: rest := by
  rcases o.labelled with h | ⟨w, gap, margin, hw, -, -, h⟩
  · rw [h]
    rfl
  · rw [h]
    cases hw with
    | cons hc _ =>
        have hplain := isPlain_of_mem_letters _ (mem_letters (by decide) hc)
        exact skipBlanks_cons (isPlain_iff.mp hplain).1 _

theorem afterLabel?_label (rest : Text) :
    (afterLabel? "name".toList (o.label ++ '"' :: rest)).getD (o.label ++ '"' :: rest) =
      '"' :: rest := by
  rcases o.labelled with h | h
  · -- A quote begins no label.
    rw [h]
    rfl
  · have hread : afterLabel? "name".toList (o.label ++ '"' :: rest) = some ('"' :: rest) :=
      afterLabel?_eq_some_iff.mpr ⟨o.label, h, rfl, rfl⟩
    rw [hread, Option.getD_some]

end Opening

theorem quotedValue?_quoted {value : Text} (h : '"' ∉ value) (rest : Text) :
    quotedValue? ('"' :: (value ++ '"' :: rest)) =
      if value = [] then none else some (value, rest) := by
  split
  · rename_i hempty
    rw [hempty]
    rfl
  · rename_i hne
    exact quotedValue?_eq_some_iff.mpr ⟨rfl, h, hne⟩

theorem argument?_text {kind : Text} (o : Opening kind) (rest : Text) :
    argument? kind (o.text ++ rest) = if o.name = [] then none else some (o.name, rest) := by
  let inner := o.label ++ '"' :: (o.name ++ '"' :: rest)
  have hbracket : after? ['['] (o.text ++ rest) =
      some (o.word ++ (o.gap ++ (['('] ++ (o.margin ++ inner)))) :=
    after?_eq_some_iff.mpr (by simp [Opening.text, Opening.inside, inner])
  have hword : afterWord? kind (o.word ++ (o.gap ++ (['('] ++ (o.margin ++ inner)))) =
      some (o.gap ++ (['('] ++ (o.margin ++ inner))) :=
    afterWord?_eq_some_iff.mpr ⟨o.word, o.spelled, rfl⟩
  have hparen : after? ['('] (skipBlanks (o.gap ++ (['('] ++ (o.margin ++ inner)))) =
      some (o.margin ++ inner) :=
    (after?_skipBlanks_iff _ (by decide)).mpr ⟨o.gap, o.blank_gap, rfl⟩
  simp only [argument?, hbracket, hword, hparen, Option.bind_eq_bind, Option.bind_some]
  rw [o.blank_margin.skipBlanks_append, o.skipBlanks_label, o.afterLabel?_label,
    quotedValue?_quoted o.closed]

theorem exists_opening {kind t name rest : Text} (h : argument? kind t = some (name, rest)) :
    name ≠ [] ∧ ∃ o : Opening kind, o.name = name ∧ t = o.text ++ rest := by
  simp only [argument?, Option.bind_eq_bind, Option.bind_eq_some_iff, after?_eq_some_iff,
    afterWord?_eq_some_iff, after?_skipBlanks_iff ['('] (by decide)] at h
  obtain ⟨_, rfl, _, ⟨word, hword, rfl⟩, inner, ⟨gap, hgap, rfl⟩, hvalue⟩ := h
  obtain ⟨margin, hmargin, hinner⟩ := exists_blanks inner
  have hlabel : ∃ label, (label = [] ∨ Labels "name".toList label) ∧
      skipBlanks inner =
        label ++ (afterLabel? "name".toList (skipBlanks inner)).getD (skipBlanks inner) := by
    cases hread : afterLabel? "name".toList (skipBlanks inner) with
    | none => exact ⟨[], Or.inl rfl, rfl⟩
    | some u =>
        obtain ⟨label, hlabel, hsplit, -⟩ := afterLabel?_eq_some_iff.mp hread
        exact ⟨label, Or.inr hlabel, hsplit⟩
  obtain ⟨label, hlabel, hsplit⟩ := hlabel
  obtain ⟨hquoted, hclosed, hne⟩ := quotedValue?_eq_some_iff.mp hvalue
  rw [hquoted] at hsplit
  rw [hsplit] at hinner
  refine ⟨hne, ⟨word, gap, margin, label, name, hword, hgap, hmargin, hlabel, hclosed⟩, rfl, ?_⟩
  simp [hinner, Opening.text, Opening.inside]

theorem argument?_eq_some_iff {kind t name rest : Text} :
    argument? kind t = some (name, rest) ↔
      name ≠ [] ∧ ∃ o : Opening kind, o.name = name ∧ t = o.text ++ rest := by
  constructor
  · exact exists_opening
  · rintro ⟨hne, o, rfl, rfl⟩
    rw [argument?_text, if_neg hne]

section First

variable {kind : Text}

theorem first_of_notMem {front : Text} (hfront : '[' ∉ front) (o : Opening kind) (rest : Text) :
    FirstIn Opening.text (front ++ (o.text ++ rest)) front o rest := by
  refine ⟨rfl, fun front' o' rest' h => ?_⟩
  rcases List.append_eq_append_iff.mp h with ⟨more, rfl, -⟩ | ⟨more, rfl, hmore⟩
  · simp
  · cases more with
    | nil => simp
    | cons c cs =>
        obtain ⟨rfl, -⟩ := List.cons.inj hmore
        exact absurd (List.mem_append_right front' List.mem_cons_self) hfront

theorem Opening.count_quote (hkind : kind ⊆ smallLetters) (o : Opening kind) :
    o.text.count '"' = 2 := by
  have hinside := o.mark_notMem_inside hkind (m := '"') (by decide) (by decide) (by decide)
  simp [Opening.text, List.count_eq_zero.mpr hinside, List.count_eq_zero.mpr o.closed]

/-- An opening that begins in front of another one ends at the latest where that one ends. -/
theorem Opening.text_prefix (hkind : kind ⊆ smallLetters) {o o' : Opening kind}
    {front rest rest' : Text} (h : front ++ (o.text ++ rest) = o'.text ++ rest') :
    o'.text <+: front ++ o.text := by
  have hlong : front ++ o.text <+: o'.text ++ rest' := ⟨rest, by rw [← h, List.append_assoc]⟩
  rcases List.prefix_or_prefix_of_prefix (List.prefix_append _ _) hlong with hshort | ⟨more, hmore⟩
  · exact hshort
  · -- Otherwise the longer one has at least the two quotes of the other, and its last one besides.
    have hcount := congrArg (List.count '"') hmore
    simp only [List.count_append, o.count_quote hkind, o'.count_quote hkind] at hcount
    have hnot : '"' ∉ more := List.count_eq_zero.mp (by omega)
    cases more using List.reverseRecOn with
    | nil =>
        rw [List.append_nil] at hmore
        exact hmore ▸ List.prefix_rfl
    | append_singleton more c =>
        have hends : (front ++ o.text ++ more) ++ [c] =
            ('[' :: (o'.inside ++ '"' :: o'.name)) ++ ['"'] := by
          rw [List.append_assoc, hmore, Opening.text, List.cons_append, List.append_assoc,
            List.cons_append]
        obtain ⟨-, hc⟩ := List.append_inj' hends rfl
        exact absurd (List.mem_append_right more (List.mem_singleton.mpr (by simpa using hc.symm)))
          hnot

theorem argument?_in_front (hkind : kind ⊆ smallLetters) {content front rest : Text}
    {o : Opening kind} (h : FirstIn Opening.text content front o rest) (after : Text) {u : Text}
    (hu : u <:+ front) (hne : u ≠ []) : argument? kind (u ++ (o.text ++ after)) = none := by
  rw [Option.eq_none_iff_forall_ne_some]
  rintro ⟨name, rest'⟩ hread
  obtain ⟨-, o', -, hsplit⟩ := argument?_eq_some_iff.mp hread
  obtain ⟨more, hmore⟩ := Opening.text_prefix hkind hsplit
  refine h.ne_of_suffix hu hne o' (more ++ rest) ?_
  rw [← List.append_assoc, ← hmore, List.append_assoc]

/-- Only the first opening is read, unless its argument is empty: then it is passed over. -/
theorem findFirst?_of_first (hkind : kind ⊆ smallLetters) {content front rest : Text}
    {o : Opening kind} (h : FirstIn Opening.text content front o rest) (after : Text) :
    findFirst? (argument? kind) (front ++ (o.text ++ after)) =
      if o.name = [] then findFirst? (argument? kind) after else some (o.name, after) := by
  rw [findFirst?_append_of_none fun _ => argument?_in_front hkind h after]
  have hread := argument?_text o after
  split
  · rename_i hempty
    -- The search goes on behind the bracket, and meets no further bracket in the opening.
    have hinside := o.mark_notMem_inside hkind (m := '[') (by decide) (by decide) (by decide)
    have hnot : '[' ∉ o.inside ++ '"' :: (o.name ++ ['"']) := by simp [hempty, hinside]
    rw [if_pos hempty, Opening.text, List.cons_append] at hread
    rw [Opening.text, List.cons_append, findFirst?, hread, Option.none_or,
      findFirst?_append_of_notMem hnot]
  · rename_i hname
    rw [if_neg hname] at hread
    exact findFirst?_of_eq_some hread

end First

end MappingMarkers.Proofs.AttributeOpening
