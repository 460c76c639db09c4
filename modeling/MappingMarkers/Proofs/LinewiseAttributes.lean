import MappingMarkers.Attribute
import MappingMarkers.Proofs.Lines
import MappingMarkers.Proofs.Reading

/-!
Reading the attributes of a text line by line. As long as no attribute goes on after the end of the
line where it begins, the attributes of a text are those of its lines.
-/

namespace MappingMarkers.Proofs.LinewiseAttributes

open Text Attribute Lines Reading

section Reading

theorem cut_quote_iff {t value rest : Text} :
    t.takeWhile (· != '"') = value ∧ t.dropWhile (· != '"') = '"' :: rest ↔
      t = value ++ '"' :: rest ∧ '"' ∉ value := by
  refine ⟨?_, ?_⟩
  · rintro ⟨rfl, hrest⟩
    refine ⟨by rw [← hrest, List.takeWhile_append_dropWhile], fun hmem => ?_⟩
    simpa using List.mem_takeWhile_imp hmem
  · rintro ⟨rfl, hnot⟩
    have hvalue : ∀ c ∈ value, (c != '"') = true := fun c hc =>
      bne_iff_ne.mpr fun heq => hnot (heq ▸ hc)
    rw [List.takeWhile_append_of_pos hvalue, List.dropWhile_append_of_pos hvalue]
    simp

theorem quotedValue?_eq_some_iff {t value rest : Text} :
    quotedValue? t = some (value, rest) ↔
      t = '"' :: (value ++ '"' :: rest) ∧ '"' ∉ value ∧ value ≠ [] := by
  simp only [quotedValue?, Option.bind_eq_bind, Option.bind_eq_some_iff, after?_eq_some_iff,
    Option.ite_none_left_eq_some, Option.some.injEq, Prod.mk.injEq, List.isEmpty_iff,
    List.singleton_append]
  refine ⟨?_, ?_⟩
  · rintro ⟨inner, rfl, rest', hrest, hne, hvalue, rfl⟩
    obtain ⟨rfl, hnot⟩ := cut_quote_iff.mp ⟨hvalue, hrest⟩
    exact ⟨rfl, hnot, hvalue ▸ hne⟩
  · rintro ⟨rfl, hnot, hne⟩
    obtain ⟨hvalue, hrest⟩ := cut_quote_iff.mpr ⟨rfl, hnot⟩
    exact ⟨value ++ '"' :: rest, rfl, rest, hrest, hvalue.symm ▸ hne, hvalue, rfl⟩

theorem quotedValue?_append {t value rest : Text} (h : quotedValue? t = some (value, rest))
    (more : Text) : quotedValue? (t ++ more) = some (value, rest ++ more) := by
  obtain ⟨rfl, hnot, hne⟩ := quotedValue?_eq_some_iff.mp h
  exact quotedValue?_eq_some_iff.mpr ⟨by simp, hnot, hne⟩

theorem afterLabel?_append {label t rest : Text} (h : afterLabel? label t = some rest)
    (hrest : rest ≠ []) (more : Text) : afterLabel? label (t ++ more) = some (rest ++ more) := by
  simp only [afterLabel?, Option.bind_eq_bind, Option.bind_eq_some_iff, Option.pure_def,
    Option.some.injEq] at h ⊢
  obtain ⟨u, hu, v, hv, rfl⟩ := h
  refine ⟨u ++ more, afterWord?_append hu more, v ++ more, ?_, skipBlanks_append hrest more⟩
  rw [skipBlanks_append (skipBlanks_ne_nil hv)]
  exact after?_append hv more

theorem labelled_append {t value rest : Text}
    (h : quotedValue? ((afterLabel? "name".toList t).getD t) = some (value, rest)) (more : Text) :
    quotedValue? ((afterLabel? "name".toList (t ++ more)).getD (t ++ more)) =
      some (value, rest ++ more) := by
  cases hlabel : afterLabel? "name".toList t with
  | some u =>
      rw [hlabel, Option.getD_some] at h
      have hne : u ≠ [] := by
        rw [(quotedValue?_eq_some_iff.mp h).1]
        exact List.cons_ne_nil _ _
      rw [afterLabel?_append hlabel hne, Option.getD_some]
      exact quotedValue?_append h more
  | none =>
      rw [hlabel, Option.getD_none] at h
      obtain ⟨rfl, hvalue⟩ := quotedValue?_eq_some_iff.mp h
      -- A quote begins no label.
      exact quotedValue?_append h more

theorem argument?_append {kind t value rest : Text} (h : argument? kind t = some (value, rest))
    (more : Text) : argument? kind (t ++ more) = some (value, rest ++ more) := by
  simp only [argument?, Option.bind_eq_bind, Option.bind_eq_some_iff] at h ⊢
  obtain ⟨u, hu, v, hv, w, hw, hvalue⟩ := h
  refine ⟨u ++ more, after?_append hu more, v ++ more, afterWord?_append hv more, w ++ more, ?_, ?_⟩
  · rw [skipBlanks_append (skipBlanks_ne_nil hw)]
    exact after?_append hw more
  · have hne : skipBlanks w ≠ [] := by
      intro hnil
      rw [hnil] at hvalue
      contradiction
    rw [skipBlanks_append hne]
    exact labelled_append hvalue more

theorem labelled_suffix (t : Text) : (afterLabel? "name".toList t).getD t <:+ t := by
  cases h : afterLabel? "name".toList t with
  | none => exact List.suffix_rfl
  | some r =>
      simp only [afterLabel?, Option.bind_eq_bind, Option.bind_eq_some_iff, Option.pure_def,
        Option.some.injEq] at h
      obtain ⟨u, hu, v, hv, rfl⟩ := h
      have hv : v <:+ u := (suffix_of_after? hv).trans (skipBlanks_suffix u)
      exact (skipBlanks_suffix v).trans (hv.trans (suffix_of_afterWord? hu))

theorem suffix_of_argument? {kind t value rest : Text} (h : argument? kind t = some (value, rest)) :
    rest <:+ t := by
  simp only [argument?, Option.bind_eq_bind, Option.bind_eq_some_iff] at h
  obtain ⟨u, hu, v, hv, w, hw, hvalue⟩ := h
  have hrest : rest <:+ (afterLabel? "name".toList (skipBlanks w)).getD (skipBlanks w) := by
    rw [(quotedValue?_eq_some_iff.mp hvalue).1]
    exact ((List.suffix_cons _ _).trans (List.suffix_append _ _)).trans (List.suffix_cons _ _)
  have hrest : rest <:+ w := hrest.trans ((labelled_suffix _).trans (skipBlanks_suffix w))
  have hw : w <:+ v := (suffix_of_after? hw).trans (skipBlanks_suffix v)
  have hv : v <:+ t := (suffix_of_afterWord? hv).trans (suffix_of_after? hu)
  exact hrest.trans (hw.trans hv)

theorem argument?_cons_of_ne {c : Char} (h : c ≠ '[') (kind rest : Text) :
    argument? kind (c :: rest) = none := by
  have hnot : after? ['['] (c :: rest) = none := if_neg h.symm
  rw [argument?, hnot]
  rfl

end Reading

section Closed

/-- No attribute of this kind begins on the line without ending there: what is not read from a tail
of the line is not read either when the text goes on behind the line's end. -/
def Closed (kind line : Text) : Prop :=
  ∀ tail, tail <:+ line → argument? kind tail = none →
    ∀ mark ∈ lineEnds, ∀ further, argument? kind (tail ++ (mark ++ further)) = none

theorem bracket_notMem_of_mem_lineEnds : ∀ mark ∈ lineEnds, '[' ∉ mark := by decide

variable {kind line : Text}

theorem Closed.of_suffix {tail : Text} (h : Closed kind line) (hsuffix : tail <:+ line) :
    Closed kind tail :=
  fun t ht => h t (ht.trans hsuffix)

theorem closed_nil : Closed kind [] := by
  intro tail htail _ mark hmark further
  have hne : ∀ mark ∈ lineEnds, mark ≠ [] := by decide
  obtain ⟨c, cs, rfl⟩ := List.exists_cons_of_ne_nil (hne mark hmark)
  have hc : c ≠ '[' := fun heq =>
    bracket_notMem_of_mem_lineEnds _ hmark (heq ▸ List.mem_cons_self)
  rw [List.suffix_nil.mp htail]
  exact argument?_cons_of_ne hc kind _

theorem closed_cons {c : Char} (hline : Closed kind line)
    (h : argument? kind (c :: line) = none →
      ∀ further, argument? kind (c :: line ++ further) = none) :
    Closed kind (c :: line) := by
  intro tail htail hnone mark hmark further
  rcases List.suffix_cons_iff.mp htail with rfl | htail
  · exact h hnone _
  · exact hline tail htail hnone mark hmark further

theorem closed_append_of_notMem {front : Text} (hfront : '[' ∉ front) (hline : Closed kind line) :
    Closed kind (front ++ line) := by
  induction front with
  | nil => exact hline
  | cons c cs ih =>
      have hc : c ≠ '[' := fun heq => hfront (heq ▸ List.mem_cons_self)
      exact closed_cons (ih fun hmem => hfront (List.mem_cons_of_mem _ hmem)) fun _ further =>
        argument?_cons_of_ne hc kind _

theorem closed_of_notMem (h : '[' ∉ line) : Closed kind line := by
  rw [← List.append_nil line]
  exact closed_append_of_notMem h closed_nil

theorem closed_of_bracket {front rest : Text} (hfront : '[' ∉ front) (hrest : '[' ∉ rest)
    (h : argument? kind ('[' :: rest) = none →
      ∀ further, argument? kind ('[' :: rest ++ further) = none) :
    Closed kind (front ++ '[' :: rest) :=
  closed_append_of_notMem hfront (closed_cons (closed_of_notMem hrest) h)

end Closed

section Scanning

theorem columns_of_eq_some {t name rest : Text}
    (h : argument? "column".toList t = some (name, rest)) : columns t = name :: columns rest := by
  cases t with
  | nil => contradiction
  | cons c cs =>
      rw [columns]
      split
      · rename_i found more hfound
        obtain ⟨rfl, rfl⟩ := Prod.mk.inj (Option.some.inj (hfound.symm.trans h))
        rfl
      · rename_i hnone
        rw [h] at hnone
        contradiction

theorem columns_cons_of_eq_none {c : Char} {cs : Text}
    (h : argument? "column".toList (c :: cs) = none) : columns (c :: cs) = columns cs := by
  rw [columns]
  split
  · rename_i hfound
    rw [h] at hfound
    contradiction
  · rfl

theorem columns_append_of_notMem {front : Text} (h : '[' ∉ front) (rest : Text) :
    columns (front ++ rest) = columns rest := by
  induction front with
  | nil => rfl
  | cons c cs ih =>
      have hc : c ≠ '[' := fun heq => h (heq ▸ List.mem_cons_self)
      rw [List.cons_append, columns_cons_of_eq_none (argument?_cons_of_ne hc _ _),
        ih fun hmem => h (List.mem_cons_of_mem _ hmem)]

theorem findFirst?_append_of_notMem {front : Text} (h : '[' ∉ front) (kind rest : Text) :
    findFirst? (argument? kind) (front ++ rest) = findFirst? (argument? kind) rest := by
  induction front with
  | nil => rfl
  | cons c cs ih =>
      have hc : c ≠ '[' := fun heq => h (heq ▸ List.mem_cons_self)
      rw [List.cons_append, findFirst?, argument?_cons_of_ne hc, Option.none_or,
        ih fun hmem => h (List.mem_cons_of_mem _ hmem)]

theorem columns_of_notMem {t : Text} (h : '[' ∉ t) : columns t = [] := by
  have hcolumns := columns_append_of_notMem h []
  rwa [List.append_nil, columns] at hcolumns

theorem findFirst?_of_notMem {t : Text} (h : '[' ∉ t) (kind : Text) :
    findFirst? (argument? kind) t = none := by
  have hfirst := findFirst?_append_of_notMem h kind []
  rwa [List.append_nil] at hfirst

theorem columns_of_bracket {front rest : Text} (hfront : '[' ∉ front) (hrest : '[' ∉ rest)
    (h : argument? "column".toList ('[' :: rest) = none) : columns (front ++ '[' :: rest) = [] := by
  rw [columns_append_of_notMem hfront, columns_cons_of_eq_none h, columns_of_notMem hrest]

theorem findFirst?_of_bracket {kind front rest : Text} (hfront : '[' ∉ front) (hrest : '[' ∉ rest)
    (h : argument? kind ('[' :: rest) = none) :
    findFirst? (argument? kind) (front ++ '[' :: rest) = none := by
  rw [findFirst?_append_of_notMem hfront, findFirst?, h, Option.none_or,
    findFirst?_of_notMem hrest]

variable {line mark : Text}

/-- The columns of a closed line are read apart from what follows the line. -/
theorem columns_append_lineEnd (hclosed : Closed "column".toList line) (hmark : mark ∈ lineEnds)
    (rest : Text) : columns (line ++ (mark ++ rest)) = columns line ++ columns rest := by
  -- The induction goes from each tail to the next one that is looked at.
  fun_induction columns line with
  | case1 => exact columns_append_of_notMem (bracket_notMem_of_mem_lineEnds mark hmark) rest
  | case2 c cs name left hread _ ih =>
      rw [columns_of_eq_some (argument?_append hread _), ih (hclosed.of_suffix
        (suffix_of_argument? hread)), List.cons_append]
  | case3 c cs hread ih =>
      have hstill := hclosed _ List.suffix_rfl hread mark hmark rest
      rw [List.cons_append] at hstill ⊢
      rw [columns_cons_of_eq_none hstill, ih (hclosed.of_suffix (List.suffix_cons _ _))]

theorem findFirst?_append_lineEnd {kind : Text} (hclosed : Closed kind line)
    (hmark : mark ∈ lineEnds) (rest : Text) :
    findFirst? (argument? kind) (line ++ (mark ++ rest)) =
      ((findFirst? (argument? kind) line).map fun found =>
        (found.1, found.2 ++ (mark ++ rest))).or (findFirst? (argument? kind) rest) := by
  induction line with
  | nil => exact findFirst?_append_of_notMem (bracket_notMem_of_mem_lineEnds mark hmark) kind rest
  | cons c cs ih =>
      rw [List.cons_append, findFirst?, findFirst?, ← List.cons_append]
      cases hread : argument? kind (c :: cs) with
      | none =>
          rw [hclosed _ List.suffix_rfl hread mark hmark rest, Option.none_or, Option.none_or]
          exact ih (hclosed.of_suffix (List.suffix_cons _ _))
      | some found =>
          rw [argument?_append hread]
          rfl

variable {t : Text} {lines : List Text}

theorem columns_eq_flatMap (hmade : MadeOf t lines)
    (hclosed : ∀ line ∈ lines, Closed "column".toList line) :
    columns t = lines.flatMap columns := by
  induction hmade with
  | last hline => simp
  | next hline hmark hrest ih =>
      rw [columns_append_lineEnd (hclosed _ List.mem_cons_self) hmark, List.flatMap_cons,
        ih fun line hline => hclosed line (List.mem_cons_of_mem _ hline)]

theorem findFirst?_eq_findSome? {kind : Text} (hmade : MadeOf t lines)
    (hclosed : ∀ line ∈ lines, Closed kind line) :
    ∃ more, findFirst? (argument? kind) t =
      (lines.findSome? (findFirst? (argument? kind))).map fun found =>
        (found.1, found.2 ++ more) := by
  induction hmade with
  | @last line hline =>
      refine ⟨[], ?_⟩
      cases h : findFirst? (argument? kind) line <;> simp [h]
  | @next line mark rest lines hline hmark hrest ih =>
      obtain ⟨more, hmore⟩ := ih fun line hline => hclosed line (List.mem_cons_of_mem _ hline)
      rw [findFirst?_append_lineEnd (hclosed _ List.mem_cons_self) hmark, List.findSome?_cons]
      cases h : findFirst? (argument? kind) line with
      | some found => exact ⟨mark ++ rest, rfl⟩
      | none => exact ⟨more, hmore⟩

/-- The first table attribute on the lines, by its name and what follows the name on its line. -/
def firstTable? (lines : List Text) : Option (Text × Text) :=
  lines.findSome? (findFirst? (argument? "table".toList))

theorem table?_eq_firstTable? (hmade : MadeOf t lines)
    (hclosed : ∀ line ∈ lines, Closed "table".toList line)
    (hbracket : ∀ name rest, firstTable? lines = some (name, rest) → ']' ∈ rest) :
    table? t = (firstTable? lines).map fun found => (found.1, found.2.takeWhile (· != ']')) := by
  obtain ⟨more, hmore⟩ := findFirst?_eq_findSome? hmade hclosed
  rw [table?, hmore, ← firstTable?]
  cases h : firstTable? lines with
  | none => rfl
  | some found =>
      have hmem := hbracket found.1 found.2 h
      have hstop : ¬ (found.2.takeWhile (· != ']')).length = found.2.length := by
        intro hlength
        have hall := (List.takeWhile_prefix _).eq_of_length hlength
        simpa using List.takeWhile_eq_self_iff.mp hall _ hmem
      simp only [Option.map_some, Option.some.injEq, Prod.mk.injEq, true_and]
      rw [List.takeWhile_append, if_neg hstop]

end Scanning

end MappingMarkers.Proofs.LinewiseAttributes
