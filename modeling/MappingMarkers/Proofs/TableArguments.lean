import Mathlib.Data.List.Infix
import MappingMarkers.Proofs.FirstTable

/-!
Which schema a text is mapped to. What is searched is not the argument list of the first table
attribute but everything from the attribute's name to the next closing bracket. Both come to the
same as long as nothing else in that stretch looks like a schema argument, and as long as no bracket
inside an argument cuts the stretch off.
-/

namespace MappingMarkers.Proofs.TableArguments

open Text Attribute LinewiseAttributes AttributeOpening FirstTable Reading

section Naming

/-- The schema argument that the text begins with, and what follows it. -/
def schemaArgument? (t : Text) : Option (Text × Text) :=
  (afterLabel? "schema".toList t).bind quotedValue?

/-- The word `Schema`, an equals sign and a quoted text that is not empty. -/
structure Naming where
  label : Text
  value : Text
  labels : Labels "schema".toList label
  closed : '"' ∉ value
  filled : value ≠ []

def Naming.text (n : Naming) : Text := n.label ++ '"' :: (n.value ++ ['"'])

theorem schemaArgument?_eq_some_iff (t : Text) (found : Text × Text) :
    schemaArgument? t = some found ↔
      ∃ (n : Naming) (rest : Text), t = n.text ++ rest ∧ (n.value, rest) = found := by
  rw [schemaArgument?, Option.bind_eq_some_iff]
  constructor
  · rintro ⟨u, hlabel, hvalue⟩
    obtain ⟨label, hlabels, rfl, -⟩ := afterLabel?_eq_some_iff.mp hlabel
    obtain ⟨rfl, hclosed, hfilled⟩ := quotedValue?_eq_some_iff.mp hvalue
    exact ⟨⟨label, found.1, hlabels, hclosed, hfilled⟩, found.2, by simp [Naming.text], rfl⟩
  · rintro ⟨n, rest, rfl, rfl⟩
    refine ⟨'"' :: (n.value ++ '"' :: rest), ?_, ?_⟩
    · exact afterLabel?_eq_some_iff.mpr ⟨n.label, n.labels, by simp [Naming.text], rfl⟩
    · exact quotedValue?_eq_some_iff.mpr ⟨rfl, n.closed, n.filled⟩

variable {content front rest : Text} {o : Opening "table".toList}

theorem tableSchema?_of_first (h : FirstIn Opening.text content front o rest) :
    tableSchema? content =
      if o.name = [] then tableSchema? rest
      else (findFirst? schemaArgument? (rest.takeWhile (· != ']'))).map (·.1) := by
  rw [h.split, tableSchema?, table?_of_first h rest]
  split
  · rfl
  · rfl

theorem tableSchema?_eq_some_iff (h : FirstIn Opening.text content front o rest)
    (hname : o.name ≠ []) (value : Text) :
    tableSchema? content = some value ↔
      ∃ front' n rest', FirstIn Naming.text (rest.takeWhile (· != ']')) front' n rest' ∧
        n.value = value := by
  rw [tableSchema?_of_first h, if_neg hname, Option.map_eq_some_iff]
  simp only [findFirst?_eq_some_iff schemaArgument?_eq_some_iff]
  constructor
  · rintro ⟨_, ⟨front', n, rest', hfirst, rfl⟩, rfl⟩
    exact ⟨front', n, rest', hfirst, rfl⟩
  · rintro ⟨front', n, rest', hfirst, rfl⟩
    exact ⟨_, ⟨front', n, rest', hfirst, rfl⟩, rfl⟩

end Naming

section Silent

/-- No schema argument begins in the text, whatever follows it. -/
def Silent (p : Text) : Prop :=
  ∀ u, u <:+ p → u ≠ [] → ∀ t, schemaArgument? (u ++ t) = none

theorem silent_append {p q : Text} (hq : Silent q)
    (h : ∀ u, u <:+ p → u ≠ [] → ∀ t, schemaArgument? (u ++ (q ++ t)) = none) :
    Silent (p ++ q) := by
  rintro u ⟨v, hv⟩ hne t
  rcases List.append_eq_append_iff.mp hv with ⟨u', rfl, rfl⟩ | ⟨q', rfl, rfl⟩
  · cases u' with
    | nil => exact hq _ List.suffix_rfl hne t
    | cons c cs =>
        rw [List.append_assoc]
        exact h _ (List.suffix_append _ _) (List.cons_ne_nil _ _) t
  · exact hq _ (List.suffix_append _ _) hne t

theorem Silent.append {p q : Text} (hp : Silent p) (hq : Silent q) : Silent (p ++ q) :=
  silent_append hq fun u hu hne t => hp u hu hne (q ++ t)

theorem Silent.prefix_front {p front rest after : Text} (hp : Silent p) {n : Naming}
    (h : front ++ (n.text ++ rest) = p ++ after) : p <+: front := by
  rcases List.append_eq_append_iff.mp h with ⟨u, rfl, hn⟩ | ⟨v, rfl, -⟩
  · cases u with
    | nil => simp
    | cons c cs =>
        have hnone := hp _ (List.suffix_append _ _) (List.cons_ne_nil c cs) after
        rw [← hn, (schemaArgument?_eq_some_iff _ _).mpr ⟨n, rest, rfl, rfl⟩] at hnone
        contradiction
  · exact List.prefix_append _ _

theorem isLetter_eq_false {c : Char} (h : isPlain c = false) : isLetter 's' c = false := by
  rw [Bool.eq_false_iff]
  intro hletter
  rw [isPlain_of_mem_letters c (mem_letters (by decide) hletter)] at h
  contradiction

theorem isPlain_of_isBlank {c : Char} (h : isBlank c = true) : isPlain c = false := by
  simp [isPlain, h]

theorem isPlain_of_mem_marks {c : Char} (h : c ∈ marks) : isPlain c = false := by
  simp [isPlain, h]

theorem silent_of_forall {p : Text} (h : ∀ c ∈ p, isPlain c = false) : Silent p := by
  intro u hu hne t
  obtain ⟨c, cs, rfl⟩ := List.exists_cons_of_ne_nil hne
  have hc := isLetter_eq_false (h c (hu.subset List.mem_cons_self))
  have hword : afterWord? "schema".toList (c :: (cs ++ t)) = none := by
    rw [show "schema".toList = 's' :: "chema".toList from rfl, afterWord?, if_neg (by simp [hc])]
  rw [schemaArgument?, afterLabel?, List.cons_append, hword]
  rfl

theorem silent_blank {blanks : Text} (h : Blank blanks) : Silent blanks :=
  silent_of_forall fun c hc => isPlain_of_isBlank (h c hc)

theorem silent_mark {c : Char} (h : c ∈ marks) : Silent [c] :=
  silent_of_forall fun d hd => isPlain_of_mem_marks (by rwa [List.mem_singleton.mp hd])

theorem takeWhile_isPlain {v gap : Text} (hv : ∀ c ∈ v, isPlain c = true) (hgap : Blank gap)
    (t : Text) : (v ++ (gap ++ '=' :: t)).takeWhile isPlain = v := by
  have hstop : (gap ++ '=' :: t).takeWhile isPlain = [] :=
    takeWhile_blank_mark (fun _ => isPlain_of_isBlank) hgap (by decide) t
  exact (span_append hv hstop).1

/-- Only an identifier that ends in the word `Schema` lets a schema argument begin. -/
theorem silent_identifier {v gap : Text} (hv : ∀ c ∈ v, isPlain c = true) (hgap : Blank gap)
    (hnot : ∀ u, u <:+ v → ¬ Spells "schema".toList u) : Silent (v ++ (gap ++ ['='])) := by
  refine silent_append ((silent_blank hgap).append (silent_mark (by decide))) ?_
  intro u hu _ t
  rw [Option.eq_none_iff_forall_ne_some]
  intro found hread
  obtain ⟨n, rest, hsplit, -⟩ := (schemaArgument?_eq_some_iff _ _).mp hread
  obtain ⟨w, gap', margin', hw, hgap', -, hlabel⟩ := n.labels
  have hcut : u ++ (gap ++ '=' :: t) =
      w ++ (gap' ++ '=' :: (margin' ++ '"' :: (n.value ++ '"' :: rest))) := by
    simpa [Naming.text, hlabel] using hsplit
  -- Both sides begin with an identifier, which ends at the same place.
  have hplain := congrArg (List.takeWhile isPlain) hcut
  rw [takeWhile_isPlain (fun c hc => hv c (hu.subset hc)) hgap,
    takeWhile_isPlain (isPlain_of_spells (by decide) hw) hgap'] at hplain
  exact hnot u hu (hplain ▸ hw)

theorem silent_value {v : Text} (hv : '"' ∉ v)
    (hnot : ∀ label, Labels "schema".toList label → ¬ label <:+ v) : Silent (v ++ ['"']) := by
  refine silent_append (silent_mark (by decide)) ?_
  intro u hu _ t
  rw [Option.eq_none_iff_forall_ne_some]
  intro found hread
  obtain ⟨n, rest, hsplit, -⟩ := (schemaArgument?_eq_some_iff _ _).mp hread
  have hlabel : '"' ∉ n.label := mark_notMem_of_labels (by decide) (by decide) (by decide) n.labels
  have hcut : u ++ '"' :: t = n.label ++ '"' :: (n.value ++ '"' :: rest) := by
    simpa [Naming.text] using hsplit
  -- The quote that closes the text is taken for the one in front of the schema.
  have hu' := (cut_quote_iff.mpr ⟨hcut, hlabel⟩).1
  have hself := (cut_quote_iff.mpr ⟨rfl, fun hmem => hv (hu.subset hmem)⟩ :
    (u ++ '"' :: t).takeWhile (· != '"') = u ∧ _).1
  exact hnot n.label n.labels (by rwa [← hu', hself])

end Silent

/-- A further argument of an attribute: a comma, an identifier, an equals sign and a quoted text,
with white space between them. -/
structure Argument where
  lead : Text
  identifier : Text
  gap : Text
  margin : Text
  value : Text
  trail : Text
  blank_lead : Blank lead
  plain : ∀ c ∈ identifier, isPlain c = true
  named : identifier ≠ []
  blank_gap : Blank gap
  blank_margin : Blank margin
  closed : '"' ∉ value
  blank_trail : Blank trail

namespace Argument

variable (a : Argument)

def front : Text := ',' :: a.lead

def label : Text := a.identifier ++ (a.gap ++ '=' :: a.margin)

def text : Text := a.front ++ (a.label ++ '"' :: (a.value ++ '"' :: a.trail))

def isSchema : Bool := decide (Spells "schema".toList a.identifier)

/-- Nothing in the argument is taken for a schema argument. -/
structure Harmless : Prop where
  identifier : ∀ u, u <:+ a.identifier → ¬ Spells "schema".toList u
  value : ∀ label, Labels "schema".toList label → ¬ label <:+ a.value

theorem silent_front : Silent a.front :=
  (silent_mark (c := ',') (by decide)).append (silent_blank a.blank_lead)

variable {a}

theorem Harmless.silent (h : a.Harmless) : Silent a.text := by
  have hidentifier := silent_identifier a.plain a.blank_gap h.identifier
  have hmargin := (silent_blank a.blank_margin).append (silent_mark (c := '"') (by decide))
  have hvalue := silent_value a.closed h.value
  have hall := a.silent_front.append (hidentifier.append (hmargin.append
    (hvalue.append (silent_blank a.blank_trail))))
  simpa [text, label] using hall

theorem bracket_notMem_label : ']' ∉ a.label := by
  have hidentifier : ']' ∉ a.identifier := fun hmem => absurd (a.plain _ hmem) (by decide)
  have hgap := mark_notMem_of_blank (m := ']') (by decide) a.blank_gap
  have hmargin := mark_notMem_of_blank (m := ']') (by decide) a.blank_margin
  simp [label, hidentifier, hgap, hmargin]

theorem bracket_notMem_front : ']' ∉ a.front := by
  simp [front, mark_notMem_of_blank (m := ']') (by decide) a.blank_lead]

theorem bracket_notMem_text (h : ']' ∉ a.value) : ']' ∉ a.text := by
  have htrail := mark_notMem_of_blank (m := ']') (by decide) a.blank_trail
  simp [text, bracket_notMem_front, bracket_notMem_label, h, htrail]

end Argument

section Arguments

variable {args : List Argument}

theorem silent_flatMap (h : ∀ a ∈ args, a.Harmless) : Silent (args.flatMap Argument.text) := by
  induction args with
  | nil => exact fun u hu hne => absurd (List.suffix_nil.mp hu) hne
  | cons a rest ih =>
      obtain ⟨ha, hrest⟩ := List.forall_mem_cons.mp h
      exact ha.silent.append (ih hrest)

theorem bracket_notMem_flatMap (h : ∀ a ∈ args, ']' ∉ a.value) :
    ']' ∉ args.flatMap Argument.text := by
  rw [List.mem_flatMap]
  rintro ⟨a, ha, hmem⟩
  exact Argument.bracket_notMem_text (h a ha) hmem

/-- What stands between the first argument and the text behind the attribute's parenthesis. -/
def closing (lead : Text) (args : List Argument) : Text :=
  lead ++ (args.flatMap Argument.text ++ [')'])

theorem silent_closing {lead : Text} (hlead : Blank lead) (h : ∀ a ∈ args, a.Harmless) :
    Silent (closing lead args) :=
  (silent_blank hlead).append ((silent_flatMap h).append (silent_mark (by decide)))

theorem value_subset_closing {lead : Text} {a : Argument} (ha : a ∈ args) :
    a.value ⊆ closing lead args := by
  intro c hc
  have htext : c ∈ a.text := by simp [Argument.text, hc]
  have hflat : c ∈ args.flatMap Argument.text := List.mem_flatMap.mpr ⟨a, ha, htext⟩
  simp [closing, hflat]

theorem schema_of_reached {lead : Text} {pre : List Argument} {s : Argument} (hlead : Blank lead)
    (hpre : ∀ a ∈ pre, a.Harmless) (hs : s.isSchema = true) (hfilled : s.value ≠ [])
    (hbracket : ∀ a ∈ pre ++ [s], ']' ∉ a.value) (rest : Text) :
    (findFirst? schemaArgument?
      ((lead ++ (pre.flatMap Argument.text ++ (s.text ++ rest))).takeWhile (· != ']'))).map (·.1) =
        some s.value := by
  obtain ⟨hpre', hvalue⟩ := List.forall_mem_append.mp hbracket
  have hvalue := hvalue s (List.mem_singleton.mpr rfl)
  let front := lead ++ (pre.flatMap Argument.text ++ s.front)
  let read := s.label ++ '"' :: (s.value ++ ['"'])
  have hnot : ∀ c ∈ front ++ read, (c != ']') = true := by
    have hfront : ']' ∉ front := by
      simp [front, mark_notMem_of_blank (m := ']') (by decide) hlead,
        bracket_notMem_flatMap hpre', Argument.bracket_notMem_front]
    have hread : ']' ∉ read := by simp [read, Argument.bracket_notMem_label, hvalue]
    intro c hc
    refine bne_iff_ne.mpr ?_
    rintro rfl
    exact (List.mem_append.mp hc).elim hfront hread
  have hsplit : lead ++ (pre.flatMap Argument.text ++ (s.text ++ rest)) =
      (front ++ read) ++ (s.trail ++ rest) := by
    simp [front, read, Argument.text]
  have hsilent : Silent front :=
    (silent_blank hlead).append ((silent_flatMap hpre).append s.silent_front)
  let naming : Naming :=
    ⟨s.label, s.value, ⟨s.identifier, s.gap, s.margin, of_decide_eq_true hs, s.blank_gap,
      s.blank_margin, rfl⟩, s.closed, hfilled⟩
  have hfound := fun t =>
    (schemaArgument?_eq_some_iff (read ++ t) _).mpr ⟨naming, t, rfl, rfl⟩
  rw [hsplit, List.takeWhile_append_of_pos hnot, List.append_assoc,
    findFirst?_append_of_none fun u hu hne => hsilent u hu hne _,
    findFirst?_of_eq_some (hfound _), Option.map_some]

theorem schema_of_absent {lead after : Text} (hlead : Blank lead)
    (hargs : ∀ a ∈ args, a.Harmless)
    (habsent : (∀ a ∈ args, ']' ∉ a.value) → ∀ front (n : Naming) rest,
      after.takeWhile (· != ']') ≠ front ++ (n.text ++ rest)) :
    findFirst? schemaArgument? ((closing lead args ++ after).takeWhile (· != ']')) = none := by
  rw [findFirst?_eq_none_iff]
  rintro tail ⟨front, hfront⟩
  rw [Option.eq_none_iff_forall_ne_some]
  intro found hread
  obtain ⟨n, rest, rfl, -⟩ := (schemaArgument?_eq_some_iff _ _).mp hread
  obtain ⟨more, hmore⟩ := List.takeWhile_prefix (· != ']') (l := closing lead args ++ after)
  have hwhole : front ++ (n.text ++ (rest ++ more)) = closing lead args ++ after := by
    rw [← hmore, ← hfront]
    simp
  -- It begins behind the parenthesis, and so the search has passed everything before it.
  obtain ⟨v, rfl⟩ := (silent_closing hlead hargs).prefix_front hwhole
  have hnot : ∀ c ∈ closing lead args, (c != ']') = true := by
    intro c hc
    have hmem := List.mem_append_left (n.text ++ rest) (List.mem_append_left v hc)
    rw [hfront] at hmem
    exact List.mem_takeWhile_imp (p := (· != ']')) hmem
  rw [List.takeWhile_append_of_pos hnot, List.append_assoc, List.append_cancel_left_eq] at hfront
  refine habsent (fun a ha hmem => ?_) v n rest hfront.symm
  exact bne_iff_ne.mp (hnot _ (value_subset_closing ha hmem)) rfl

end Arguments

/-- What arguments, and the text behind the attribute's parenthesis, must be like for the search to
end at the arguments' schema. -/
structure Unambiguous (args : List Argument) (after : Text) : Prop where
  /-- No argument before the schema, or none at all, is taken for one. -/
  harmless : ∀ a ∈ args.takeWhile (!·.isSchema), a.Harmless
  /-- The schema is not empty, and no bracket in an argument cuts the search off before its end. -/
  reached : ∀ s, args.find? (·.isSchema) = some s →
    s.value ≠ [] ∧ ∀ a ∈ args.takeWhile (!·.isSchema) ++ [s], ']' ∉ a.value
  /-- Without a schema among the arguments none follows up to the next closing bracket. -/
  absent : args.find? (·.isSchema) = none → (∀ a ∈ args, ']' ∉ a.value) →
    ∀ front (n : Naming) rest, after.takeWhile (· != ']') ≠ front ++ (n.text ++ rest)

/-- The schema is the first schema argument up to the bracket that follows the first table
attribute's name; it is the one among the attribute's own arguments, if any, unless they or the text
behind them are ambiguous. An attribute with an empty name is passed over. -/
theorem tableSchema?_of_arguments {content front rest : Text} {o : Opening "table".toList}
    (hfirst : FirstIn Opening.text content front o rest) :
    (o.name = [] → tableSchema? content = tableSchema? rest) ∧
    (o.name ≠ [] →
      (∀ value, tableSchema? content = some value ↔
        ∃ front' n rest', FirstIn Naming.text (rest.takeWhile (· != ']')) front' n rest' ∧
          n.value = value) ∧
      ∀ lead args after, Blank lead →
        rest = lead ++ (args.flatMap Argument.text ++ ')' :: after) → Unambiguous args after →
          tableSchema? content = (args.find? (·.isSchema)).map (·.value)) := by
  constructor
  · intro hempty
    rw [tableSchema?_of_first hfirst, if_pos hempty]
  · intro hname
    refine ⟨tableSchema?_eq_some_iff hfirst hname, ?_⟩
    rintro lead args after hlead rfl hargs
    rw [tableSchema?_of_first hfirst, if_neg hname]
    cases hfind : args.find? (·.isSchema) with
    | none =>
        have hothers : args.takeWhile (!·.isSchema) = args := by
          refine List.takeWhile_eq_self_iff.mpr fun a ha => ?_
          simpa using List.find?_eq_none.mp hfind a ha
        have hharmless := hargs.harmless
        rw [hothers] at hharmless
        have hsearch := schema_of_absent hlead hharmless (hargs.absent hfind)
        rw [closing, List.append_assoc, List.append_assoc, List.singleton_append] at hsearch
        rw [hsearch, Option.map_none, Option.map_none]
    | some s =>
        obtain ⟨hs, pre, post, rfl, hpre⟩ := List.find?_eq_some_iff_append.mp hfind
        have hothers : (pre ++ s :: post).takeWhile (!·.isSchema) = pre := by
          rw [List.takeWhile_append_of_pos hpre, List.takeWhile_cons_of_neg (by simp [hs]),
            List.append_nil]
        obtain ⟨hfilled, hbracket⟩ := hargs.reached s hfind
        have hharmless := hargs.harmless
        rw [hothers] at hharmless hbracket
        rw [List.flatMap_append, List.flatMap_cons, List.append_assoc, List.append_assoc]
        exact schema_of_reached hlead hharmless hs hfilled hbracket _

/-- `[Table("T"`. -/
def openTable : Opening "table".toList where
  word := "Table".toList
  gap := []
  margin := []
  label := []
  name := "T".toList
  spelled := by decide
  blank_gap := blank_nil
  blank_margin := blank_nil
  labelled := Or.inl rfl
  closed := by decide

/-- `, Tag = "Schema"`. -/
def tagArgument : Argument where
  lead := " ".toList
  identifier := "Tag".toList
  gap := " ".toList
  margin := " ".toList
  value := "Schema".toList
  trail := []
  blank_lead := blank_space
  plain := List.all_eq_true.mp (by decide)
  named := by decide
  blank_gap := blank_space
  blank_margin := blank_space
  closed := by decide
  blank_trail := blank_nil

/-- `, SCHEMA = "S"`. -/
def ownerArgument : Argument where
  lead := " ".toList
  identifier := "SCHEMA".toList
  gap := " ".toList
  margin := " ".toList
  value := "S".toList
  trail := []
  blank_lead := blank_space
  plain := List.all_eq_true.mp (by decide)
  named := by decide
  blank_gap := blank_space
  blank_margin := blank_space
  closed := by decide
  blank_trail := blank_nil

theorem tagArgument_harmless : tagArgument.Harmless where
  identifier u hu := by
    have hall : ∀ u ∈ tagArgument.identifier.tails, ¬ Spells "schema".toList u := by decide
    exact hall u ((List.mem_tails _ _).mpr hu)
  value := by
    rintro label ⟨w, gap, margin, -, -, -, rfl⟩ hsuffix
    have hequals : '=' ∈ tagArgument.value := hsuffix.subset (by simp)
    exact absurd hequals (by decide)

theorem unambiguous_tagArgument_ownerArgument (after : Text) :
    Unambiguous [tagArgument, ownerArgument] after where
  harmless := List.forall_mem_singleton.mpr tagArgument_harmless
  reached s hs := by
    obtain rfl : ownerArgument = s := Option.some.inj hs
    decide
  absent h := absurd h (by decide)

theorem tableSchema?_of_arguments_ownerArgument :
    let args := [tagArgument, ownerArgument]
    let after := ", Key(Schema = \"X\")]".toList
    let rest := args.flatMap Argument.text ++ ')' :: after
    FirstIn Opening.text (openTable.text ++ rest) [] openTable rest ∧ openTable.name ≠ [] ∧
      Blank [] ∧ Unambiguous args after ∧
      tableSchema? "[Table(\"T\", Tag = \"Schema\", SCHEMA = \"S\"), Key(Schema = \"X\")]".toList =
        some "S".toList := by
  intro args after rest
  have hfirst : FirstIn Opening.text (openTable.text ++ rest) [] openTable rest :=
    first_of_notMem List.not_mem_nil openTable rest
  have hname : openTable.name ≠ [] := by decide
  have hargs := unambiguous_tagArgument_ownerArgument after
  exact ⟨hfirst, hname, blank_nil, hargs,
    ((tableSchema?_of_arguments hfirst).2 hname).2 [] args after blank_nil rfl hargs⟩

example : tableSchema? "[Table(\"T\"), Key(Schema = \"X\")]".toList = some "X".toList := by decide

end MappingMarkers.Proofs.TableArguments
