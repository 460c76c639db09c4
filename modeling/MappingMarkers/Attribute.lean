import MappingMarkers.Text.Case

namespace MappingMarkers.Attribute

open Text

/-- A text in double quotes that is not empty, and what follows it. -/
def quotedValue? (t : Text) : Option (Text × Text) := do
  let t ← after? ['"'] t
  let value := t.takeWhile (· != '"')
  let rest ← after? ['"'] (t.dropWhile (· != '"'))
  if value.isEmpty then none else some (value, rest)

/-- What follows a label and its equals sign. -/
def afterLabel? (label t : Text) : Option Text := do
  let t ← afterWord? label t
  let t ← after? ['='] (skipBlanks t)
  return skipBlanks t

/-- The first argument of the attribute of this kind that the text begins with, and what follows the
argument. It may be labelled as the name. -/
def argument? (kind t : Text) : Option (Text × Text) := do
  let t ← after? ['['] t
  let t ← afterWord? kind t
  let t ← after? ['('] (skipBlanks t)
  let t := skipBlanks t
  quotedValue? ((afterLabel? "name".toList t).getD t)

theorem length_after? {head t rest : Text} (h : after? head t = some rest) :
    rest.length + head.length = t.length := by
  induction head generalizing t with
  | nil => simp_all [after?]
  | cons c cs ih =>
      cases t with
      | nil => simp [after?] at h
      | cons d ds =>
          simp only [after?, Option.ite_none_right_eq_some] at h
          simpa [← Nat.add_assoc] using ih h.2

theorem length_afterWord? {word t rest : Text} (h : afterWord? word t = some rest) :
    rest.length + word.length = t.length := by
  induction word generalizing t with
  | nil => simp_all [afterWord?]
  | cons c cs ih =>
      cases t with
      | nil => simp [afterWord?] at h
      | cons d ds =>
          simp only [afterWord?, Option.ite_none_right_eq_some] at h
          simpa [← Nat.add_assoc] using ih h.2

theorem length_skipBlanks_le (t : Text) : (skipBlanks t).length ≤ t.length :=
  (List.dropWhile_suffix _).length_le

theorem length_quotedValue? {t value rest : Text} (h : quotedValue? t = some (value, rest)) :
    rest.length < t.length := by
  simp only [quotedValue?, Option.bind_eq_bind, Option.bind_eq_some_iff,
    Option.ite_none_left_eq_some, Option.some.injEq, Prod.mk.injEq] at h
  obtain ⟨inner, h₁, after, h₂, -, -, rfl⟩ := h
  have h₁ := length_after? h₁
  have h₂ := length_after? h₂
  have h₃ := (List.dropWhile_suffix (· != '"') (l := inner)).length_le
  simp only [List.length_singleton] at h₁ h₂
  omega

theorem length_afterLabel?_le {label t rest : Text} (h : afterLabel? label t = some rest) :
    rest.length ≤ t.length := by
  simp only [afterLabel?, Option.bind_eq_bind, Option.bind_eq_some_iff, Option.pure_def,
    Option.some.injEq] at h
  obtain ⟨u, h₁, v, h₂, rfl⟩ := h
  have h₁ := length_afterWord? h₁
  have h₂ := length_after? h₂
  have h₃ := length_skipBlanks_le u
  have h₄ := length_skipBlanks_le v
  omega

theorem length_argument? {kind t value rest : Text}
    (h : argument? kind t = some (value, rest)) : rest.length < t.length := by
  simp only [argument?, Option.bind_eq_bind, Option.bind_eq_some_iff] at h
  obtain ⟨u, h₁, v, h₂, w, h₃, h₄⟩ := h
  have h₁ := length_after? h₁
  have h₂ := length_afterWord? h₂
  have h₃ := length_after? h₃
  have h₄ := length_quotedValue? h₄
  have h₅ := length_skipBlanks_le v
  have h₆ := length_skipBlanks_le w
  have h₇ : ((afterLabel? "name".toList (skipBlanks w)).getD (skipBlanks w)).length ≤
      (skipBlanks w).length := by
    cases h : afterLabel? "name".toList (skipBlanks w) with
    | none => simp
    | some r => simpa using length_afterLabel?_le h
  omega

/-- The name in the first table attribute and the text from there to the next closing bracket. -/
def table? (content : Text) : Option (Text × Text) :=
  (findFirst? (argument? "table".toList) content).map fun (name, rest) =>
    (name, rest.takeWhile (· != ']'))

/-- The table that the first table attribute names, unless the name is blank. -/
def tableName? (content : Text) : Option Text := do
  let (name, _) ← table? content
  if name.all isBlank then none else some name

/-- The schema that the first table attribute names. -/
def tableSchema? (content : Text) : Option Text := do
  let (_, rest) ← table? content
  findFirst? (fun t => (afterLabel? "schema".toList t).bind quotedValue?) rest |>.map (·.1)

/-- The names in the column attributes, from left to right; no attribute begins inside another one's
name. -/
def columns : Text → List Text
  | [] => []
  | c :: cs =>
      match h : argument? "column".toList (c :: cs) with
      | some (name, rest) =>
          have := length_argument? h
          name :: columns rest
      | none => columns cs
termination_by t => t.length
decreasing_by
  · exact this
  · exact Nat.lt_succ_self _

/-- The distinct columns that the content maps, in the order in which they come first. -/
def mappedColumns (content : Text) : List Text := (columns content).eraseDups

end MappingMarkers.Attribute
