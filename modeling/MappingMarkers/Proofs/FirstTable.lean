import MappingMarkers.Proofs.AttributeOpening

namespace MappingMarkers.Proofs.FirstTable

open Text Attribute AttributeOpening Reading

section First

variable {content front rest : Text} {o : Opening "table".toList}

theorem table?_of_first (h : FirstIn Opening.text content front o rest) (after : Text) :
    table? (front ++ (o.text ++ after)) =
      if o.name = [] then table? after else some (o.name, after.takeWhile (· != ']')) := by
  rw [table?, findFirst?_of_first (by decide) h after]
  split <;> rfl

theorem table?_of_none
    (h : ∀ front (o : Opening "table".toList) rest, content ≠ front ++ (o.text ++ rest)) :
    table? content = none := by
  have hnone : findFirst? (argument? "table".toList) content = none := by
    rw [findFirst?_eq_none_iff]
    rintro tail ⟨front, rfl⟩
    rw [Option.eq_none_iff_forall_ne_some]
    rintro ⟨name, rest⟩ hread
    obtain ⟨-, o, -, rfl⟩ := argument?_eq_some_iff.mp hread
    exact h front o rest rfl
  rw [table?, hnone, Option.map_none]

end First

/-- The name of the first table attribute is the answer, or there is none when the name is blank.
Only an empty name leaves the answer to what stands behind it. -/
theorem tableName?_of_first (content : Text) :
    (tableName? content = none ∨
      ∃ front, ∃ o : Opening "table".toList, ∃ rest, FirstIn Opening.text content front o rest) ∧
    ∀ front (o : Opening "table".toList) rest, FirstIn Opening.text content front o rest → ∀ after,
      tableName? (front ++ (o.text ++ after)) =
        if o.name = [] then tableName? after
        else if o.name.all isBlank then none else some o.name := by
  constructor
  · rcases none_or_exists_first (@Opening.text "table".toList) content with hnone | hfirst
    · exact Or.inl (by rw [tableName?, table?_of_none hnone]; rfl)
    · exact Or.inr hfirst
  · intro front o rest h after
    rw [tableName?, table?_of_first h after]
    split
    · rfl
    · rfl

/-- `[TABLE( name = " a"`. -/
def paddedName : Opening "table".toList where
  word := "TABLE".toList
  gap := []
  margin := " ".toList
  label := "name = ".toList
  name := " a".toList
  spelled := by decide
  blank_gap := blank_nil
  blank_margin := blank_space
  labelled := Or.inr ⟨"name".toList, " ".toList, " ".toList, by decide, blank_space, blank_space, rfl⟩
  closed := by decide

theorem tableName?_of_first_paddedName :
    let front := "using X;\n".toList
    let after := ", Schema = \"s\")]\n[Table(\"b\")]".toList
    FirstIn Opening.text (front ++ (paddedName.text ++ after)) front paddedName after ∧
      tableName? "using X;\n[TABLE( name = \" a\", Schema = \"s\")]\n[Table(\"b\")]".toList =
        some " a".toList := by
  intro front after
  have hfirst : FirstIn Opening.text (front ++ (paddedName.text ++ after)) front paddedName after :=
    first_of_notMem (by decide) paddedName after
  exact ⟨hfirst, (tableName?_of_first _).2 front paddedName after hfirst after⟩

example : tableName? "[Table(\"\")]\n[Table(\"X\")]".toList = some "X".toList := by decide

end MappingMarkers.Proofs.FirstTable
