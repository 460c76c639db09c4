import MappingMarkers.Proofs.DictionaryOrder
import MappingMarkers.Run

namespace MappingMarkers.Proofs.Validation

open Text Catalog

/-- What a mapped source file asks of its table, and the columns that the table has. The names are
in the form in which names are compared. -/
structure Finding where
  entity : Text
  owner : Cell
  table : Text
  mapped : List Text
  present : List Cell

namespace Finding

def missing (f : Finding) : List Text :=
  sortedSet (f.mapped.filter fun name => !f.present.contains (some name))

def check (f : Finding) : TableCheck :=
  { entity := f.entity, schema := f.owner, table := f.table, missing := f.missing }

theorem mem_missing_iff {f : Finding} {name : Text} :
    name ∈ f.missing ↔ name ∈ f.mapped ∧ some name ∉ f.present := by
  simp [missing, DictionaryOrder.mem_sortedSet_iff]

theorem ok_check_eq_false_iff {f : Finding} :
    f.check.ok = false ↔ ∃ name ∈ f.mapped, some name ∉ f.present := by
  rw [TableCheck.ok, List.isEmpty_eq_false_iff_exists_mem]
  simp only [check, mem_missing_iff]

end Finding

/-- What does not change while source files are checked. -/
structure Scope where
  tree : Files.Tree
  exactNames : Bool
  schema : Option Text

namespace Scope

def normal (scope : Scope) (name : Text) : Text := CheckSession.normal scope.exactNames name

/-- A source file is not mapped to a table, or its columns are compared with those that the database
names for its owner and its table. -/
inductive Found (scope : Scope) (c : CheckSession) (path : Files.Path) :
    Option Finding → CheckSession → Prop
  | unmapped {content : Text} (read : Files.readSource scope.tree path.text = .ok content)
      (named : Attribute.tableName? content = none) : Found scope c path none c
  | mapped {content name : Text} {owner known : Cell} {present : List Cell} {c₁ c₂ : CheckSession}
      (read : Files.readSource scope.tree path.text = .ok content)
      (named : Attribute.tableName? content = some name)
      (owned : c.owner content scope.schema = (.ok owner, c₁))
      (normal : CheckSession.normalCell scope.exactNames owner = .ok known)
      (answered : c₁.columns scope.exactNames known (scope.normal name) = (.ok present, c₂)) :
      Found scope c path
        (some { entity := path.name, owner := known, table := scope.normal name
                mapped := (Attribute.mappedColumns content).map scope.normal, present }) c₂

/-- A source file cannot be checked, because of this fault. -/
inductive Breaks (scope : Scope) (c : CheckSession) (path : Files.Path) : Fault → Prop
  | unread {f : Fault} (read : Files.readSource scope.tree path.text = .error f) :
      Breaks scope c path f
  | unowned {content name : Text} {c₁ : CheckSession} {f : Fault}
      (read : Files.readSource scope.tree path.text = .ok content)
      (named : Attribute.tableName? content = some name)
      (owned : c.owner content scope.schema = (.error f, c₁)) : Breaks scope c path f
  | unnamed {content name : Text} {owner : Cell} {c₁ : CheckSession} {e : RowError}
      (read : Files.readSource scope.tree path.text = .ok content)
      (named : Attribute.tableName? content = some name)
      (owned : c.owner content scope.schema = (.ok owner, c₁))
      (normal : CheckSession.normalCell scope.exactNames owner = .error e) :
      Breaks scope c path (.row e)
  | unanswered {content name : Text} {owner known : Cell} {c₁ c₂ : CheckSession} {f : Fault}
      (read : Files.readSource scope.tree path.text = .ok content)
      (named : Attribute.tableName? content = some name)
      (owned : c.owner content scope.schema = (.ok owner, c₁))
      (normal : CheckSession.normalCell scope.exactNames owner = .ok known)
      (answered : c₁.columns scope.exactNames known (scope.normal name) = (.error f, c₂)) :
      Breaks scope c path f

def checkFile (scope : Scope) (path : Files.Path) (c : CheckSession) :
    Except Fault (Option TableCheck) × CheckSession :=
  match Files.readSource scope.tree path.text with
  | .error f => (.error f, c)
  | .ok content => c.check scope.exactNames content path.name scope.schema

section File

variable {scope : Scope} {c last : CheckSession} {path : Files.Path}

theorem checkFile_of_found {found : Option Finding} (h : scope.Found c path found last) :
    scope.checkFile path c = (.ok (found.map Finding.check), last) := by
  cases h with
  | unmapped read named => simp only [checkFile, read, CheckSession.check, named, Option.map_none]
  | mapped read named owned normal answered =>
      rw [Scope.normal] at answered
      simp only [checkFile, read, CheckSession.check, named, owned, normal, answered]
      rfl

theorem checkFile_of_breaks {f : Fault} (h : scope.Breaks c path f) :
    ∃ last, scope.checkFile path c = (.error f, last) := by
  cases h with
  | unread read => exact ⟨c, by rw [checkFile, read]⟩
  | @unowned _ _ c₁ _ read named owned =>
      refine ⟨c₁, ?_⟩
      simp only [checkFile, read, CheckSession.check, named, owned]
  | @unnamed _ _ _ c₁ _ read named owned normal =>
      refine ⟨c₁, ?_⟩
      simp only [checkFile, read, CheckSession.check, named, owned, normal]
  | @unanswered _ _ _ _ _ c₂ _ read named owned normal answered =>
      rw [Scope.normal] at answered
      refine ⟨c₂, ?_⟩
      simp only [checkFile, read, CheckSession.check, named, owned, normal, answered]

theorem found_or_breaks (scope : Scope) (c : CheckSession) (path : Files.Path) :
    (∃ found last, scope.Found c path found last) ∨ ∃ f, scope.Breaks c path f := by
  cases read : Files.readSource scope.tree path.text with
  | error f => exact .inr ⟨f, .unread read⟩
  | ok content =>
      cases named : Attribute.tableName? content with
      | none => exact .inl ⟨none, c, .unmapped read named⟩
      | some name =>
          rcases owned : c.owner content scope.schema with ⟨f | owner, c₁⟩
          · exact .inr ⟨f, .unowned read named owned⟩
          cases normal : CheckSession.normalCell scope.exactNames owner with
          | error e => exact .inr ⟨_, .unnamed read named owned normal⟩
          | ok known =>
              rcases answered : c₁.columns scope.exactNames known (scope.normal name) with
                ⟨f | present, c₂⟩
              · exact .inr ⟨f, .unanswered read named owned normal answered⟩
              · exact .inl ⟨_, c₂, .mapped read named owned normal answered⟩

theorem found_of_checkFile {outcome : Option TableCheck}
    (h : (scope.checkFile path c).1 = .ok outcome) :
    ∃ found last, scope.Found c path found last ∧ found.map Finding.check = outcome := by
  obtain ⟨found, last, hfound⟩ | ⟨f, hbreaks⟩ := scope.found_or_breaks c path
  · rw [checkFile_of_found hfound] at h
    exact ⟨found, last, hfound, Except.ok.inj h⟩
  · obtain ⟨last, hfile⟩ := checkFile_of_breaks hbreaks
    rw [hfile] at h
    contradiction

end File

/-- Source files are checked in their order, each with what is found about it. -/
inductive Visits (scope : Scope) :
    CheckSession → List (Files.Path × Option Finding) → CheckSession → Prop
  | done {c : CheckSession} : Visits scope c [] c
  | next {c c₁ last : CheckSession} {path : Files.Path} {found : Option Finding}
      {visited : List (Files.Path × Option Finding)} (here : scope.Found c path found c₁)
      (after : Visits scope c₁ visited last) : Visits scope c ((path, found) :: visited) last

def files (visited : List (Files.Path × Option Finding)) : List Files.Path := visited.map (·.1)

def findings (visited : List (Files.Path × Option Finding)) : List Finding :=
  visited.filterMap (·.2)

def log (visited : List (Files.Path × Option Finding)) : List LogEntry :=
  visited.flatMap fun v => Run.checkEntry v.1 (v.2.map Finding.check)

def checkEach (scope : Scope) (paths : List Files.Path) (c : CheckSession) :
    Except Fault (List TableCheck) × CheckSession × List LogEntry :=
  Run.checkEach scope.tree scope.exactNames scope.schema paths c

section Files

variable {scope : Scope} {c last : CheckSession} {visited : List (Files.Path × Option Finding)}

theorem checkEach_cons (scope : Scope) (path : Files.Path) (paths : List Files.Path)
    (c : CheckSession) :
    scope.checkEach (path :: paths) c =
      match scope.checkFile path c with
      | (.error f, c) => (.error f, c, [])
      | (.ok outcome, c) =>
          let (others, c, log) := scope.checkEach paths c
          (others.map (outcome.toList ++ ·), c, Run.checkEntry path outcome ++ log) := by
  rw [checkEach, Run.checkEach, checkFile]
  cases Files.readSource scope.tree path.text <;> rfl

theorem checkEach_cons_of_found {path : Files.Path} {found : Option Finding} {c₁ : CheckSession}
    (here : scope.Found c path found c₁) (paths : List Files.Path) :
    scope.checkEach (path :: paths) c =
      let (others, last, log) := scope.checkEach paths c₁
      (others.map ((found.map Finding.check).toList ++ ·), last,
        Run.checkEntry path (found.map Finding.check) ++ log) := by
  rw [checkEach_cons, checkFile_of_found here]

theorem checkEach_of_visits (h : scope.Visits c visited last) :
    scope.checkEach (files visited) c =
      (.ok ((findings visited).map Finding.check), last, log visited) := by
  induction h with
  | done => rfl
  | @next c c₁ last path found visited here after ih =>
      rw [files, List.map_cons, ← files, checkEach_cons_of_found here, ih]
      cases found <;> rfl

theorem checkEach_of_breaks {path : Files.Path} {rest : List Files.Path} {f : Fault}
    (h : scope.Visits c visited last) (hbreaks : scope.Breaks last path f) :
    ∃ last log, scope.checkEach (files visited ++ path :: rest) c = (.error f, last, log) := by
  induction h with
  | done =>
      obtain ⟨last, hfile⟩ := checkFile_of_breaks hbreaks
      exact ⟨last, [], by rw [files, List.map_nil, List.nil_append, checkEach_cons, hfile]⟩
  | @next _ _ _ path' found _ here after ih =>
      obtain ⟨last, log, hrest⟩ := ih hbreaks
      refine ⟨last, Run.checkEntry path' (found.map Finding.check) ++ log, ?_⟩
      rw [files, List.map_cons, ← files, List.cons_append, checkEach_cons_of_found here, hrest]
      rfl

theorem visits_or_breaks (scope : Scope) (paths : List Files.Path) (c : CheckSession) :
    (∃ visited last, paths = files visited ∧ scope.Visits c visited last) ∨
      ∃ visited last path rest f, paths = files visited ++ path :: rest ∧
        scope.Visits c visited last ∧ scope.Breaks last path f := by
  induction paths generalizing c with
  | nil => exact .inl ⟨[], c, rfl, .done⟩
  | cons path paths ih =>
      obtain ⟨found, c₁, here⟩ | ⟨f, hbreaks⟩ := scope.found_or_breaks c path
      · obtain ⟨visited, last, rfl, after⟩ | ⟨visited, last, path', rest, f, rfl, after, hbreaks⟩ :=
          ih c₁
        · exact .inl ⟨(path, found) :: visited, last, rfl, .next here after⟩
        · exact .inr ⟨(path, found) :: visited, last, path', rest, f, rfl, .next here after,
            hbreaks⟩
      · exact .inr ⟨[], c, path, paths, f, rfl, .done, hbreaks⟩

end Files

end Scope

end MappingMarkers.Proofs.Validation
