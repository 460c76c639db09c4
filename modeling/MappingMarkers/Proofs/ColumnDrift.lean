import MappingMarkers.Proofs.DictionaryOrder
import MappingMarkers.Proofs.SessionWork
import MappingMarkers.Proofs.Validation

namespace MappingMarkers.Proofs.ColumnDrift

open Text Catalog Attribute SessionWork DictionaryOrder Validation

/-- Whose table a text is mapped to: the schema in its attribute, else the given one, else the user
of the session, who is known or is asked for. The statements that this takes are told, and the
replies that are left after it. -/
inductive Owned (c : CheckSession) (content : Text) (schema : Option Text) :
    Text → List Statement → List Reply → Prop
  | named {owner : Text} (h : tableSchema? content = some owner) :
      Owned c content schema owner [] c.session.replies
  | given {owner : Text} (unnamed : tableSchema? content = none) (h : schema = some owner)
      (nonempty : owner ≠ []) : Owned c content schema owner [] c.session.replies
  | known {user : Text} (unnamed : tableSchema? content = none)
      (ungiven : schema = none ∨ schema = some []) (h : c.user = some user) :
      Owned c content schema user [] c.session.replies
  | asked {user : Text} (unnamed : tableSchema? content = none)
      (ungiven : schema = none ∨ schema = some []) (unknown : c.user = none)
      (h : namedUser c.session.replies = .ok (some user)) :
      Owned c content schema user [userQuery] c.session.replies.tail

/-- The check of a mapped text on a session that tells whose table it is, and whose next reply after
that lists the columns of the table. -/
structure MappedCheck where
  exactNames : Bool
  before : CheckSession
  content : Text
  entity : Text
  schema : Option Text
  name : Text
  owner : Text
  asked : List Statement
  left : List Reply
  columns : List Text
  named : tableName? content = some name
  owned : Owned before content schema owner asked left
  answered : nextReply left = .ok (columns.map fun name => [some name])

namespace MappedCheck

variable (k : MappedCheck)

def run : Except Fault (Option TableCheck) × CheckSession :=
  k.before.check k.exactNames k.content k.entity k.schema

def normal (name : Text) : Text := CheckSession.normal k.exactNames name

/-- The columns that the text maps, as they are compared. -/
def mapped : List Text := (mappedColumns k.content).map k.normal

def present : List Text := k.columns.map k.normal

def report (missing : List Text) : TableCheck :=
  { entity := k.entity, schema := some (k.normal k.owner), table := k.normal k.name, missing }

def finding : Finding :=
  { entity := k.entity, owner := some (k.normal k.owner), table := k.normal k.name
    mapped := k.mapped, present := k.present.map some }

end MappedCheck

section Owner

variable {c : CheckSession} {content : Text} {schema : Option Text} {owner : Text}
  {asked : List Statement} {left : List Reply}

theorem givenOwner?_of_ungiven (unnamed : tableSchema? content = none)
    (ungiven : schema = none ∨ schema = some []) : givenOwner? content schema = none := by
  obtain rfl | rfl := ungiven
  · simp [givenOwner?, unnamed]
  · simp [givenOwner?, unnamed]

theorem Owned.owner_eq (h : Owned c content schema owner asked left) :
    ∃ owned, c.owner content schema = (.ok (some owner), owned) ∧ owned.session.replies = left ∧
      owned.session.statements = c.session.statements ++ asked := by
  cases h with
  | named h =>
      refine ⟨c, owner_of_given ?_, rfl, (List.append_nil _).symm⟩
      simp [givenOwner?, h]
  | given unnamed h nonempty =>
      refine ⟨c, owner_of_given ?_, rfl, (List.append_nil _).symm⟩
      simp [givenOwner?, unnamed, h, nonempty]
  | known unnamed ungiven h =>
      refine ⟨c, ?_, rfl, (List.append_nil _).symm⟩
      rw [owner_of_not_given (givenOwner?_of_ungiven unnamed ungiven), currentUser_of_some h]
  | asked unnamed ungiven unknown h =>
      have hserves := serves_currentUser c
      have hasks := currentUser_of_none unknown
      rw [userCursors, unknown] at hserves
      refine ⟨c.currentUser.2, ?_, by rw [hasks], hserves.statements⟩
      rw [owner_of_not_given (givenOwner?_of_ungiven unnamed ungiven), ← h, hasks]

theorem Owned.asked_prefix (h : Owned c content schema owner asked left) :
    asked <+: [userQuery] := by
  cases h with
  | named | given | known => exact List.nil_prefix
  | asked => exact List.prefix_rfl

end Owner

section Columns

variable {exactNames : Bool}

theorem columns_fst (exactNames : Bool) (owner : Cell) (table : Text) (c : CheckSession) :
    (c.columns exactNames owner table).1 =
      match nextReply c.session.replies with
      | .error e => .error (explain owner table e)
      | .ok rows =>
          (rows.mapM fun row => firstCell row >>= CheckSession.normalCell exactNames).mapError
            .row := by
  have hanswer := withCursor_execute (columnsQuery owner table) c.session
  rw [columnsQuery] at hanswer
  rw [CheckSession.columns, hanswer]
  cases nextReply c.session.replies with
  | error e => rfl
  | ok rows => rfl

theorem mapM_normalCell (exactNames : Bool) (names : List Text) :
    (names.map fun name => [some name]).mapM
        (fun row => firstCell row >>= CheckSession.normalCell exactNames) =
      .ok ((names.map (CheckSession.normal exactNames)).map some) := by
  rw [List.mapM_map, List.map_map]
  exact List.mapM_pure

end Columns

namespace MappedCheck

variable (k : MappedCheck)

theorem run_eq : k.run.1 = .ok (some (k.report k.finding.missing)) := by
  obtain ⟨owned, howner, hleft, -⟩ := k.owned.owner_eq
  have hcolumns := columns_fst k.exactNames (some (k.normal k.owner)) (k.normal k.name) owned
  rw [hleft, k.answered] at hcolumns
  simp only [mapM_normalCell] at hcolumns
  rcases hrun : owned.columns k.exactNames (some (k.normal k.owner)) (k.normal k.name) with
    ⟨present, last⟩
  rw [hrun] at hcolumns
  obtain rfl : present = _ := hcolumns
  simp only [normal] at hrun
  simp only [run, CheckSession.check, k.named, howner, CheckSession.normalCell, hrun]
  rfl

theorem statements_run :
    k.run.2.session.statements =
      k.before.session.statements ++ k.asked ++
        [columnsQuery (some (k.normal k.owner)) (k.normal k.name)] := by
  obtain ⟨owned, howner, -, hasked⟩ := k.owned.owner_eq
  have hchecked := check_snd_of_mapped k.exactNames k.before k.named k.entity k.schema
  rw [howner] at hchecked
  rw [← hasked]
  exact hchecked.2.statements

theorem mem_missing_finding_iff {name : Text} :
    name ∈ k.finding.missing ↔ name ∈ k.mapped ∧ name ∉ k.present := by
  simp [Finding.mem_missing_iff, finding]

theorem pairwise_before_missing_finding : k.finding.missing.Pairwise Before :=
  pairwise_before_sortedSet _

end MappedCheck

/-- The outcome of a check is fixed by the mapped columns and the columns of the table, as they are
compared: it tells in strict order those of the former that are none of the latter. -/
theorem check_tells_drift (k : MappedCheck) :
    k.asked <+: [userQuery] ∧
    k.run.2.session.statements =
      k.before.session.statements ++ k.asked ++
        [columnsQuery (some (k.normal k.owner)) (k.normal k.name)] ∧
    ∃ missing, k.run.1 = .ok (some (k.report missing)) ∧
      missing.Pairwise Before ∧
      (∀ name, name ∈ missing ↔ name ∈ k.mapped ∧ name ∉ k.present) ∧
      ∀ k' : MappedCheck, (∀ name, name ∈ k.mapped ↔ name ∈ k'.mapped) →
        (∀ name, name ∈ k.present ↔ name ∈ k'.present) →
          k'.run.1 = .ok (some (k'.report missing)) := by
  refine ⟨k.owned.asked_prefix, k.statements_run, k.finding.missing, k.run_eq,
    k.pairwise_before_missing_finding, fun _ => k.mem_missing_finding_iff, ?_⟩
  intro k' hmapped hpresent
  have hsame : k'.finding.missing = k.finding.missing := by
    refine eq_of_mem_iff k'.pairwise_before_missing_finding k.pairwise_before_missing_finding
      fun name => ?_
    rw [k.mem_missing_finding_iff, k'.mem_missing_finding_iff, hmapped, hpresent]
  rw [k'.run_eq, hsame]

/-- One spelling of each column, with the user of the session asked for. -/
def mixedCase : MappedCheck where
  exactNames := false
  before := { session := { replies := [.rows [[some ['u']]], .rows [[some "iD".toList]]] } }
  content := "[Table(\"t\")] [Column(\"Id\")] [Column(\"no\")]".toList
  entity := ['e']
  schema := some []
  name := ['t']
  owner := ['u']
  asked := [userQuery]
  left := [.rows [[some "iD".toList]]]
  columns := ["iD".toList]
  named := by decide +kernel
  owned := .asked (by decide +kernel) (.inr rfl) rfl rfl
  answered := rfl

/-- The same columns in another order, one of them twice on either side, with the schema named. -/
def otherOrder : MappedCheck where
  exactNames := false
  before := { session := { replies := [.rows [[some "id".toList], [some "ID".toList]]] } }
  content :=
    "[Table(\"T\", Schema = \"s\")] [Column(\"nO\")] [Column(\"ID\")] [Column(\"NO\")]".toList
  entity := ['f']
  schema := none
  name := ['T']
  owner := ['s']
  asked := []
  left := [.rows [[some "id".toList], [some "ID".toList]]]
  columns := ["id".toList, "ID".toList]
  named := by decide +kernel
  owned := .named (by decide +kernel)
  answered := rfl

theorem check_tells_drift_mixedCase :
    ∃ missing, (∀ name, name ∈ mixedCase.mapped ↔ name ∈ otherOrder.mapped) ∧
      (∀ name, name ∈ mixedCase.present ↔ name ∈ otherOrder.present) ∧
      missing = ["NO".toList] ∧ mixedCase.run.1 = .ok (some (mixedCase.report missing)) ∧
      otherOrder.run.1 = .ok (some (otherOrder.report missing)) := by
  have hmapped : ∀ name, name ∈ mixedCase.mapped ↔ name ∈ otherOrder.mapped := by
    have hmixed : mixedCase.mapped = ["ID".toList, "NO".toList] := by decide +kernel
    have hother : otherOrder.mapped = ["NO".toList, "ID".toList, "NO".toList] := by decide +kernel
    intro name
    rw [hmixed, hother]
    simp [or_comm, or_left_comm]
  have hpresent : ∀ name, name ∈ mixedCase.present ↔ name ∈ otherOrder.present := by
    have hmixed : mixedCase.present = ["ID".toList] := by decide +kernel
    have hother : otherOrder.present = ["ID".toList, "ID".toList] := by decide +kernel
    intro name
    rw [hmixed, hother]
    simp
  obtain ⟨-, -, missing, hrun, -, -, hsame⟩ := check_tells_drift mixedCase
  have hmissing : mixedCase.run.1 = .ok (some (mixedCase.report ["NO".toList])) := by
    decide +kernel
  have hone : missing = ["NO".toList] :=
    congrArg TableCheck.missing (Option.some.inj (Except.ok.inj (hrun.symm.trans hmissing)))
  exact ⟨missing, hmapped, hpresent, hone, hrun, hsame otherOrder hmapped hpresent⟩

end MappingMarkers.Proofs.ColumnDrift
