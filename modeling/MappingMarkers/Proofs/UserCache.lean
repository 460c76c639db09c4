import MappingMarkers.Proofs.LinewiseAttributes
import MappingMarkers.Proofs.SessionWork

namespace MappingMarkers.Proofs.UserCache

open Text Catalog Attribute SessionWork LinewiseAttributes Reading

/-- What can be called on a check session. -/
inductive Call where
  | user
  | columns (owner : Cell) (table : Text)
  | check (content entity : Text) (schema : Option Text)

inductive Answer where
  | user (outcome : Except Fault Cell)
  | columns (outcome : Except Fault (List Cell))
  | check (outcome : Except Fault (Option TableCheck))

def perform (exactNames : Bool) (c : CheckSession) : Call → Answer × CheckSession
  | .user => (.user c.currentUser.1, c.currentUser.2)
  | .columns owner table =>
      let (outcome, c) := c.columns exactNames owner table
      (.columns outcome, c)
  | .check content entity schema =>
      let (outcome, c) := c.check exactNames content entity schema
      (.check outcome, c)

/-- Whether a call needs the user: a check does for a mapped text when neither the text nor the
caller names an owner. -/
def Call.needsUser : Call → Bool
  | .user => true
  | .columns _ _ => false
  | .check content _ schema =>
      (tableName? content).isSome && (tableSchema? content).all (·.isEmpty) &&
        schema.all (·.isEmpty)

/-- A call, between the session before and the session after it. -/
structure Visit where
  before : CheckSession
  call : Call
  answer : Answer
  after : CheckSession

def visit (exactNames : Bool) (c : CheckSession) (call : Call) : Visit where
  before := c
  call := call
  answer := (perform exactNames c call).1
  after := (perform exactNames c call).2

/-- The calls on a session, one after the other. -/
def history (exactNames : Bool) : CheckSession → List Call → List Visit
  | _, [] => []
  | c, call :: calls =>
      visit exactNames c call :: history exactNames (visit exactNames c call).after calls

def Visit.statements (v : Visit) : List Statement :=
  v.after.session.statements.drop v.before.session.statements.length

/-- The user that the call worked with, if it needed one. -/
def Visit.resolution? (v : Visit) : Option (Except Fault Cell) :=
  if v.call.needsUser then some v.before.currentUser.1 else none

/-- The call found out the name of the user. -/
def Visit.Names (v : Visit) (name : Text) : Prop := v.resolution? = some (.ok (some name))

/-- How a call deals with the user, after earlier calls. -/
structure Lawful (exactNames : Bool) (earlier : List Visit) (v : Visit) : Prop where
  /-- Once the user is known it is not asked for again, and stays the same. -/
  known : ∀ u ∈ earlier, ∀ name, u.Names name →
    userQuery ∉ v.statements ∧ (v.call.needsUser = true → v.Names name)
  /-- Until then every call that needs the user asks once. -/
  unknown : (∀ u ∈ earlier, ∀ name, ¬ u.Names name) →
    v.statements.count userQuery = (if v.call.needsUser then 1 else 0) ∧
      (v.call.needsUser = true → v.resolution? = some (namedUser v.before.session.replies))
  answered : v.call = .user → v.resolution?.map .user = some v.answer
  failed : ∀ f, v.resolution? = some (.error f) →
    v.answer = .user (.error f) ∨ v.answer = .check (.error f)
  fetched : ∀ owner table, v.call = .columns owner table →
    v.statements = [columnsQuery owner table]
  unmapped : ∀ content entity schema, v.call = .check content entity schema →
    tableName? content = none → v.statements = [] ∧ v.answer = .check (.ok none)
  /-- A mapped text is looked up for the owner that is given, else for the user. -/
  mapped : ∀ content entity schema name, v.call = .check content entity schema →
    tableName? content = some name →
      ∃ asked, asked <+: [userQuery] ∧
        v.statements = asked ++ (lookup? exactNames name ((givenOwner? content schema).elim
          v.before.currentUser.1 fun owner => .ok (some owner))).toList
  closed : ∀ cursor ∈ v.after.session.cursors, cursor = true

section Owners

variable {content : Text} {schema : Option Text}

theorem tableSchema?_ne_nil {name : Text} (h : tableSchema? content = some name) : name ≠ [] := by
  obtain ⟨⟨table, rest⟩, -, h⟩ := Option.bind_eq_some_iff.mp h
  obtain ⟨⟨value, after⟩, hvalue, rfl⟩ := Option.map_eq_some_iff.mp h
  obtain ⟨-, t, -, hread, -⟩ := exists_of_findFirst? hvalue
  obtain ⟨u, -, hquoted⟩ := Option.bind_eq_some_iff.mp hread
  exact (quotedValue?_eq_some_iff.mp hquoted).2.2

theorem givenOwner?_eq_none_iff :
    givenOwner? content schema = none ↔
      (tableSchema? content).all (·.isEmpty) = true ∧ schema.all (·.isEmpty) = true := by
  rw [givenOwner?, Option.or_eq_none_iff]
  apply and_congr
  · cases h : tableSchema? content with
    | none => simp
    | some name => simp [tableSchema?_ne_nil h]
  · cases schema with
    | none => simp
    | some name => simp

theorem needsUser_check {name : Text} (h : tableName? content = some name) (entity : Text)
    (schema : Option Text) :
    (Call.check content entity schema).needsUser = (givenOwner? content schema).isNone := by
  rw [Bool.eq_iff_iff, Option.isNone_iff_eq_none, givenOwner?_eq_none_iff, Call.needsUser, h,
    Option.isSome_some, Bool.true_and, Bool.and_eq_true]

end Owners

section Calls

variable {exactNames : Bool} {c : CheckSession}

def callCursors (exactNames : Bool) (c : CheckSession) : Call → List (List Statement)
  | .user => userCursors c
  | .columns owner table => [[columnsQuery owner table]]
  | .check content _ schema =>
      match tableName? content with
      | none => []
      | some name =>
          ownerCursors c content schema ++
            (lookup? exactNames name (c.owner content schema).1).toList.map ([·])

theorem serves_perform (exactNames : Bool) (c : CheckSession) (call : Call) :
    Serves c.session (perform exactNames c call).2.session (callCursors exactNames c call) := by
  cases call with
  | user => exact serves_currentUser c
  | columns owner table => exact serves_columns exactNames owner table c
  | check content entity schema =>
      rw [callCursors]
      cases h : tableName? content with
      | none =>
          rw [perform, check_of_unmapped h]
          exact serves_refl _
      | some name => exact serves_check_of_mapped h entity schema

theorem ne_userQuery_of_mem_lookup {name : Text} {owner : Except Fault Cell} {st : Statement}
    (h : st ∈ (lookup? exactNames name owner).toList) : st ≠ userQuery := by
  rw [Option.mem_toList, lookup?] at h
  obtain ⟨cell, -, h⟩ := Option.bind_eq_some_iff.mp h
  obtain ⟨known, -, rfl⟩ := Option.map_eq_some_iff.mp h
  simp [columnsQuery, userQuery]

theorem flatten_userCursors (c : CheckSession) :
    (userCursors c).flatten = if c.user = none then [userQuery] else [] := by
  rw [userCursors]
  cases c.user with
  | none => rfl
  | some name => rfl

theorem flatten_ownerCursors_prefix {content : Text} {schema : Option Text} :
    (ownerCursors c content schema).flatten <+: [userQuery] := by
  rw [ownerCursors]
  cases givenOwner? content schema with
  | some owner => exact List.nil_prefix
  | none =>
      rw [flatten_userCursors]
      split_ifs
      · exact List.prefix_rfl
      · exact List.nil_prefix

theorem owner_fst (c : CheckSession) (content : Text) (schema : Option Text) :
    (c.owner content schema).1 =
      (givenOwner? content schema).elim c.currentUser.1 fun owner => .ok (some owner) := by
  cases h : givenOwner? content schema with
  | some owner => rw [owner_of_given h, Option.elim_some]
  | none => rw [owner_of_not_given h, Option.elim_none]

theorem check_fst_of_owner {content entity name : Text} {schema : Option Text} {f : Fault}
    (h : tableName? content = some name) (howner : (c.owner content schema).1 = .error f) :
    (c.check exactNames content entity schema).1 = .error f := by
  rw [CheckSession.check, h]
  rcases hfound : c.owner content schema with ⟨outcome, owned⟩
  rw [hfound] at howner
  obtain rfl : outcome = .error f := howner
  rfl

theorem flatten_callCursors_check {content name : Text} (h : tableName? content = some name)
    (entity : Text) (schema : Option Text) :
    (callCursors exactNames c (.check content entity schema)).flatten =
      (ownerCursors c content schema).flatten ++
        (lookup? exactNames name (c.owner content schema).1).toList := by
  simp only [callCursors, h, List.flatten_append]
  cases lookup? exactNames name (c.owner content schema).1 with
  | none => rfl
  | some st => rfl

theorem count_callCursors (exactNames : Bool) (c : CheckSession) (call : Call) :
    (callCursors exactNames c call).flatten.count userQuery =
      if call.needsUser = true ∧ c.user = none then 1 else 0 := by
  cases call with
  | user =>
      rw [callCursors, flatten_userCursors]
      cases c.user with
      | none => rfl
      | some name => rfl
  | columns owner table => rfl
  | check content entity schema =>
      cases h : tableName? content with
      | none => simp [callCursors, Call.needsUser, h]
      | some name =>
          have hlookup : (lookup? exactNames name (c.owner content schema).1).toList.count
              userQuery = 0 := by
            rw [List.count_eq_zero]
            intro hmem
            exact ne_userQuery_of_mem_lookup hmem rfl
          rw [flatten_callCursors_check h, List.count_append, hlookup, Nat.add_zero,
            needsUser_check h, ownerCursors]
          cases givenOwner? content schema with
          | some owner => simp
          | none =>
              rw [flatten_userCursors]
              cases c.user with
              | none => simp
              | some name => simp

/-- A call changes what is known of the user only by finding it out. -/
theorem user_perform (exactNames : Bool) (c : CheckSession) (call : Call) :
    (perform exactNames c call).2.user =
      if call.needsUser then c.currentUser.2.user else c.user := by
  cases call with
  | user => rfl
  | columns owner table => exact user_columns exactNames owner table c
  | check content entity schema =>
      cases h : tableName? content with
      | none =>
          rw [perform, check_of_unmapped h]
          simp [Call.needsUser, h]
      | some name =>
          have hchecked := check_snd_of_mapped exactNames c h entity schema
          rw [needsUser_check h]
          cases hgiven : givenOwner? content schema with
          | some owner =>
              rw [owner_of_given hgiven] at hchecked
              exact hchecked.1
          | none =>
              rw [owner_of_not_given hgiven] at hchecked
              exact hchecked.1

end Calls

section Visits

variable {exactNames : Bool} {c : CheckSession} {past : List Visit}

theorem statements_visit (exactNames : Bool) (c : CheckSession) (call : Call) :
    (visit exactNames c call).statements = (callCursors exactNames c call).flatten := by
  have hstatements := (serves_perform exactNames c call).statements
  rw [Visit.statements, visit, hstatements, List.drop_left]

/-- The user that is known is the one that was found out. -/
def Remembers (past : List Visit) (c : CheckSession) : Prop :=
  ∀ name, (∃ u ∈ past, u.Names name) ↔ c.user = some name

theorem names_visit_iff {call : Call} {name : Text} (hneeds : call.needsUser = true) :
    (visit exactNames c call).Names name ↔ c.currentUser.1 = .ok (some name) := by
  simp [Visit.Names, Visit.resolution?, visit, hneeds]

theorem remembers_concat (h : Remembers past c) (call : Call) :
    Remembers (past ++ [visit exactNames c call]) (visit exactNames c call).after := by
  intro name
  have hpast : (∃ u ∈ past ++ [visit exactNames c call], u.Names name) ↔
      c.user = some name ∨ (visit exactNames c call).Names name := by
    rw [← h name]
    simp [or_and_right, exists_or]
  have hafter : (visit exactNames c call).after.user =
      if call.needsUser then c.currentUser.2.user else c.user := user_perform exactNames c call
  rw [hpast, hafter]
  cases hneeds : call.needsUser with
  | false => simp [Visit.Names, Visit.resolution?, visit, hneeds]
  | true =>
      rw [names_visit_iff hneeds, if_pos rfl]
      cases hknown : c.user with
      | some known => simp [currentUser_of_some hknown, hknown]
      | none =>
          rw [currentUser_of_none hknown]
          cases namedUser c.session.replies with
          | error f => simp [Except.toOption]
          | ok cell => simp [Except.toOption]

theorem failed_visit {call : Call} {f : Fault}
    (h : (visit exactNames c call).resolution? = some (.error f)) :
    (visit exactNames c call).answer = .user (.error f) ∨
      (visit exactNames c call).answer = .check (.error f) := by
  obtain ⟨hneeds, h⟩ := Option.ite_none_right_eq_some.mp h
  have hresolved : c.currentUser.1 = .error f := Option.some.inj h
  cases call with
  | user => exact .inl (congrArg Answer.user hresolved)
  | columns owner table => contradiction
  | check content entity schema =>
      simp only [visit, Call.needsUser, Bool.and_eq_true, and_assoc] at hneeds
      obtain ⟨name, htable⟩ := Option.isSome_iff_exists.mp hneeds.1
      have hgiven := givenOwner?_eq_none_iff.mpr hneeds.2
      refine .inr (congrArg Answer.check (check_fst_of_owner htable ?_))
      rw [owner_of_not_given hgiven, hresolved]

theorem lawful_visit (h : Remembers past c) (hclosed : ∀ cursor ∈ c.session.cursors, cursor = true)
    (call : Call) : Lawful exactNames past (visit exactNames c call) := by
  have hstatements := statements_visit exactNames c call
  have hcount := count_callCursors exactNames c call
  rw [← hstatements] at hcount
  constructor
  · intro u hu name hnames
    have hknown := (h name).mp ⟨u, hu, hnames⟩
    constructor
    · rw [← List.count_eq_zero, hcount, if_neg (by simp [hknown])]
    · intro hneeds
      exact (names_visit_iff hneeds).mpr (by rw [currentUser_of_some hknown])
  · intro hnone
    have hunset : c.user = none := by
      cases hknown : c.user with
      | none => rfl
      | some name =>
          obtain ⟨u, hu, hnames⟩ := (h name).mpr hknown
          exact absurd hnames (hnone u hu name)
    constructor
    · rw [hcount]
      simp only [hunset, and_true]
      rfl
    · intro hneeds
      rw [Visit.resolution?, if_pos hneeds, visit, currentUser_of_none hunset]
  · rintro rfl
    rfl
  · intro f hfailed
    exact failed_visit hfailed
  · rintro owner table rfl
    exact hstatements
  · rintro content entity schema rfl htable
    constructor
    · rw [hstatements, callCursors, htable]
      rfl
    · simp only [visit, perform, check_of_unmapped htable]
  · rintro content entity schema name rfl htable
    refine ⟨(ownerCursors c content schema).flatten, flatten_ownerCursors_prefix, ?_⟩
    rw [hstatements, flatten_callCursors_check htable, owner_fst]
    rfl
  · exact (serves_perform exactNames c call).closed hclosed

end Visits

theorem lawful_of_history {exactNames : Bool} {c : CheckSession} {calls : List Call}
    {past front back : List Visit} {v : Visit} (h : Remembers past c)
    (hclosed : ∀ cursor ∈ c.session.cursors, cursor = true)
    (hsplit : history exactNames c calls = front ++ v :: back) :
    Lawful exactNames (past ++ front) v := by
  induction calls generalizing c past front with
  | nil => simp [history] at hsplit
  | cons call calls ih =>
      rw [history] at hsplit
      cases front with
      | nil =>
          rw [List.nil_append, List.cons.injEq] at hsplit
          rw [List.append_nil, ← hsplit.1]
          exact lawful_visit h hclosed call
      | cons first front =>
          rw [List.cons_append, List.cons.injEq] at hsplit
          obtain ⟨rfl, hrest⟩ := hsplit
          rw [List.append_cons]
          exact ih (remembers_concat h call)
            ((serves_perform exactNames c call).closed hclosed) hrest

/-- Every call on a new session deals with the user by the law, whatever the replies are. -/
theorem history_lawful {exactNames : Bool} {replies : List Reply} {calls : List Call}
    {front back : List Visit} {v : Visit}
    (h : history exactNames { session := { replies } } calls = front ++ v :: back) :
    Lawful exactNames front v := by
  have hremembers : Remembers [] { session := { replies } } := by
    intro name
    simp
  exact lawful_of_history hremembers (fun cursor hcursor => absurd hcursor List.not_mem_nil) h

/-- Replies of which only the third one names the user. -/
def lateName : List Reply :=
  [.error { kind := .operational, message := "gone".toList }, .rows [[none]], .rows [[some ['U']]]]

theorem history_lawful_lateName :
    let calls := [.user, .user, .check "[Table(\"T\")]".toList ['e'] none, .user]
    let visits := history false { session := { replies := lateName } } calls
    visits.map (·.statements.count userQuery) = [1, 1, 1, 0] ∧
      ∃ front v, visits = front ++ [v] ∧ v.Names ['U'] ∧ Lawful false front v := by
  intro calls visits
  have hsplit : visits = visits.take 3 ++ [visit false
      (visit false (visit false (visit false { session := { replies := lateName } }
        .user).after .user).after (.check "[Table(\"T\")]".toList ['e'] none)).after .user] := rfl
  exact ⟨by decide +kernel, _, _, hsplit, rfl, history_lawful hsplit⟩

end MappingMarkers.Proofs.UserCache
