import Mathlib.Algebra.GroupWithZero.Nat
import MappingMarkers.Proofs.SessionWork

/-!
How the reading of a table's keys goes. A statement is executed only when the replies to those
before it were read, so that the keys are told in full or not at all; what ends the reading early is
passed on as it is, except that an error of the database becomes a failure about the table.
-/

namespace MappingMarkers.Proofs.KeyLoading

open Text Catalog SessionWork

def keyQueries : List Query := [.primaryKey, .foreignKeys, .foreignKeyColumns]

/-- Whether a row can be read: it begins with a cell, and where it should name a key, with the name,
and two more cells follow. -/
def isReadable : Query → Row → Bool
  | .primaryKey, row => !row.isEmpty
  | _, row => row.length == 3 && row.head?.any (·.isSome)

/-- What is wrong with a row that cannot be read. -/
def defect : Query → Row → RowError
  | .primaryKey, _ => .empty
  | _, row =>
      if row.length < 3 then .short row.length
      else if 3 < row.length then .long
      else .unnamed

/-- The reply holds rows that can all be read. -/
def Reads (q : Query) (reply : Except DriverError (List Row)) : Prop :=
  ∃ rows, reply = .ok rows ∧ ∀ row ∈ rows, isReadable q row = true

/-- The reply ends the reading, with this fault. -/
inductive Stops (owner table : Text) (q : Query) : Except DriverError (List Row) → Fault → Prop
  | unavailable {e : DriverError} (database : e.kind.isDatabase = true) :
      Stops owner table q (.error e) (.failure (.metadata e.message (some owner) (some table)))
  | passedOn {e : DriverError} (other : e.kind.isDatabase = false) :
      Stops owner table q (.error e) (.driver e)
  | malformed {rows : List Row} {row : Row} (first : rows.find? (!isReadable q ·) = some row) :
      Stops owner table q (.ok rows) (.row (defect q row))

/-- The reply to the statement before which so many others were executed. -/
def replyAt (replies : List Reply) (i : Nat) : Except DriverError (List Row) :=
  nextReply (replies.drop i)

/-- The reading of the replies to these queries: how many statements it executes, and the fault that
ends it early. -/
inductive Course (owner table : Text) : List Query → List Reply → Nat → Option Fault → Prop
  | done {replies : List Reply} : Course owner table [] replies 0 none
  | stopped {q : Query} {queries : List Query} {replies : List Reply} {f : Fault}
      (here : Stops owner table q (nextReply replies) f) :
      Course owner table (q :: queries) replies 1 (some f)
  | read {q : Query} {queries : List Query} {replies : List Reply} {count : Nat}
      {fault : Option Fault} (here : Reads q (nextReply replies))
      (later : Course owner table queries replies.tail count fault) :
      Course owner table (q :: queries) replies (count + 1) fault

section Replies

variable {owner table : Text} {q : Query} {reply : Except DriverError (List Row)} {f f' : Fault}

theorem Stops.unique (h : Stops owner table q reply f) (h' : Stops owner table q reply f') :
    f = f' := by
  cases h with
  | unavailable database =>
      cases h' with
      | unavailable => rfl
      | passedOn other => rw [database] at other; contradiction
  | passedOn other =>
      cases h' with
      | unavailable database => rw [database] at other; contradiction
      | passedOn => rfl
  | malformed first =>
      cases h' with
      | malformed first' => rw [Option.some.inj (first.symm.trans first')]

theorem Stops.of_failure {failure : Failure}
    (h : Stops owner table q reply (.failure failure)) :
    ∃ e, reply = .error e ∧ e.kind.isDatabase = true := by
  cases h with
  | @unavailable e database => exact ⟨e, rfl, database⟩

theorem Reads.not_stops (h : Reads q reply) : ¬ Stops owner table q reply f := by
  obtain ⟨rows, rfl, hrows⟩ := h
  rintro (_ | _ | ⟨first⟩)
  have hnot := List.find?_some first
  rw [hrows _ (List.mem_of_find?_eq_some first)] at hnot
  contradiction

end Replies

section Course

variable {owner table : Text} {q : Query} {queries : List Query} {replies : List Reply}
  {count : Nat} {fault : Option Fault}

theorem replyAt_succ (replies : List Reply) (i : Nat) :
    replyAt replies (i + 1) = replyAt replies.tail i := by
  rw [replyAt, replyAt, List.drop_tail]

theorem forall_getElem?_cons_iff {p : Nat → Query → Prop} :
    (∀ i q', (q :: queries)[i]? = some q' → p i q') ↔
      p 0 q ∧ ∀ i q', queries[i]? = some q' → p (i + 1) q' := by
  constructor
  · intro h
    exact ⟨h 0 q rfl, fun i q' hq' => h (i + 1) q' hq'⟩
  · rintro ⟨hfirst, hlater⟩ i q' hq'
    cases i with
    | zero => exact Option.some.inj hq' ▸ hfirst
    | succ i => exact hlater i q' hq'

theorem exists_getElem?_cons_iff {p : Nat → Query → Prop} :
    (∃ i q', (q :: queries)[i]? = some q' ∧ p i q') ↔
      p 0 q ∨ ∃ i q', queries[i]? = some q' ∧ p (i + 1) q' := by
  constructor
  · rintro ⟨i, q', hq', h⟩
    cases i with
    | zero => exact .inl (Option.some.inj hq' ▸ h)
    | succ i => exact .inr ⟨i, q', hq', h⟩
  · rintro (h | ⟨i, q', hq', h⟩)
    · exact ⟨0, q, rfl, h⟩
    · exact ⟨i + 1, q', hq', h⟩

/-- A statement is executed just when every reply before it was read. -/
theorem Course.lt_count_iff (h : Course owner table queries replies count fault) (i : Nat) :
    i < count ↔ i < queries.length ∧
      ∀ j q, queries[j]? = some q → j < i → Reads q (replyAt replies j) := by
  induction h generalizing i with
  | done => simp
  | @stopped q queries replies f here =>
      rw [forall_getElem?_cons_iff]
      have hnot : ¬ Reads q (replyAt replies 0) := fun hreads => hreads.not_stops here
      cases i with
      | zero => simp
      | succ i => simp [hnot]
  | @read q queries replies count fault here later ih =>
      rw [forall_getElem?_cons_iff]
      have hfirst : Reads q (replyAt replies 0) := here
      cases i with
      | zero => simp
      | succ i => simp [ih, hfirst, replyAt_succ]

theorem Course.count_le_length (h : Course owner table queries replies count fault) :
    count ≤ queries.length :=
  Nat.le_of_not_lt fun hlt => Nat.lt_irrefl _ ((h.lt_count_iff queries.length).mp hlt).1

theorem Course.fault_eq_none_iff (h : Course owner table queries replies count fault) :
    fault = none ↔ ∀ i q, queries[i]? = some q → Reads q (replyAt replies i) := by
  induction h with
  | done => simp
  | @stopped q queries replies f here =>
      have hnot : ¬ Reads q (replyAt replies 0) := fun hreads => hreads.not_stops here
      simp [forall_getElem?_cons_iff, hnot]
  | @read q queries replies count fault here later ih =>
      have hfirst : Reads q (replyAt replies 0) := here
      simp only [ih, forall_getElem?_cons_iff, hfirst, true_and, replyAt_succ]

theorem Course.fault_eq_some_iff (h : Course owner table queries replies count fault) (f : Fault) :
    fault = some f ↔
      ∃ i q, queries[i]? = some q ∧ i < count ∧ Stops owner table q (replyAt replies i) f := by
  induction h with
  | done => simp
  | @stopped q queries replies f' here =>
      rw [exists_getElem?_cons_iff, Option.some.injEq]
      constructor
      · rintro rfl
        exact .inl ⟨Nat.one_pos, here⟩
      · rintro (⟨-, hstops⟩ | ⟨i, q', -, hi, -⟩)
        · exact here.unique hstops
        · omega
  | @read q queries replies count fault here later ih =>
      have hnot : ¬ Stops owner table q (replyAt replies 0) f := here.not_stops
      simp only [ih, exists_getElem?_cons_iff, hnot, and_false, false_or, replyAt_succ,
        Nat.add_lt_add_iff_right]

end Course

section Work

variable {owner table : Text} {q : Query}

def fault? {α : Type} : Except Fault α → Option Fault
  | .ok _ => none
  | .error f => some f

def keyStatement (owner table : Text) (q : Query) : Statement :=
  { query := q, binds := some { owner := some owner, table } }

/-- The work reads the replies to these queries, and does nothing else on the session. -/
def Follows {α : Type} (owner table : Text) (queries : List Query)
    (work : Session → Except Fault α × Session) : Prop :=
  ∀ s, ∃ count, Course owner table queries s.replies count (fault? (work s).1) ∧
    (work s).2.replies = s.replies.drop count ∧
    Executes s (work s).2 ((queries.map (keyStatement owner table)).take count)

/-- What the reader of a row answers, by whether the row can be read. -/
def ReadsRow {α : Type} (q : Query) (read : Row → Except RowError α) : Prop :=
  ∀ row, if isReadable q row then ∃ a, read row = .ok a else read row = .error (defect q row)

theorem readsRow_firstCell : ReadsRow .primaryKey firstCell := by
  intro row
  cases row with
  | nil => rfl
  | cons cell row => exact ⟨cell, rfl⟩

theorem readsRow_keyRow (h : q ≠ .primaryKey) : ReadsRow q keyRow := by
  intro row
  rcases row with _ | ⟨_ | name, _ | ⟨first, _ | ⟨second, _ | ⟨fourth, more⟩⟩⟩⟩ <;>
    simp [isReadable, defect, keyRow]

theorem mapM_cases {α : Type} {read : Row → Except RowError α} (h : ReadsRow q read)
    (rows : List Row) :
    (∃ as, rows.mapM read = .ok as ∧ ∀ row ∈ rows, isReadable q row = true) ∨
      ∃ row, rows.find? (!isReadable q ·) = some row ∧
        rows.mapM read = .error (defect q row) := by
  induction rows with
  | nil => exact .inl ⟨[], rfl, by simp⟩
  | cons row rows ih =>
      have hrow := h row
      rw [List.mapM_cons]
      by_cases hreadable : isReadable q row = true
      · rw [if_pos hreadable] at hrow
        obtain ⟨a, ha⟩ := hrow
        rw [ha]
        obtain ⟨as, has, hall⟩ | ⟨bad, hbad, herror⟩ := ih
        · exact .inl ⟨a :: as, by rw [has]; rfl, by simpa [hreadable] using hall⟩
        · exact .inr ⟨bad, by simp [hreadable, hbad], by rw [herror]; rfl⟩
      · rw [if_neg hreadable] at hrow
        exact .inr ⟨row, by simp [hreadable], by rw [hrow]; rfl⟩

theorem follows_andThen {α β : Type} {read : Row → Except RowError α}
    {next : List α → Session → Except Fault β × Session} {queries : List Query}
    (hread : ReadsRow q read) (hnext : ∀ as, Follows owner table queries (next as)) :
    Follows owner table (q :: queries)
      (andThen (ask (explain (some owner) table) (keyStatement owner table q) read) next) := by
  intro s
  rw [andThen, ask, execute_eq]
  cases hreply : nextReply s.replies with
  | error e =>
      refine ⟨1, .stopped ?_, List.drop_one.symm, rfl⟩
      rw [hreply, explain]
      cases hkind : e.kind.isDatabase with
      | true => exact .unavailable hkind
      | false => exact .passedOn hkind
  | ok rows =>
      obtain ⟨as, has, hall⟩ | ⟨row, hfirst, herror⟩ := mapM_cases hread rows
      · obtain ⟨count, hcourse, hreplies, hexecutes⟩ := hnext as
          { replies := s.replies.tail
            events := s.events ++ [.executed (keyStatement owner table q)] }
        simp only [has]
        refine ⟨count + 1, .read ⟨rows, hreply, hall⟩ hcourse, ?_, ?_⟩
        · exact hreplies.trans List.drop_tail
        · exact hexecutes.trans (List.append_assoc _ _ _)
      · simp only [herror]
        exact ⟨1, .stopped (hreply ▸ .malformed hfirst), List.drop_one.symm, rfl⟩

theorem follows_queryKeys (owner table : Text) :
    Follows owner table keyQueries (queryKeys owner table) := by
  rw [queryKeys_eq_andThen]
  apply follows_andThen readsRow_firstCell
  intro primary
  apply follows_andThen (readsRow_keyRow (by decide))
  intro headers
  apply follows_andThen (readsRow_keyRow (by decide))
  intro rows s
  exact ⟨0, .done, rfl, (List.append_nil _).symm⟩

end Work

/-- A reading of a table's keys, with the session before it. -/
structure Load where
  before : Session
  schema : Text
  table : Text

namespace Load

def outcome (l : Load) : Except Fault (TableKeys Cell) := (loadKeys l.schema l.table l.before).1

def after (l : Load) : Session := (loadKeys l.schema l.table l.before).2

def owner (l : Load) : Text := upper l.schema

def count (l : Load) : Nat := l.after.statements.length - l.before.statements.length

/-- What the statement before which so many others were executed is answered with. -/
def answer (l : Load) (i : Nat) : Except DriverError (List Row) := replyAt l.before.replies i

/-- The keys are told in full or not at all, and the session is left in order. -/
structure AllOrNothing (l : Load) : Prop where
  /-- One cursor is opened, executes the first statements, and is closed. -/
  served : Serves l.before l.after [(keyQueries.map (keyStatement l.owner l.table)).take l.count]
  /-- The replies to those are used up. -/
  used : l.after.replies = l.before.replies.drop l.count
  /-- A statement is executed just when every reply before it was read. -/
  executed : ∀ i, i < l.count ↔ i < 3 ∧
    ∀ j q, keyQueries[j]? = some q → j < i → Reads q (l.answer j)
  complete : (∃ keys, l.outcome = .ok keys) ↔
    ∀ i q, keyQueries[i]? = some q → Reads q (l.answer i)
  /-- A fault is the one of the reply that could not be read. -/
  faulty : ∀ f, l.outcome = .error f ↔
    ∃ i q, keyQueries[i]? = some q ∧ i < l.count ∧ Stops l.owner l.table q (l.answer i) f
  /-- The failure about the table is told just when a statement had an error of the database. -/
  unavailable : (∃ f, l.outcome = .error (.failure f)) ↔
    ∃ i < l.count, ∃ e, l.answer i = .error e ∧ e.kind.isDatabase = true

end Load

/-- The readings of the keys of several tables, one after the other. -/
def loads : Session → List (Text × Text) → List Load
  | _, [] => []
  | s, (schema, table) :: calls =>
      let load : Load := { before := s, schema, table }
      load :: loads load.after calls

theorem fault?_eq_none_iff {α : Type} {outcome : Except Fault α} :
    fault? outcome = none ↔ ∃ a, outcome = .ok a := by
  cases outcome <;> simp [fault?]

theorem fault?_eq_some_iff {α : Type} {outcome : Except Fault α} {f : Fault} :
    fault? outcome = some f ↔ outcome = .error f := by
  cases outcome <;> simp [fault?]

namespace Load

variable (l : Load)

theorem course :
    Course l.owner l.table keyQueries l.before.replies l.count (fault? l.outcome) ∧
      l.after.replies = l.before.replies.drop l.count ∧
      Serves l.before l.after [(keyQueries.map (keyStatement l.owner l.table)).take l.count] := by
  obtain ⟨count, hcourse, hreplies, hexecutes⟩ :=
    follows_queryKeys l.owner l.table (l.before.record .cursorOpened)
  have hserves : Serves l.before l.after
      [(keyQueries.map (keyStatement l.owner l.table)).take count] := serves_withCursor hexecutes
  have hcount : l.count = count := by
    have hlength := hcourse.count_le_length
    have hstatements := congrArg List.length hserves.statements
    simp only [List.flatten_singleton, List.length_append, List.length_take,
      List.length_map] at hstatements
    rw [Load.count]
    omega
  rw [hcount]
  exact ⟨hcourse, hreplies, hserves⟩

theorem allOrNothing : l.AllOrNothing := by
  obtain ⟨hcourse, hreplies, hserves⟩ := l.course
  have hfaulty (f : Fault) := fault?_eq_some_iff.symm.trans (hcourse.fault_eq_some_iff f)
  have hexecuted (i : Nat) : i < l.count ↔ i < 3 ∧
      ∀ j q, keyQueries[j]? = some q → j < i → Reads q (l.answer j) := hcourse.lt_count_iff i
  refine ⟨hserves, hreplies, hexecuted, ?_, hfaulty, ?_⟩
  · exact fault?_eq_none_iff.symm.trans hcourse.fault_eq_none_iff
  · constructor
    · rintro ⟨failure, hfailure⟩
      obtain ⟨i, q, -, hi, hstops⟩ := (hfaulty _).mp hfailure
      exact ⟨i, hi, hstops.of_failure⟩
    · rintro ⟨i, hi, e, he, database⟩
      have hinside : i < keyQueries.length := ((hexecuted i).mp hi).1
      have hstops : Stops l.owner l.table keyQueries[i] (.error e)
          (.failure (.metadata e.message (some l.owner) (some l.table))) := .unavailable database
      rw [← he] at hstops
      exact ⟨_, (hfaulty _).mpr ⟨i, _, List.getElem?_eq_getElem hinside, hi, hstops⟩⟩

theorem outcome_eq :
    l.outcome = (loadKeys l.schema l.table { replies := l.before.replies }).1 := by
  have hforgetful := forgetful_loadKeys l.schema l.table l.before.events
    { replies := l.before.replies }
  have hsince : since l.before.events { replies := l.before.replies } = l.before := by
    rw [since, List.append_nil]
  rw [hsince] at hforgetful
  rw [outcome, hforgetful]

end Load

theorem replies_before {s : Session} {calls : List (Text × Text)} {front back : List Load}
    {l : Load} (h : loads s calls = front ++ l :: back) :
    l.before.replies = s.replies.drop (front.map Load.count).sum := by
  induction calls generalizing s front with
  | nil => simp [loads] at h
  | cons call calls ih =>
      obtain ⟨schema, table⟩ := call
      rw [loads] at h
      cases front with
      | nil =>
          rw [List.nil_append, List.cons.injEq] at h
          rw [← h.1]
          rfl
      | cons first front =>
          rw [List.cons_append, List.cons.injEq] at h
          obtain ⟨rfl, hlater⟩ := h
          have hused := (Load.allOrNothing { before := s, schema, table }).used
          rw [ih hlater, hused, List.drop_drop, List.map_cons, List.sum_cons]

/-- Of the readings one after the other each is in full or not at all, and depends on nothing but
the replies that those before it have left. -/
theorem loads_allOrNothing {s : Session} {calls : List (Text × Text)} {front back : List Load}
    {l : Load} (h : loads s calls = front ++ l :: back) :
    l.AllOrNothing ∧ l.before.replies = s.replies.drop (front.map Load.count).sum ∧
      l.outcome = (loadKeys l.schema l.table
        { replies := s.replies.drop (front.map Load.count).sum }).1 := by
  have hreplies := replies_before h
  exact ⟨l.allOrNothing, hreplies, hreplies ▸ l.outcome_eq⟩

/-- Replies of which the first reading meets an error, the second one a short row, and the third one
nothing wrong. -/
def mixedReplies : List Reply :=
  [.rows [[some ['A']]], .error { kind := .operational, message := "gone".toList },
    .rows [], .rows [], .rows [[some "FK".toList, some ['A']]],
    .rows [[some ['B'], none]], .rows [], .rows []]

theorem loads_allOrNothing_mixedReplies :
    let load := fun (s : Session) => Load.mk s ['s'] ['t']
    let first := load { replies := mixedReplies }
    let second := load first.after
    let third := load second.after
    loads { replies := mixedReplies } [(['s'], ['t']), (['s'], ['t']), (['s'], ['t'])] =
        [first, second] ++ [third] ∧
      first.outcome = .error (.failure (.metadata "gone".toList (some ['S']) (some ['t']))) ∧
      second.outcome = .error (.row (.short 2)) ∧
      (∃ keys, third.outcome = .ok keys) ∧ third.before.replies = mixedReplies.drop 5 ∧
      third.AllOrNothing := by
  intro load first second third
  have hsplit : loads { replies := mixedReplies } [(['s'], ['t']), (['s'], ['t']), (['s'], ['t'])] =
      [first, second] ++ [third] := rfl
  obtain ⟨hlaw, hreplies, -⟩ := loads_allOrNothing hsplit
  exact ⟨hsplit, rfl, rfl, ⟨_, rfl⟩, hreplies, hlaw⟩

end MappingMarkers.Proofs.KeyLoading
