import MappingMarkers.Catalog.ColumnCheck

namespace MappingMarkers.Proofs.SessionWork

open Text Catalog

/-- One piece of work and then another, unless the first one ends with a fault. -/
def andThen {α β : Type} (work : Session → Except Fault α × Session)
    (next : α → Session → Except Fault β × Session) (s : Session) : Except Fault β × Session :=
  match work s with
  | (.error f, s) => (.error f, s)
  | (.ok a, s) => next a s

theorem queryKeys_eq_andThen (owner table : Text) :
    queryKeys owner table =
      let statement query : Statement := { query, binds := some { owner := some owner, table } }
      let explained := explain (some owner) table
      andThen (ask explained (statement .primaryKey) firstCell) fun primary =>
        andThen (ask explained (statement .foreignKeys) keyRow) fun headers =>
          andThen (ask explained (statement .foreignKeyColumns) keyRow) fun rows s =>
            (.ok { table, primary, foreign := groupPairs headers rows }, s) := by
  funext s
  grind [queryKeys, andThen]

/-- What the next statement is answered with, by the replies in store. -/
def nextReply : List Reply → Except DriverError (List Row)
  | [] => .ok []
  | .rows rows :: _ => .ok rows
  | .error e :: _ => .error e

theorem execute_eq (st : Statement) (s : Session) :
    Session.execute st s =
      (nextReply s.replies,
        { replies := s.replies.tail, events := s.events ++ [.executed st] }) := by
  obtain ⟨replies, events⟩ := s
  cases replies with
  | nil => rfl
  | cons reply replies =>
      cases reply with
      | rows rows => rfl
      | error e => rfl

section Earlier

/-- A session on which something has happened earlier. -/
def since (earlier : List Event) (s : Session) : Session :=
  { s with events := earlier ++ s.events }

/-- Work that does not look at what has happened on the session. -/
def Forgetful {α : Type} (work : Session → α × Session) : Prop :=
  ∀ earlier s, work (since earlier s) = ((work s).1, since earlier (work s).2)

theorem record_since (earlier : List Event) (s : Session) (e : Event) :
    (since earlier s).record e = since earlier (s.record e) := by
  simp [since, Session.record]

theorem forgetful_execute (st : Statement) : Forgetful (Session.execute st) := by
  intro earlier s
  rw [execute_eq, execute_eq, since, since, List.append_assoc]

theorem Forgetful.withCursor {α : Type} {work : Session → α × Session} (h : Forgetful work) :
    Forgetful (Session.withCursor work) := by
  intro earlier s
  rw [Session.withCursor, Session.withCursor, record_since, h]
  simp only [record_since]

theorem forgetful_ask {α : Type} (explained : DriverError → Fault) (st : Statement)
    (read : Row → Except RowError α) : Forgetful (ask explained st read) := by
  intro earlier s
  rw [ask, ask, forgetful_execute]
  cases Session.execute st s with
  | mk outcome after =>
      cases outcome with
      | error e => rfl
      | ok rows => rfl

theorem Forgetful.andThen {α β : Type} {work : Session → Except Fault α × Session}
    {next : α → Session → Except Fault β × Session} (hwork : Forgetful work)
    (hnext : ∀ a, Forgetful (next a)) : Forgetful (andThen work next) := by
  intro earlier s
  rw [SessionWork.andThen, SessionWork.andThen, hwork earlier s]
  cases work s with
  | mk outcome after =>
      cases outcome with
      | error f => rfl
      | ok a => exact hnext a earlier after

theorem forgetful_queryKeys (owner table : Text) : Forgetful (queryKeys owner table) := by
  rw [queryKeys_eq_andThen]
  exact (forgetful_ask _ _ _).andThen fun _ =>
    (forgetful_ask _ _ _).andThen fun _ =>
      (forgetful_ask _ _ _).andThen fun _ _ _ => rfl

theorem forgetful_loadKeys (schema table : Text) : Forgetful (loadKeys schema table) :=
  (forgetful_queryKeys (upper schema) table).withCursor

end Earlier

section Observations

/-- The events of a cursor that is opened, executes statements, and is closed. -/
def onCursor (statements : List Statement) : List Event :=
  .cursorOpened :: (statements.map .executed ++ [.cursorClosed])

/-- A session on which just this has happened. -/
def having (events : List Event) : Session := { replies := [], events }

theorem statements_append (events more : List Event) :
    (having (events ++ more)).statements =
      (having events).statements ++ (having more).statements := by
  simp only [Session.statements, having, List.filterMap_append]

theorem statements_map_executed (statements : List Statement) :
    (having (statements.map .executed)).statements = statements := by
  induction statements with
  | nil => rfl
  | cons st later ih =>
      rw [List.map_cons, ← List.singleton_append, statements_append, ih]
      rfl

theorem statements_onCursor (statements : List Statement) :
    (having (onCursor statements)).statements = statements := by
  rw [onCursor, ← List.singleton_append, statements_append, statements_append,
    statements_map_executed]
  exact List.append_nil _

theorem statements_flatMap_onCursor (cursors : List (List Statement)) :
    (having (cursors.flatMap onCursor)).statements = cursors.flatten := by
  induction cursors with
  | nil => rfl
  | cons statements later ih =>
      rw [List.flatMap_cons, statements_append, statements_onCursor, ih, List.flatten_cons]

theorem closeLast_append {closed : List Bool} (h : ∀ c ∈ closed, c = true) :
    Session.closeLast (closed ++ [false]) = closed ++ [true] := by
  induction closed with
  | nil => rfl
  | cons c later ih =>
      have hlater : ((later ++ [false]).all id) = false := by simp
      rw [List.cons_append, Session.closeLast, hlater, ih fun d hd => h d (List.mem_cons_of_mem _ hd)]
      rfl

theorem cursors_append_executed (events : List Event) (statements : List Statement) :
    (having (events ++ statements.map .executed)).cursors = (having events).cursors := by
  induction statements generalizing events with
  | nil => rw [List.map_nil, List.append_nil]
  | cons st later ih =>
      rw [List.map_cons, List.append_cons, ih]
      simp only [Session.cursors, having, List.foldl_append, List.foldl_cons, List.foldl_nil]

theorem cursors_append_onCursor {events : List Event}
    (h : ∀ c ∈ (having events).cursors, c = true) (statements : List Statement) :
    (having (events ++ onCursor statements)).cursors = (having events).cursors ++ [true] := by
  have hopened : (having (events ++ [.cursorOpened])).cursors =
      (having events).cursors ++ [false] := by
    simp only [Session.cursors, having, List.foldl_append, List.foldl_cons, List.foldl_nil]
  have hclosed : (having (events ++ onCursor statements)).cursors =
      Session.closeLast
        (having (events ++ [.cursorOpened] ++ statements.map .executed)).cursors := by
    simp only [onCursor, Session.cursors, having, List.foldl_append, List.foldl_cons,
      List.foldl_nil]
  rw [hclosed, cursors_append_executed, hopened, closeLast_append h]

theorem closed_append_flatMap_onCursor {events : List Event}
    (h : ∀ c ∈ (having events).cursors, c = true) (cursors : List (List Statement)) :
    ∀ c ∈ (having (events ++ cursors.flatMap onCursor)).cursors, c = true := by
  induction cursors generalizing events with
  | nil => rwa [List.flatMap_nil, List.append_nil]
  | cons statements later ih =>
      rw [List.flatMap_cons, ← List.append_assoc]
      apply ih
      rw [cursors_append_onCursor h]
      intro c hc
      rcases List.mem_append.mp hc with hc | hc
      · exact h c hc
      · exact List.mem_singleton.mp hc

end Observations

section Serving

/-- The statements are executed, and nothing else happens on the session. -/
def Executes (s last : Session) (statements : List Statement) : Prop :=
  last.events = s.events ++ statements.map .executed

/-- One cursor after the other executes its statements and is closed, and nothing else happens on
the session. -/
def Serves (s last : Session) (cursors : List (List Statement)) : Prop :=
  last.events = s.events ++ cursors.flatMap onCursor

theorem serves_refl (s : Session) : Serves s s [] :=
  (List.append_nil _).symm

variable {s last later : Session} {cursors more : List (List Statement)}

theorem Serves.trans (h : Serves s last cursors) (hmore : Serves last later more) :
    Serves s later (cursors ++ more) := by
  rw [Serves, hmore, h, List.flatMap_append, List.append_assoc]

theorem Serves.statements (h : Serves s last cursors) :
    last.statements = s.statements ++ cursors.flatten := by
  have hlast : last.statements = (having last.events).statements := rfl
  rw [hlast, h, statements_append, statements_flatMap_onCursor]
  rfl

theorem Serves.closed (h : Serves s last cursors) (hs : ∀ c ∈ s.cursors, c = true) :
    ∀ c ∈ last.cursors, c = true := by
  have hlast : last.cursors = (having last.events).cursors := rfl
  rw [hlast, h]
  exact closed_append_flatMap_onCursor hs cursors

theorem serves_withCursor {α : Type} {work : Session → α × Session} {statements : List Statement}
    (h : Executes (s.record .cursorOpened) (work (s.record .cursorOpened)).2 statements) :
    Serves s (Session.withCursor work s).2 [statements] := by
  have hevents : (Session.withCursor work s).2.events =
      (work (s.record .cursorOpened)).2.events ++ [.cursorClosed] := rfl
  rw [Serves, hevents, h, List.flatMap_singleton, onCursor, Session.record]
  simp only [List.append_assoc, List.cons_append, List.nil_append]

theorem withCursor_execute (st : Statement) (s : Session) :
    Session.withCursor (Session.execute st) s =
      (nextReply s.replies,
        { replies := s.replies.tail, events := s.events ++ onCursor [st] }) := by
  rw [Session.withCursor, execute_eq, onCursor, Session.record]
  simp only [Session.record, List.append_assoc, List.map_cons, List.map_nil, List.cons_append,
    List.nil_append]

end Serving

section Checking

def userQuery : Statement := { query := .currentUser, binds := none }

def columnsQuery (owner : Cell) (table : Text) : Statement :=
  { query := .tableColumns, binds := some { owner, table } }

/-- The user of the session by the next reply: the first cell of the first row, or the empty name
when there is no row or no cell in it. -/
def namedUser (replies : List Reply) : Except Fault Cell :=
  match nextReply replies with
  | .error e => .error (CheckSession.explainUser e)
  | .ok rows => .ok (CheckSession.userOf rows)

def givenOwner? (content : Text) (schema : Option Text) : Option Text :=
  (Attribute.tableSchema? content).or (schema.filter (!·.isEmpty))

/-- The statement about the columns of a table, unless its owner is not to be had. -/
def lookup? (exactNames : Bool) (name : Text) (owner : Except Fault Cell) : Option Statement :=
  owner.toOption.bind fun cell =>
    (CheckSession.normalCell exactNames cell).toOption.map fun known =>
      columnsQuery known (CheckSession.normal exactNames name)

variable {exactNames : Bool} {c : CheckSession} {content : Text}

theorem currentUser_of_some {name : Text} (h : c.user = some name) :
    c.currentUser = (.ok (some name), c) := by
  rw [CheckSession.currentUser, h]

theorem currentUser_of_none (h : c.user = none) :
    c.currentUser =
      (namedUser c.session.replies,
        { session :=
            { replies := c.session.replies.tail, events := c.session.events ++ onCursor [userQuery] }
          user := (namedUser c.session.replies).toOption.join }) := by
  have hanswer := withCursor_execute userQuery c.session
  rw [userQuery] at hanswer
  rw [CheckSession.currentUser, h, hanswer, namedUser]
  cases nextReply c.session.replies with
  | error e => rfl
  | ok rows => rfl

def userCursors (c : CheckSession) : List (List Statement) :=
  match c.user with
  | some _ => []
  | none => [[userQuery]]

theorem serves_currentUser (c : CheckSession) :
    Serves c.session c.currentUser.2.session (userCursors c) := by
  rw [userCursors]
  cases h : c.user with
  | some name =>
      rw [currentUser_of_some h]
      exact serves_refl _
  | none =>
      rw [currentUser_of_none h, Serves, List.flatMap_singleton]

theorem columns_snd (exactNames : Bool) (owner : Cell) (table : Text) (c : CheckSession) :
    (c.columns exactNames owner table).2 =
      { c with session :=
          { replies := c.session.replies.tail
            events := c.session.events ++ onCursor [columnsQuery owner table] } } := by
  have hanswer := withCursor_execute (columnsQuery owner table) c.session
  rw [columnsQuery] at hanswer
  rw [CheckSession.columns, hanswer]
  cases nextReply c.session.replies with
  | error e => rfl
  | ok rows => rfl

theorem serves_columns (exactNames : Bool) (owner : Cell) (table : Text) (c : CheckSession) :
    Serves c.session (c.columns exactNames owner table).2.session [[columnsQuery owner table]] := by
  rw [columns_snd, Serves, List.flatMap_singleton]

theorem user_columns (exactNames : Bool) (owner : Cell) (table : Text) (c : CheckSession) :
    (c.columns exactNames owner table).2.user = c.user := by
  rw [columns_snd]

theorem owner_of_given {schema : Option Text} {name : Text}
    (h : givenOwner? content schema = some name) :
    c.owner content schema = (.ok (some name), c) := by
  rw [givenOwner?] at h
  rw [CheckSession.owner, h]

theorem owner_of_not_given {schema : Option Text} (h : givenOwner? content schema = none) :
    c.owner content schema = c.currentUser := by
  rw [givenOwner?] at h
  rw [CheckSession.owner, h]

def ownerCursors (c : CheckSession) (content : Text) (schema : Option Text) :
    List (List Statement) :=
  match givenOwner? content schema with
  | some _ => []
  | none => userCursors c

theorem serves_owner (c : CheckSession) (content : Text) (schema : Option Text) :
    Serves c.session (c.owner content schema).2.session (ownerCursors c content schema) := by
  rw [ownerCursors]
  cases h : givenOwner? content schema with
  | some name =>
      rw [owner_of_given h]
      exact serves_refl _
  | none =>
      rw [owner_of_not_given h]
      exact serves_currentUser c

theorem check_of_unmapped {entity : Text} {schema : Option Text}
    (h : Attribute.tableName? content = none) :
    c.check exactNames content entity schema = (.ok none, c) := by
  rw [CheckSession.check, h]

theorem check_snd_of_mapped (exactNames : Bool) (c : CheckSession) {name : Text}
    (h : Attribute.tableName? content = some name) (entity : Text) (schema : Option Text) :
    let (owner, owned) := c.owner content schema
    (c.check exactNames content entity schema).2.user = owned.user ∧
      Serves owned.session (c.check exactNames content entity schema).2.session
        ((lookup? exactNames name owner).toList.map ([·])) := by
  rw [CheckSession.check, h]
  rcases c.owner content schema with ⟨f | owner, owned⟩
  · exact ⟨rfl, serves_refl _⟩
  cases hnormal : CheckSession.normalCell exactNames owner with
  | error e =>
      have hlookup : lookup? exactNames name (.ok owner) = none := by
        simp [lookup?, Except.toOption, hnormal]
      simp only [hlookup, hnormal]
      exact ⟨trivial, serves_refl _⟩
  | ok known =>
      have hlookup : lookup? exactNames name (.ok owner) =
          some (columnsQuery known (CheckSession.normal exactNames name)) := by
        simp [lookup?, Except.toOption, hnormal]
      have hlast := user_columns exactNames known (CheckSession.normal exactNames name) owned
      have hserves := serves_columns exactNames known (CheckSession.normal exactNames name) owned
      simp only [hlookup, hnormal]
      rcases hcolumns : owned.columns exactNames known (CheckSession.normal exactNames name) with
        ⟨f | present, last⟩
      · rw [hcolumns] at hlast hserves
        exact ⟨hlast, hserves⟩
      · rw [hcolumns] at hlast hserves
        exact ⟨hlast, hserves⟩

theorem serves_check_of_mapped {name : Text} (h : Attribute.tableName? content = some name)
    (entity : Text) (schema : Option Text) :
    Serves c.session (c.check exactNames content entity schema).2.session
      (ownerCursors c content schema ++
        (lookup? exactNames name (c.owner content schema).1).toList.map ([·])) :=
  (serves_owner c content schema).trans (check_snd_of_mapped exactNames c h entity schema).2

theorem serves_check (exactNames : Bool) (content entity : Text) (schema : Option Text)
    (c : CheckSession) :
    ∃ cursors, Serves c.session (c.check exactNames content entity schema).2.session cursors := by
  cases h : Attribute.tableName? content with
  | none =>
      rw [check_of_unmapped h]
      exact ⟨[], serves_refl _⟩
  | some name => exact ⟨_, serves_check_of_mapped h entity schema⟩

end Checking

end MappingMarkers.Proofs.SessionWork
