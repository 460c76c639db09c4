import MappingMarkers.Proofs.FileAttempts
import MappingMarkers.Proofs.KeyLoading
import MappingMarkers.Proofs.RunEndings

/-!
The life of the connection. A program makes at most one, and one that was made is closed at the end
of the work however the work ends; in between, one cursor after the other is used and closed.
-/

namespace MappingMarkers.Proofs.ConnectionLifetime

open Text Catalog CommandLine Validation RunEndings SessionWork FileAttempts

def Made (events : List Event) : Prop := ∃ c, .connected c ∈ events

/-- The order of what happens on a connection. -/
structure Ordered (events : List Event) : Prop where
  first : ∀ before c after, events = before ++ .connected c :: after → before = []
  /-- A connection that was made is closed once. -/
  closed : Made events → events.count .disconnected = 1
  /-- Without a connection there is none to be closed. -/
  unmade : ¬ Made events → .disconnected ∉ events
  executed : ∀ before st after, events = before ++ .executed st :: after →
    Made before ∧ .disconnected ∉ before ∧ .disconnected ∈ after
  /-- The connection is closed after all else, and every cursor is closed by then. -/
  last : ∀ before after, events = before ++ .disconnected :: after →
    Made before ∧ (∀ cursor ∈ (having before).cursors, cursor = true) ∧ after = []

/-- The event neither makes nor closes a connection. -/
def Inner (e : Event) : Prop := e ≠ .disconnected ∧ ∀ c, e ≠ .connected c

section Orders

theorem ordered_of_unmade {events : List Event} (hmade : ¬ Made events)
    (hinner : ∀ e ∈ events, e ≠ .disconnected ∧ ∀ st, e ≠ .executed st) : Ordered events := by
  have hclosed : .disconnected ∉ events := fun h => (hinner _ h).1 rfl
  constructor
  · intro before c after hsplit
    exact absurd ⟨c, by simp [hsplit]⟩ hmade
  · intro h
    exact absurd h hmade
  · intro _
    exact hclosed
  · intro before st after hsplit
    exact absurd rfl ((hinner (.executed st) (by simp [hsplit])).2 st)
  · intro before after hsplit
    exact absurd (by simp [hsplit]) hclosed

theorem split_of_ne_last {front before after : List Event} {last e : Event} (hne : e ≠ last)
    (h : front ++ [last] = before ++ e :: after) :
    ∃ rest, front = before ++ e :: rest ∧ after = rest ++ [last] := by
  rcases List.eq_nil_or_concat after with rfl | ⟨rest, final, rfl⟩
  · have hlast := List.append_inj_right' h rfl
    exact absurd (List.cons.inj hlast).1.symm hne
  · rw [List.concat_eq_append, ← List.cons_append, ← List.append_assoc] at h
    obtain ⟨hfront, hlast⟩ := List.append_inj' h rfl
    refine ⟨rest, hfront, ?_⟩
    rw [List.concat_eq_append, hlast]

theorem ordered_of_made {c : Credentials} {inner : List Event} (hinner : ∀ e ∈ inner, Inner e)
    (hcursors : ∀ cursor ∈ (having (.connected c :: inner)).cursors, cursor = true) :
    Ordered (.connected c :: inner ++ [.disconnected]) := by
  have hopen : .disconnected ∉ Event.connected c :: inner := by
    intro h
    rcases List.mem_cons.mp h with h | h
    · contradiction
    · exact (hinner _ h).1 rfl
  constructor
  · intro before c' after hsplit
    obtain ⟨rest, hfront, -⟩ := split_of_ne_last (by simp) hsplit
    cases before with
    | nil => rfl
    | cons first before =>
        rw [List.cons_append, List.cons.injEq] at hfront
        have hmem : .connected c' ∈ inner := by simp [hfront.2]
        exact absurd rfl ((hinner _ hmem).2 c')
  · intro _
    rw [List.count_append, List.count_eq_zero_of_not_mem hopen]
    rfl
  · intro h
    exact absurd ⟨c, by simp⟩ h
  · intro before st after hsplit
    obtain ⟨rest, hfront, rfl⟩ := split_of_ne_last (by simp) hsplit
    cases before with
    | nil => simp at hfront
    | cons first before =>
        rw [hfront, List.mem_append, not_or] at hopen
        rw [List.cons_append, List.cons.injEq] at hfront
        exact ⟨⟨c, by simp [hfront.1]⟩, hopen.1, by simp⟩
  · intro before after hsplit
    rcases List.eq_nil_or_concat after with rfl | ⟨rest, final, rfl⟩
    · obtain ⟨rfl, -⟩ := List.append_inj' hsplit rfl
      exact ⟨⟨c, List.mem_cons_self⟩, hcursors, rfl⟩
    · -- The first of two closings would stand among the other events.
      rw [List.concat_eq_append, ← List.cons_append, ← List.append_assoc] at hsplit
      obtain ⟨hfront, -⟩ := List.append_inj' hsplit rfl
      exact absurd (by simp [hfront]) hopen

end Orders

section Work

variable {s : Settings} {schema : Text}

theorem serves_appraise (s : Settings) (schema : Text) (path : Files.Path)
    (reading : Except Files.AccessError (List UInt8)) (session : Session) :
    ∃ cursors, Serves session (appraise s schema path reading session).2 cursors := by
  obtain ⟨examination, h, -⟩ | ⟨table, content, h⟩ := appraise_cases s schema path reading
  · rw [h]
    exact ⟨[], serves_refl _⟩
  · rw [h]
    exact ⟨_, (KeyLoading.Load.allOrNothing ⟨session, schema, table⟩).served⟩

theorem serves_annotateFile (s : Settings) (schema : Text) (path : Files.Path) (w : Workspace) :
    ∃ cursors, Serves w.session (Run.annotateFile s schema path w).2.session cursors := by
  obtain ⟨-, -, hsession⟩ := annotateFile_eq_attempt s schema path w
  obtain ⟨cursors, hserves⟩ := serves_appraise s schema path (w.tree.read path.text)
    { replies := w.session.replies }
  refine ⟨cursors, ?_⟩
  rw [hsession]
  exact congrArg (w.session.events ++ ·) hserves

theorem serves_annotateEach (s : Settings) (schema : Text) (paths : List Files.Path)
    (w : Workspace) :
    ∃ cursors, Serves w.session (Run.annotateEach s schema paths w).2.session cursors := by
  induction paths generalizing w with
  | nil => exact ⟨[], serves_refl _⟩
  | cons path paths ih =>
      obtain ⟨cursors, hfile⟩ := serves_annotateFile s schema path w
      obtain ⟨more, hrest⟩ := ih (Run.annotateFile s schema path w).2
      exact ⟨cursors ++ more, hfile.trans hrest⟩

theorem serves_annotate (s : Settings) (root schema : Text) (w : Workspace) :
    ∃ cursors, Serves w.session (Run.annotate s root schema w).2.session cursors := by
  rw [Run.annotate]
  cases Files.sources w.tree (.parse root) s with
  | error f => exact ⟨[], serves_refl _⟩
  | ok paths =>
      cases paths with
      | nil => exact ⟨[], serves_refl _⟩
      | cons path paths => exact serves_annotateEach s schema (path :: paths) (w.note _)

theorem serves_checkFile (scope : Scope) (path : Files.Path) (c : CheckSession) :
    ∃ cursors, Serves c.session (scope.checkFile path c).2.session cursors := by
  rw [Scope.checkFile]
  cases Files.readSource scope.tree path.text with
  | error f => exact ⟨[], serves_refl _⟩
  | ok content => exact serves_check scope.exactNames content path.name scope.schema c

theorem serves_checkEach (scope : Scope) (paths : List Files.Path) (c : CheckSession) :
    ∃ cursors, Serves c.session (scope.checkEach paths c).2.1.session cursors := by
  induction paths generalizing c with
  | nil => exact ⟨[], serves_refl _⟩
  | cons path paths ih =>
      obtain ⟨cursors, hfile⟩ := serves_checkFile scope path c
      rw [Scope.checkEach_cons]
      rcases hchecked : scope.checkFile path c with ⟨f | outcome, next⟩
      · rw [hchecked] at hfile
        exact ⟨cursors, hfile⟩
      · rw [hchecked] at hfile
        obtain ⟨more, hrest⟩ := ih next
        exact ⟨cursors ++ more, hfile.trans hrest⟩

theorem serves_check_run (s : Settings) (root : Text) (schema : Option Text) (w : Workspace) :
    ∃ cursors, Serves w.session (Run.check s root schema w).2.session cursors := by
  rw [Run.check]
  cases Files.sources w.tree (.parse root) s with
  | error f => exact ⟨[], serves_refl _⟩
  | ok paths =>
      exact serves_checkEach { tree := w.tree, exactNames := s.exactNames, schema } paths
        { session := w.session }

end Work

section Programs

variable {args : List Text} {s : Surroundings} {a : Arguments} {settings : Settings}
  {c : Credentials}

theorem workspace_annotateWork (settings : Settings) (a : Arguments) (w : Workspace) :
    (annotateWork settings a w).workspace =
      (Run.annotate settings a.rootDir (a.schema.getD []) w).2 := by
  rw [annotateWork]
  rcases Run.annotate settings a.rootDir (a.schema.getD []) w with ⟨f | reports, last⟩
  · rfl
  · cases reports <;> rfl

theorem workspace_checkWork (settings : Settings) (a : Arguments) (w : Workspace) :
    (checkWork settings a w).workspace = (Run.check settings a.rootDir a.schema w).2 := by
  rcases h : Run.check settings a.rootDir a.schema w with ⟨f | checks, last⟩
  · rw [checkWork, h]
    cases f <;> rfl
  · rw [checkWork_of_ok h]

theorem serves_annotateWork (settings : Settings) (a : Arguments) (w : Workspace) :
    ∃ cursors, Serves w.session (annotateWork settings a w).workspace.session cursors := by
  rw [workspace_annotateWork]
  exact serves_annotate settings a.rootDir (a.schema.getD []) w

theorem serves_checkWork (settings : Settings) (a : Arguments) (w : Workspace) :
    ∃ cursors, Serves w.session (checkWork settings a w).workspace.session cursors := by
  rw [workspace_checkWork]
  exact serves_check_run settings a.rootDir a.schema w

theorem session_of_opened (h : Opened args s a settings c) :
    ∃ cursors : List (List Statement), (run args s).session.events =
      (opened s settings c).events ++ cursors.flatMap onCursor ++ [.disconnected] := by
  rw [run_of_opened h, work]
  cases a.command with
  | annotate =>
      obtain ⟨cursors, hserves⟩ := serves_annotateWork settings a (start s settings c)
      exact ⟨cursors, congrArg (· ++ [Event.disconnected]) hserves⟩
  | check =>
      obtain ⟨cursors, hserves⟩ := serves_checkWork settings a (start s settings c)
      exact ⟨cursors, congrArg (· ++ [Event.disconnected]) hserves⟩

theorem session_of_unopened (h : ¬ ∃ a settings c, Opened args s a settings c) :
    (run args s).session.events = [] ∨ ∃ c, (run args s).session.events = [.refused c] := by
  rcases parsed : parse args with (t | t) | a
  · exact .inl (by rw [run, parsed]; rfl)
  · exact .inl (by rw [run, parsed]; rfl)
  rw [run_of_parsed parsed, perform]
  cases configured : CommandLine.settings s.environment a with
  | error f => exact .inl rfl
  | ok settings =>
  cases authorised : credentials s.environment a with
  | error message => exact .inl rfl
  | ok c =>
  cases accepted : s.refusal with
  | none => exact absurd ⟨a, settings, c, ⟨parsed, configured, authorised⟩, accepted⟩ h
  | some e =>
      refine .inr ⟨c, ?_⟩
      simp only [connect, explainRefusal]
      cases e.kind.isDatabase <;> rfl

theorem events_opened (s : Surroundings) (settings : Settings) (c : Credentials) :
    ∃ limits, (opened s settings c).events = .connected c :: limits ∧ (∀ e ∈ limits, Inner e) ∧
      (having (.connected c :: limits)).cursors = [] := by
  rw [opened, connect]
  by_cases h : settings.callTimeout = 0
  · refine ⟨[], ?_, by simp, rfl⟩
    rw [if_pos h]
    rfl
  · refine ⟨[.limited settings.callTimeout], ?_, ?_, rfl⟩
    · rw [if_neg h]
      rfl
    · intro e he
      rw [List.mem_singleton.mp he]
      simp [Inner]

theorem inner_of_mem_onCursor {statements : List Statement} {e : Event}
    (h : e ∈ onCursor statements) : Inner e := by
  rw [onCursor, List.mem_cons, List.mem_append, List.mem_map, List.mem_singleton] at h
  obtain rfl | ⟨st, -, rfl⟩ | rfl := h
  all_goals simp [Inner]

theorem ordered_of_opened (h : Opened args s a settings c) :
    Made (run args s).session.events ∧ Ordered (run args s).session.events := by
  obtain ⟨cursors, hevents⟩ := session_of_opened h
  obtain ⟨limits, hopened, hlimits, hnone⟩ := events_opened s settings c
  rw [hevents, hopened, List.cons_append]
  refine ⟨⟨c, by simp⟩, ordered_of_made ?_ ?_⟩
  · intro e he
    rcases List.mem_append.mp he with he | he
    · exact hlimits e he
    · obtain ⟨statements, -, he⟩ := List.mem_flatMap.mp he
      exact inner_of_mem_onCursor he
  · rw [← List.cons_append]
    apply closed_append_flatMap_onCursor
    simp [hnone]

theorem ordered_of_unopened (h : ¬ ∃ a settings c, Opened args s a settings c) :
    ¬ Made (run args s).session.events ∧ Ordered (run args s).session.events := by
  have hmade : ¬ Made (run args s).session.events := by
    rintro ⟨c, hc⟩
    obtain hevents | ⟨c', hevents⟩ := session_of_unopened h
    · simp [hevents] at hc
    · simp [hevents] at hc
  refine ⟨hmade, ordered_of_unmade hmade ?_⟩
  intro e he
  obtain hevents | ⟨c', hevents⟩ := session_of_unopened h
  · simp [hevents] at he
  · rw [hevents] at he
    rw [List.mem_singleton.mp he]
    simp

theorem run_closingError (args : List Text) (s : Surroundings) (e : Option DriverError) :
    let other := run args { s with closingError := e }
    other.exit = (run args s).exit ∧ other.output = (run args s).output ∧
      other.tree = (run args s).tree ∧ other.session = (run args s).session := by
  rcases parsed : parse args with (t | t) | a
  · rw [run, run, parsed]
    exact ⟨rfl, rfl, rfl, rfl⟩
  · rw [run, run, parsed]
    exact ⟨rfl, rfl, rfl, rfl⟩
  rw [run_of_parsed parsed, run_of_parsed parsed, perform, perform]
  cases CommandLine.settings s.environment a with
  | error f => exact ⟨rfl, rfl, rfl, rfl⟩
  | ok settings =>
  cases credentials s.environment a with
  | error message => exact ⟨rfl, rfl, rfl, rfl⟩
  | ok c =>
  simp only [Surroundings.session]
  rcases connect c settings.callTimeout s.refusal { replies := s.replies } with ⟨f | ⟨⟩, session⟩
  · cases f <;> exact ⟨rfl, rfl, rfl, rfl⟩
  · exact ⟨rfl, rfl, rfl, rfl⟩

end Programs

/-- A program closes its connection once if it has made one, after all work on it, and what it comes
to does not depend on whether the closing fails. -/
theorem connection_closed_once (args : List Text) (s : Surroundings) :
    (Made (run args s).session.events ↔ ∃ a settings c, Opened args s a settings c) ∧
      Ordered (run args s).session.events ∧
      ∀ e, let other := run args { s with closingError := e }
        other.exit = (run args s).exit ∧ other.output = (run args s).output ∧
          other.tree = (run args s).tree ∧ other.session = (run args s).session := by
  refine ⟨?_, ?_, run_closingError args s⟩
  all_goals by_cases h : ∃ a settings c, Opened args s a settings c
  · obtain ⟨a, settings, c, hopened⟩ := h
    exact iff_of_true (ordered_of_opened hopened).1 ⟨a, settings, c, hopened⟩
  · exact iff_of_false (ordered_of_unopened h).1 h
  · obtain ⟨a, settings, c, hopened⟩ := h
    exact (ordered_of_opened hopened).2
  · exact (ordered_of_unopened h).2

end MappingMarkers.Proofs.ConnectionLifetime
