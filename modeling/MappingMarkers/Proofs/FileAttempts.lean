import MappingMarkers.Proofs.SessionWork
import MappingMarkers.Proofs.SourceListing
import MappingMarkers.Run

namespace MappingMarkers.Proofs.FileAttempts

open Text Files Catalog TreeCopies SessionWork

section Attempts

/-- The fault that is reported when a copy cannot be opened. -/
def writeFault (copy : Path) : AccessError → Fault
  | .nul => .access .nul
  | e =>
      .failure (.write ("Failed to write annotated copy: ".toList ++ e.message) (some copy.text))

/-- What is found out about a file from what reading it gives, before anything is written. -/
def appraise (s : Settings) (schema : Text) (path : Path)
    (reading : Except AccessError (List UInt8)) (session : Session) :
    Run.Examination × Session :=
  match reading with
  | .error e => (.failed none (.access e), session)
  | .ok bytes =>
      match Utf8.decodeFile bytes with
      | .error e => (.failed none (.decoding e), session)
      | .ok content =>
          match Attribute.tableName? content with
          | none => (.noTable, session)
          | some table =>
              match loadKeys schema table session with
              | (.error f, session) => (.failed (some table) f, session)
              | (.ok keys, session) =>
                  match (injectKeys content keys).1 with
                  | .error f => (.failed (some table) f, session)
                  | .ok injection =>
                      if injection.changed then
                        match s.outputPath path with
                        | .error e => (.failed (some table) (.name e), session)
                        | .ok copy => (.ready table copy injection, session)
                      else (.unchanged table, session)

/-- The report about a file, and the copy that is written with its text. -/
def conclude (s : Settings) (path : Path) (refusal : Option AccessError) :
    Run.Examination → FileReport × Option (Path × Text)
  | .noTable => ({ path, table := none, outcome := .noTable }, none)
  | .failed table f => ({ path, table, outcome := .failed f }, none)
  | .unchanged table => ({ path, table := some table, outcome := .unchanged }, none)
  | .ready table copy injection =>
      if s.dryRun then ({ path, table := some table, outcome := .dryRun copy }, none)
      else
        match refusal with
        | some e =>
            ({ path, table := some table, outcome := .failed (writeFault copy e) }, none)
        | none =>
            ({ path, table := some table, outcome := .written copy },
              some (copy, injection.text))

/-- What a run does with one file. -/
structure Attempt where
  report : FileReport
  /-- The copy that is written, and its text. -/
  written : Option (Path × Text)
  /-- The replies that are left, and what has happened for this file. -/
  session : Session

/-- The attempt at one file, from what reading it gives, from whether its copy can be opened, and
from the replies that are left. -/
def attempt (s : Settings) (schema : Text) (path : Path)
    (reading : Except AccessError (List UInt8)) (refusal : Option AccessError)
    (replies : List Reply) : Attempt :=
  let (examination, session) := appraise s schema path reading { replies }
  let (report, written) := conclude s path refusal examination
  { report, written, session }

/-- Why the copy of a file cannot be opened. -/
def copyRefusal? (s : Settings) (t : Tree) (path : Path) : Option AccessError :=
  (s.outputPath path).toOption.bind fun copy => refusal? t copy.text

/-- The attempts at files, one after the other, and the replies that are left. -/
def attempts (s : Settings) (schema : Text) (t : Tree) :
    List Path → List Reply → List Attempt × List Reply
  | [], replies => ([], replies)
  | path :: paths, replies =>
      let a := attempt s schema path (t.read path.text) (copyRefusal? s t path) replies
      let (others, replies) := attempts s schema t paths a.session.replies
      (a :: others, replies)

/-- The names under which an attempt writes, with the text. -/
def Attempt.placed? (t : Tree) (a : Attempt) : Option (List Text × Text) :=
  a.written.bind fun (copy, text) => (leadsTo? t copy.text).map (·, text)

variable (s : Settings) (schema : Text) (path : Path)

/-- What is found out about a mapped file from the keys of its table. -/
def weigh (table content : Text) : Except Fault (TableKeys Cell) → Run.Examination
  | .error f => .failed (some table) f
  | .ok keys =>
      match (injectKeys content keys).1 with
      | .error f => .failed (some table) f
      | .ok injection =>
          if injection.changed then
            match s.outputPath path with
            | .error e => .failed (some table) (.name e)
            | .ok copy => .ready table copy injection
          else .unchanged table

theorem appraise_cases (reading : Except AccessError (List UInt8)) :
    (∃ examination, (∀ session, appraise s schema path reading session = (examination, session)) ∧
      ∀ table copy injection, examination ≠ .ready table copy injection) ∨
    ∃ table content, ∀ session, appraise s schema path reading session =
      (weigh s path table content (loadKeys schema table session).1,
        (loadKeys schema table session).2) := by
  cases reading with
  | error e => exact Or.inl ⟨_, fun _ => rfl, by simp⟩
  | ok bytes =>
      cases hcontent : Utf8.decodeFile bytes with
      | error e => exact Or.inl ⟨.failed none (.decoding e), by simp [appraise, hcontent], by simp⟩
      | ok content =>
          cases htable : Attribute.tableName? content with
          | none => exact Or.inl ⟨.noTable, by simp [appraise, hcontent, htable], by simp⟩
          | some table =>
              refine Or.inr ⟨table, content, fun session => ?_⟩
              simp only [appraise, hcontent, htable]
              cases loadKeys schema table session with
              | mk outcome after =>
                  cases outcome with
                  | error f => rfl
                  | ok keys =>
                      simp only [weigh]
                      cases (injectKeys content keys).1 with
                      | error f => rfl
                      | ok injection =>
                          simp only
                          split_ifs
                          · cases s.outputPath path with
                            | error e => rfl
                            | ok copy => rfl
                          · rfl

theorem forgetful_appraise (reading : Except AccessError (List UInt8)) :
    Forgetful (appraise s schema path reading) := by
  intro earlier session
  obtain ⟨examination, h, -⟩ | ⟨table, content, h⟩ := appraise_cases s schema path reading
  · rw [h, h]
  · rw [h, h, forgetful_loadKeys]

theorem examine_eq (w : Workspace) :
    (Run.examine s schema path w).1 =
        (appraise s schema path (w.tree.read path.text) w.session).1 ∧
      (Run.examine s schema path w).2.tree = w.tree ∧
      (Run.examine s schema path w).2.session =
        (appraise s schema path (w.tree.read path.text) w.session).2 := by
  rw [Run.examine, appraise.eq_def, readSource]
  cases w.tree.read path.text with
  | error e => exact ⟨rfl, rfl, rfl⟩
  | ok bytes =>
      simp only [Except.mapError, bind, Except.bind]
      cases Utf8.decodeFile bytes with
      | error e => exact ⟨rfl, rfl, rfl⟩
      | ok content =>
          simp only
          cases Attribute.tableName? content with
          | none => exact ⟨rfl, rfl, rfl⟩
          | some table =>
              simp only
              cases loadKeys schema table w.session with
              | mk outcome after =>
                  cases outcome with
                  | error f => exact ⟨rfl, rfl, rfl⟩
                  | ok keys =>
                      simp only
                      cases injectKeys content keys with
                      | mk injected log =>
                          cases injected with
                          | error f => exact ⟨rfl, rfl, rfl⟩
                          | ok injection =>
                              simp only
                              split_ifs
                              · cases s.outputPath path with
                                | error e => exact ⟨rfl, rfl, rfl⟩
                                | ok copy => exact ⟨rfl, rfl, rfl⟩
                              · exact ⟨rfl, rfl, rfl⟩

variable {s schema path}

theorem outputPath_of_weigh {table mapped content : Text} {loaded : Except Fault (TableKeys Cell)}
    {copy : Path} {injection : Injection}
    (h : weigh s path mapped content loaded = .ready table copy injection) :
    s.outputPath path = .ok copy := by
  cases loaded with
  | error f => simp [weigh] at h
  | ok keys =>
      rw [weigh] at h
      cases hinjection : (injectKeys content keys).1 with
      | error f => simp [hinjection] at h
      | ok injected =>
          simp only [hinjection] at h
          split_ifs at h
          cases hcopy : s.outputPath path with
          | error e => simp [hcopy] at h
          | ok other =>
              simp only [hcopy, Run.Examination.ready.injEq] at h
              rw [h.2.1]

theorem outputPath_of_ready {reading : Except AccessError (List UInt8)} {session : Session}
    {table : Text} {copy : Path} {injection : Injection}
    (h : (appraise s schema path reading session).1 = .ready table copy injection) :
    s.outputPath path = .ok copy := by
  obtain ⟨examination, heq, hnever⟩ | ⟨mapped, content, heq⟩ :=
    appraise_cases s schema path reading
  · rw [heq] at h
    exact absurd h (hnever table copy injection)
  · rw [heq] at h
    exact outputPath_of_weigh h

theorem writeCopy_of_refusal {t : Tree} {copy : Path} {e : AccessError} (text : Text)
    (hcopy : s.outputPath path = .ok copy) (h : refusal? t copy.text = some e) :
    writeCopy t path text s = .error (writeFault copy e) := by
  rw [writeCopy, hcopy]
  simp only [Except.mapError, bind, Except.bind, write_of_refusal _ h]
  cases e with
  | nul => rfl
  | system code p => rfl

theorem writeCopy_of_write {t t' : Tree} {copy : Path} {text : Text}
    (hcopy : s.outputPath path = .ok copy) (h : t.write copy.text (Utf8.encode text) = .ok t') :
    writeCopy t path text s = .ok (copy, t') := by
  rw [writeCopy, hcopy]
  simp only [Except.mapError, bind, Except.bind, h]
  rfl

variable (s schema path)

/-- A run does with a file what the attempt at it tells. -/
theorem annotateFile_eq_attempt (w : Workspace) :
    let a := attempt s schema path (w.tree.read path.text) (copyRefusal? s w.tree path)
      w.session.replies
    (Run.annotateFile s schema path w).1 = a.report ∧
      (Run.annotateFile s schema path w).2.tree = copied w.tree (a.placed? w.tree).toList ∧
      (Run.annotateFile s schema path w).2.session = since w.session.events a.session := by
  intro a
  have hsession : since w.session.events { replies := w.session.replies } = w.session := by
    simp [since]
  have hforget := forgetful_appraise s schema path
    (w.tree.read path.text) w.session.events { replies := w.session.replies }
  rw [hsession] at hforget
  obtain ⟨hfirst, htree, hafter⟩ := examine_eq s schema path w
  rw [hforget] at hfirst hafter
  simp only [Run.annotateFile, a, attempt]
  cases hexamine : Run.examine s schema path w with
  | mk examination w' =>
      cases happraise : appraise s schema path (w.tree.read path.text)
          { replies := w.session.replies } with
      | mk examination' session =>
          rw [hexamine, happraise] at hfirst hafter
          rw [hexamine] at htree
          simp only at hfirst htree hafter
          subst hfirst
          cases examination with
          | noTable => exact ⟨rfl, htree, hafter⟩
          | failed table f => exact ⟨rfl, htree, hafter⟩
          | unchanged table => exact ⟨rfl, htree, hafter⟩
          | ready table copy injection =>
              have hcopy : s.outputPath path = .ok copy :=
                outputPath_of_ready (by rw [happraise])
              have hrefusal : copyRefusal? s w.tree path = refusal? w.tree copy.text := by
                rw [copyRefusal?, hcopy]
                rfl
              simp only [conclude, hrefusal]
              by_cases hdry : s.dryRun = true
              · rw [if_pos hdry, if_pos hdry]
                exact ⟨rfl, htree, hafter⟩
              · rw [if_neg hdry, if_neg hdry]
                cases hopen : refusal? w.tree copy.text with
                | some e =>
                    rw [htree, writeCopy_of_refusal _ hcopy hopen]
                    exact ⟨rfl, htree, hafter⟩
                | none =>
                    obtain ⟨names, hnames, hwrite⟩ := exists_write hopen
                    rw [htree, writeCopy_of_write hcopy (hwrite _)]
                    refine ⟨rfl, ?_, hafter⟩
                    simp [Attempt.placed?, hnames, copied, Workspace.note]

section Written

variable {s schema path}

variable {reading : Except AccessError (List UInt8)} {refusal : Option AccessError}
  {replies : List Reply}

theorem path_attempt : (attempt s schema path reading refusal replies).report.path = path := by
  simp only [attempt]
  cases (appraise s schema path reading { replies }).1 with
  | noTable => rfl
  | failed table f => rfl
  | unchanged table => rfl
  | ready table copy injection =>
      simp only [conclude]
      split_ifs
      · rfl
      · cases refusal with
        | none => rfl
        | some e => rfl

theorem table_attempt {bytes : List UInt8} {content : Text}
    (h : Utf8.decodeFile bytes = .ok content) :
    (attempt s schema path (.ok bytes) refusal replies).report.table =
      Attribute.tableName? content := by
  simp only [attempt, appraise, h]
  cases Attribute.tableName? content with
  | none => rfl
  | some table =>
      simp only
      cases loadKeys schema table { replies } with
      | mk outcome after =>
          cases outcome with
          | error f => rfl
          | ok keys =>
              simp only
              cases (injectKeys content keys).1 with
              | error f => rfl
              | ok injection =>
                  simp only
                  split_ifs
                  · cases s.outputPath path with
                    | error e => rfl
                    | ok copy =>
                        simp only [conclude]
                        split_ifs
                        · rfl
                        · cases refusal with
                          | none => rfl
                          | some e => rfl
                  · rfl

theorem written_attempt {copy : Path} {text : Text}
    (h : (attempt s schema path reading refusal replies).written = some (copy, text)) :
    s.outputPath path = .ok copy ∧ refusal = none := by
  simp only [attempt] at h
  cases happraise : (appraise s schema path reading { replies }).1 with
  | noTable => simp [happraise, conclude] at h
  | failed table f => simp [happraise, conclude] at h
  | unchanged table => simp [happraise, conclude] at h
  | ready table other injection =>
      simp only [happraise, conclude] at h
      split_ifs at h
      cases refusal with
      | some e => simp at h
      | none =>
          simp only [Option.some.injEq, Prod.mk.injEq] at h
          exact ⟨h.1 ▸ outputPath_of_ready happraise, rfl⟩

theorem outcome_attempt_eq_written_iff {copy : Path} :
    (attempt s schema path reading refusal replies).report.outcome = .written copy ↔
      ∃ text, (attempt s schema path reading refusal replies).written = some (copy, text) := by
  simp only [attempt]
  cases (appraise s schema path reading { replies }).1 with
  | noTable => simp [conclude]
  | failed table f => simp [conclude]
  | unchanged table => simp [conclude]
  | ready table other injection =>
      simp only [conclude]
      split_ifs
      · simp
      · cases refusal with
        | none => simp
        | some e => simp

end Written

end Attempts

end MappingMarkers.Proofs.FileAttempts
