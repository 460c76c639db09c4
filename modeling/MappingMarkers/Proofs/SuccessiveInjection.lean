import MappingMarkers.Proofs.RepeatedInjection

namespace MappingMarkers.Proofs.SuccessiveInjection

open Text SourceBuffer Interleaving InterleavedDeclarations OnePassInjection RepeatedInjection Lines

section Recording

variable {earlier : List Text} {b : SourceBuffer}

/-- A buffer into which other markers were put earlier. -/
def recording (earlier : List Text) (b : SourceBuffer) : SourceBuffer :=
  { b with inserted := earlier ++ b.inserted }

theorem insertAbove_recording (i : Nat) (marker : Text) :
    (recording earlier b).insertAbove i marker = recording earlier (b.insertAbove i marker) := by
  simp only [insertAbove, put?, recording]
  cases b.lines[i]? with
  | none => rfl
  | some line => simp

theorem fulfil_recording (r : Request) :
    Injection.fulfil (recording earlier b) r = recording earlier (Injection.fulfil b r) := by
  have hplace : Injection.place? (recording earlier b) r.target r.guard =
      Injection.place? b r.target r.guard := rfl
  rw [Injection.fulfil, Injection.fulfil, hplace]
  cases Injection.place? b r.target r.guard with
  | none => rfl
  | some i => exact insertAbove_recording i r.marker

theorem foldl_fulfil_recording (rs : List Request) :
    rs.foldl Injection.fulfil (recording earlier b) =
      recording earlier (rs.foldl Injection.fulfil b) := by
  induction rs generalizing b with
  | nil => rfl
  | cons r rest ih => rw [List.foldl_cons, fulfil_recording, ih, List.foldl_cons]

end Recording

section Outcome

variable {content : Text} {b : SourceBuffer}

theorem ofBuffer_of_inserted_eq_nil (h : b.inserted = []) :
    Injection.ofBuffer content b = { changed := false, text := content, inserted := [] } := by
  simp [Injection.ofBuffer, changed, h]

theorem ofBuffer_of_inserted_ne_nil (h : b.inserted ≠ []) :
    Injection.ofBuffer content b = { changed := true, text := b.text, inserted := b.inserted } := by
  simp [Injection.ofBuffer, changed, h]

theorem inserted_ofBuffer (content : Text) (b : SourceBuffer) :
    (Injection.ofBuffer content b).inserted = b.inserted := by
  by_cases h : b.inserted = []
  · rw [ofBuffer_of_inserted_eq_nil h, h]
  · rw [ofBuffer_of_inserted_ne_nil h]

theorem changed_inject (content : Text) (keys : TableKeys Text) :
    (inject content keys).changed = !(inject content keys).inserted.isEmpty := by
  rw [inject, inserted_ofBuffer, Injection.ofBuffer, changed]
  cases (keys.requests.foldl Injection.fulfil (ofText content)).inserted.isEmpty <;> rfl

end Outcome

section Turns

variable {content : Text} {keys first second both : TableKeys Text}

theorem recording_ofText_inject
    (h : ∀ marker ∈ (inject content keys).inserted, Unbroken marker) :
    recording (inject content keys).inserted (ofText (inject content keys).text) =
      keys.requests.foldl Injection.fulfil (ofText content) := by
  have hsited : Sited (splitLines content) (placedIn content keys) := sited_placements
  rw [foldl_requests, ofText, splitLines_text_inject content keys h, inserted_inject,
    index_interleave _ hsited.bracketed]
  simp only [recording, List.append_nil]
  rfl

theorem text_foldl_of_inserted_eq_nil
    (h : (keys.requests.foldl Injection.fulfil (ofText content)).inserted = []) :
    (keys.requests.foldl Injection.fulfil (ofText content)).text =
      joinLines (splitLines content) := by
  rw [foldl_requests] at h ⊢
  rw [List.map_eq_nil_iff.mp h, SourceBuffer.text, bufferOf, interleave_nil]

theorem joinLines_splitLines_text_inject (hsome : (inject content keys).inserted ≠ [])
    (h : ∀ marker ∈ (inject content keys).inserted, Unbroken marker) :
    joinLines (splitLines (inject content keys).text) = (inject content keys).text := by
  have hplaced : placedIn content keys ≠ [] := by
    rwa [inserted_inject, ne_eq, List.map_eq_nil_iff] at hsome
  rw [splitLines_text_inject content keys h, text_inject_of_ne_nil content keys hplaced]

theorem text_inject_of_inserted_eq_nil (h : (inject content keys).inserted = []) :
    (inject content keys).text = content := by
  rw [inserted_inject, List.map_eq_nil_iff] at h
  rw [(inject_eq_unchanged_iff content keys).mpr h]

/-- The second turn only adds to the buffer in which the first one ended. -/
theorem inject_eq_ofBuffer_recording (hboth : both.requests = first.requests ++ second.requests)
    (h : ∀ marker ∈ (inject content first).inserted, Unbroken marker) :
    inject content both =
      Injection.ofBuffer content (recording (inject content first).inserted
        (second.requests.foldl Injection.fulfil (ofText (inject content first).text))) := by
  rw [inject, hboth, List.foldl_append, ← recording_ofText_inject h, foldl_fulfil_recording]

theorem text_inject_eq_text_again (hboth : both.requests = first.requests ++ second.requests)
    (h : ∀ marker ∈ (inject content first).inserted, Unbroken marker) :
    (inject content both).text = (inject (inject content first).text second).text := by
  rw [inject_eq_ofBuffer_recording hboth h, inject.eq_def (inject content first).text]
  generalize hb : second.requests.foldl Injection.fulfil (ofText (inject content first).text) = b
  by_cases hmore : b.inserted = []
  · rw [ofBuffer_of_inserted_eq_nil hmore]
    by_cases hsome : (inject content first).inserted = []
    · rw [text_inject_of_inserted_eq_nil hsome, ofBuffer_of_inserted_eq_nil]
      simp [recording, hsome, hmore]
    · rw [ofBuffer_of_inserted_ne_nil (by simp [recording, hsome])]
      have htext : b.text = joinLines (splitLines (inject content first).text) := by
        rw [← hb] at hmore ⊢
        exact text_foldl_of_inserted_eq_nil hmore
      exact htext.trans (joinLines_splitLines_text_inject hsome h)
  · rw [ofBuffer_of_inserted_ne_nil hmore,
      ofBuffer_of_inserted_ne_nil (by simp [recording, hmore])]
    rfl

theorem inserted_inject_eq_append (hboth : both.requests = first.requests ++ second.requests)
    (h : ∀ marker ∈ (inject content first).inserted, Unbroken marker) :
    (inject content both).inserted =
      (inject content first).inserted ++ (inject (inject content first).text second).inserted := by
  rw [inject_eq_ofBuffer_recording hboth h, inserted_ofBuffer,
    inject.eq_def (inject content first).text, inserted_ofBuffer]
  rfl

end Turns

theorem requests_append_primary (table first second : Text) (p₁ p₂ : List Text)
    (foreign : List (ForeignKey Text)) :
    (TableKeys.mk table (p₁ ++ p₂) foreign).requests =
      (TableKeys.mk first p₁ []).requests ++ (TableKeys.mk second p₂ foreign).requests := by
  simp [TableKeys.requests]

/-- Primary keys injected in a turn of their own, before all other keys, are injected as if they
were the first ones of all. -/
theorem inject_in_turns (content table table₁ table₂ : Text) {p₁ : List Text} (p₂ : List Text)
    (foreign : List (ForeignKey Text)) (h : ∀ column ∈ p₁, Unbroken column) :
    let first := inject content { table := table₁, primary := p₁, foreign := [] }
    let second := inject first.text { table := table₂, primary := p₂, foreign }
    let both := inject content { table, primary := p₁ ++ p₂, foreign }
    both.inserted = first.inserted ++ second.inserted ∧
      both.changed = (first.changed || second.changed) ∧ both.text = second.text := by
  intro first second both
  have hboth := requests_append_primary table table₁ table₂ p₁ p₂ foreign
  have hunbroken : ∀ marker ∈ first.inserted, Unbroken marker := by
    intro marker hmarker
    refine unbroken_of_mem_inserted content _ ?_ hmarker
    simpa [keyColumns] using h
  have hinserted : both.inserted = first.inserted ++ second.inserted :=
    inserted_inject_eq_append hboth hunbroken
  refine ⟨hinserted, ?_, text_inject_eq_text_again hboth hunbroken⟩
  have hfirst : first.changed = !first.inserted.isEmpty := changed_inject _ _
  have hsecond : second.changed = !second.inserted.isEmpty := changed_inject _ _
  have hchanged : both.changed = !both.inserted.isEmpty := changed_inject _ _
  rw [hchanged, hfirst, hsecond, hinserted]
  cases first.inserted with
  | nil => rfl
  | cons marker more => rfl

theorem inject_in_turns_twoProperties :
    let content := "public int Id \x7bget;set;\x7d\r\npublic int No \x7bget;set;\x7d".toList
    let first := inject content { table := [], primary := ["ID".toList], foreign := [] }
    let second := inject first.text { table := [], primary := ["NO".toList], foreign := [] }
    let both := inject content
      { table := [], primary := ["ID".toList, "NO".toList], foreign := [] }
    (∀ column ∈ ["ID".toList], Unbroken column) ∧ first.changed = true ∧ second.changed = true ∧
      both.inserted = first.inserted ++ second.inserted ∧ both.text = second.text := by
  intro content first second both
  have hcolumns : ∀ column ∈ ["ID".toList], Unbroken column := by decide
  obtain ⟨hinserted, -, htext⟩ := inject_in_turns content [] [] [] ["NO".toList] [] hcolumns
  exact ⟨hcolumns, by decide +kernel, by decide +kernel, hinserted, htext⟩

end MappingMarkers.Proofs.SuccessiveInjection
