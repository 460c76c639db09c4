import MappingMarkers.Proofs.Lines
import MappingMarkers.Proofs.OnePassInjection
import MappingMarkers.Proofs.PascalForm

/-!
Injecting a second time into what came out. Nothing is inserted again, unless a marker has a line
end inside: such a marker is torn apart when the text is cut into lines, and not found again.
-/

namespace MappingMarkers.Proofs.RepeatedInjection

open Text AttributeLine Interleaving InterleavedDeclarations OnePassInjection Lines

/-- The columns of a table's own that belong to its keys. -/
def keyColumns (keys : TableKeys Text) : List Text :=
  keys.primary ++ keys.foreign.flatMap (·.columns)

section Pass

variable {lines : List Text} {placed : List Placement}

theorem admits_of_fewer {placed' : List Placement} {aim : Aim} (hmore : placed <+: placed')
    (h : Admits lines placed' aim) : Admits lines placed aim := by
  obtain ⟨more, rfl⟩ := hmore
  intro text htext
  refine h text ?_
  rcases List.mem_append.mp htext with hold | hmarker
  · exact List.mem_append_left _ hold
  · refine List.mem_append_right _ (mem_markersAt_iff.mpr ?_)
    exact List.mem_append_left _ (mem_markersAt_iff.mp hmarker)

theorem prefix_place (aim : Aim) : placed <+: place lines placed aim := by
  rw [place]
  split
  · exact List.prefix_append _ _
  · exact List.prefix_rfl

theorem prefix_foldl_place (aims : List Aim) : placed <+: aims.foldl (place lines) placed := by
  induction aims generalizing placed with
  | nil => exact List.prefix_rfl
  | cons aim rest ih => exact (prefix_place aim).trans ih

theorem not_admits_place {aim : Aim} (hheld : aim.guard <:+: aim.marker) :
    ¬ Admits lines (place lines placed aim) aim := by
  intro hadmits
  have hbefore := admits_of_fewer (prefix_place aim) hadmits
  rw [place, if_pos hbefore] at hadmits
  refine hadmits aim.marker (List.mem_append_right _ ?_) hheld
  exact mem_markersAt_iff.mpr (List.mem_append_right _ List.mem_cons_self)

theorem not_admits_foldl_place {aims : List Aim} (hheld : ∀ aim ∈ aims, aim.guard <:+: aim.marker)
    {aim : Aim} (haim : aim ∈ aims) : ¬ Admits lines (aims.foldl (place lines) placed) aim := by
  induction aims generalizing placed with
  | nil => simp at haim
  | cons first rest ih =>
      rw [List.foldl_cons]
      rcases List.mem_cons.mp haim with rfl | haim
      · intro hadmits
        exact not_admits_place (hheld aim List.mem_cons_self)
          (admits_of_fewer (prefix_foldl_place rest) hadmits)
      · exact ih (fun a ha => hheld a (List.mem_cons_of_mem _ ha)) haim

theorem placements_eq_nil {aims : List Aim} (h : ∀ aim ∈ aims, ¬ Admits lines [] aim) :
    placements lines aims = [] := by
  rw [placements]
  induction aims with
  | nil => rfl
  | cons aim rest ih =>
      rw [List.foldl_cons, place, if_neg (h aim List.mem_cons_self)]
      exact ih fun a ha => h a (List.mem_cons_of_mem _ ha)

theorem exists_aim_of_mem_foldl_place {aims : List Aim} {p : Placement}
    (hp : p ∈ aims.foldl (place lines) placed) :
    p ∈ placed ∨ ∃ aim ∈ aims, aim.line = p.line ∧ aim.marker = p.marker := by
  induction aims generalizing placed with
  | nil => exact Or.inl hp
  | cons aim rest ih =>
      rcases ih hp with hp | ⟨found, hfound, h⟩
      · rw [place] at hp
        split at hp
        · rcases List.mem_append.mp hp with hp | hp
          · exact Or.inl hp
          · obtain rfl := List.mem_singleton.mp hp
            exact Or.inr ⟨aim, List.mem_cons_self, rfl, rfl⟩
        · exact Or.inl hp
      · exact Or.inr ⟨found, List.mem_cons_of_mem _ hfound, h⟩

end Pass

section Aims

variable {lines : List Text} {keys : TableKeys Text}

theorem mem_aims_iff {aim : Aim} :
    aim ∈ aims lines keys ↔ ∃ r ∈ keys.requests, aim? lines r = some aim := by
  rw [aims_eq_filterMap_requests, List.mem_filterMap]

theorem held_of_mem_aims {aim : Aim} (h : aim ∈ aims lines keys) : aim.guard <:+: aim.marker := by
  obtain ⟨r, hr, haim⟩ := mem_aims_iff.mp h
  obtain ⟨i, -, rfl⟩ := Option.map_eq_some_iff.mp haim
  exact (sound_of_mem_requests hr).held

theorem sited_placements : Sited lines (placements lines (aims lines keys)) := by
  rw [aims_eq_filterMap_requests]
  exact (foldl_fulfil_bufferOf Sited.nil _ fun _ => sound_of_mem_requests).2

theorem not_admits_placements {aim : Aim} (h : aim ∈ aims lines keys) :
    ¬ Admits lines (placements lines (aims lines keys)) aim :=
  not_admits_foldl_place (fun _ => held_of_mem_aims) h

/-- The file with its markers admits none of the aims that led to them. -/
theorem placements_interleave_eq_nil :
    placements (interleave (placements lines (aims lines keys)) lines)
      (aims (interleave (placements lines (aims lines keys)) lines) keys) = [] := by
  apply placements_eq_nil
  intro aim haim hadmits
  obtain ⟨r, hr, haim⟩ := mem_aims_iff.mp haim
  rw [aim?, targetLine?_interleave sited_placements, Option.map_map] at haim
  obtain ⟨i, htarget, rfl⟩ := Option.map_eq_some_iff.mp haim
  obtain ⟨line, hline, -⟩ := plain_of_targetLine? htarget
  have hbefore : (⟨i, r.guard, r.marker⟩ : Aim) ∈ aims lines keys :=
    mem_aims_iff.mpr ⟨r, hr, by rw [aim?, htarget]; rfl⟩
  have hstill := (admits_interleave_iff sited_placements ⟨i, r.guard, r.marker⟩
    (sound_of_mem_requests hr).guard hline).mp hadmits
  exact not_admits_placements hbefore hstill

end Aims

section Markers

theorem unbroken_pascalList (names : List Text) : Unbroken (Identifier.pascalList names) := by
  have hnot : ∀ c, Identifier.isSeparator c = true → ∀ name ∈ names,
      c ∉ Identifier.pascal name := by
    intro c hsep name _ hmem
    rw [PascalForm.isSeparator_eq_false_of_mem_pascal hmem] at hsep
    contradiction
  exact ⟨PascalForm.notMem_pascalList (by decide) (hnot '\r' (by decide)),
    PascalForm.notMem_pascalList (by decide) (hnot '\n' (by decide))⟩

theorem unbroken_association (key : ForeignKey Text) : Unbroken (Marker.association key) := by
  have hthis := unbroken_pascalList key.columns
  have hother := unbroken_pascalList key.refColumns
  simp only [Marker.association]
  refine Unbroken.append (.append (.append (.append (.append ?_ ?_) hthis) ?_) hother) ?_
  all_goals decide

theorem unbroken_column {column : Text} (h : Unbroken column) :
    Unbroken (Marker.column column) := by
  have hstart : Unbroken "[Column(Name = \"".toList := by decide
  have hend : Unbroken "\")]".toList := by decide
  exact (hstart.append h).append hend

theorem request_cases {keys : TableKeys Text} {r : Request} (hr : r ∈ keys.requests) :
    (∃ column ∈ keyColumns keys, r = Request.ofColumn column Marker.primaryKey ∨
      r = Request.ofColumn column (Marker.column column)) ∨
    ∃ key ∈ keys.foreign, r.guard = Marker.associationStart ∧
      r.marker = Marker.association key := by
  simp only [TableKeys.requests, List.mem_append, List.mem_flatMap] at hr
  simp only [keyColumns, List.mem_append, List.mem_flatMap]
  rcases hr with (⟨column, hmem, hr⟩ | ⟨key, hmem, hr⟩) | ⟨key, hmem, hr⟩
  · simp only [Request.ofPrimary, List.mem_cons, List.not_mem_nil, or_false] at hr
    exact Or.inl ⟨column, Or.inl hmem, hr⟩
  · obtain ⟨column, hcolumn, rfl⟩ := List.mem_map.mp hr
    exact Or.inl ⟨column, Or.inr ⟨key, hmem, hcolumn⟩, Or.inr rfl⟩
  · simp only [Request.ofForeignKey] at hr
    split at hr
    · simp at hr
    · obtain rfl := List.mem_singleton.mp hr
      exact Or.inr ⟨key, hmem, rfl, rfl⟩

theorem exists_column_of_broken {keys : TableKeys Text} {r : Request} (hr : r ∈ keys.requests)
    (hbroken : ¬ Unbroken r.marker) :
    ∃ column ∈ keyColumns keys, ¬ Unbroken column ∧
      r = Request.ofColumn column (Marker.column column) := by
  obtain ⟨column, hmem, rfl | rfl⟩ | ⟨key, -, -, hmarker⟩ := request_cases hr
  · exact absurd (show Unbroken Marker.primaryKey by decide) hbroken
  · exact ⟨column, hmem, fun hunbroken => hbroken (unbroken_column hunbroken), rfl⟩
  · rw [hmarker] at hbroken
    exact absurd (unbroken_association key) hbroken

end Markers

section Outcome

variable (content : Text) (keys : TableKeys Text)

def placedIn : List Placement :=
  placements (splitLines content) (aims (splitLines content) keys)

theorem inject_eq_ofBuffer :
    inject content keys =
      Injection.ofBuffer content (bufferOf (splitLines content) (placedIn content keys)) := by
  rw [inject, foldl_requests]
  rfl

theorem inserted_inject :
    (inject content keys).inserted = (placedIn content keys).map (·.marker) := by
  rw [inject_eq_ofBuffer, ofBuffer_bufferOf]
  split
  · rename_i hnone
    rw [List.isEmpty_iff.mp hnone]
    rfl
  · rfl

theorem text_inject_of_ne_nil (h : placedIn content keys ≠ []) :
    (inject content keys).text =
      joinLines (interleave (placedIn content keys) (splitLines content)) := by
  simp [inject_eq_ofBuffer, ofBuffer_bufferOf, h]

theorem inject_eq_unchanged_iff :
    inject content keys = { changed := false, text := content, inserted := [] } ↔
      placedIn content keys = [] := by
  constructor
  · intro h
    have hinserted := inserted_inject content keys
    rw [h] at hinserted
    exact List.map_eq_nil_iff.mp hinserted.symm
  · intro h
    simp [inject_eq_ofBuffer, ofBuffer_bufferOf, h]

theorem exists_request_of_mem_placedIn {p : Placement} (hp : p ∈ placedIn content keys) :
    ∃ r ∈ keys.requests, r.marker = p.marker ∧
      ∃ i, targetLine? (splitLines content) r.target = some i := by
  obtain ⟨aim, haim, -, hmarker⟩ :=
    (exists_aim_of_mem_foldl_place hp).resolve_left List.not_mem_nil
  obtain ⟨r, hr, haim⟩ := mem_aims_iff.mp haim
  obtain ⟨i, htarget, rfl⟩ := Option.map_eq_some_iff.mp haim
  exact ⟨r, hr, hmarker, i, htarget⟩

theorem unbroken_of_mem_interleave
    (h : ∀ marker ∈ (inject content keys).inserted, Unbroken marker) {line : Text}
    (hline : line ∈ interleave (placedIn content keys) (splitLines content)) : Unbroken line := by
  rcases mem_interleave hline with hline | ⟨target, htarget, p, hp, rfl⟩
  · exact unbroken_of_mem_splitLines hline
  · have hindent := (unbroken_of_mem_splitLines htarget).of_subset (indent_subset target)
    rw [inserted_inject] at h
    exact hindent.append (h p.marker (List.mem_map_of_mem hp))

theorem splitLines_text_inject
    (h : ∀ marker ∈ (inject content keys).inserted, Unbroken marker) :
    splitLines (inject content keys).text =
      interleave (placedIn content keys) (splitLines content) := by
  by_cases hnone : placedIn content keys = []
  · rw [(inject_eq_unchanged_iff content keys).mpr hnone, hnone, interleave_nil]
  · rw [text_inject_of_ne_nil content keys hnone]
    exact splitLines_joinLines (interleave_ne_nil (splitLines_ne_nil content)) fun _ =>
      unbroken_of_mem_interleave content keys h

theorem placedIn_again_eq_nil
    (h : ∀ marker ∈ (inject content keys).inserted, Unbroken marker) :
    placedIn (inject content keys).text keys = [] := by
  rw [placedIn, splitLines_text_inject content keys h]
  exact placements_interleave_eq_nil

theorem attributesAbove_subset (lines : List Text) (i : Nat) : attributesAbove lines i ⊆ lines :=
  fun _ h => List.mem_of_mem_take ((List.rtakeWhile_suffix _ _).subset h)

theorem exists_aim_of_line {lines lines' : List Text} {column marker : Text} {i : Nat} {line : Text}
    (htarget : targetLine? lines (.property (Identifier.pascal column)) = some i)
    (hline : lines[i]? = some line) (hmem : line ∈ lines') :
    ∃ j, aim? lines' (Request.ofColumn column marker) = some ⟨j, marker, marker⟩ := by
  obtain ⟨found, name, hfound, hname, hlower⟩ :=
    mem_index_iff.mp (mem_of_lookup_eq_some htarget)
  obtain rfl : line = found := by rwa [hline, Option.some.injEq] at hfound
  obtain ⟨j, hj⟩ := List.mem_iff_getElem?.mp hmem
  have hindex : (lower (Identifier.pascal column), j) ∈ Declaration.index lines' :=
    mem_index_iff.mpr ⟨line, name, hj, hname, hlower⟩
  cases hlookup : (Declaration.index lines').lookup (lower (Identifier.pascal column)) with
  | none =>
      have hnot := List.lookup_eq_none_iff.mp hlookup _ hindex
      simp at hnot
  | some k => exact ⟨k, by simp [aim?, Request.ofColumn, targetLine?, hlookup]⟩

theorem placedIn_again_ne_nil {p : Placement} (hp : p ∈ placedIn content keys)
    (hbroken : ¬ Unbroken p.marker) : placedIn (inject content keys).text keys ≠ [] := by
  intro hnone
  obtain ⟨r, hr, hmarker, i, htarget⟩ := exists_request_of_mem_placedIn content keys hp
  obtain ⟨line, hline, -⟩ := plain_of_targetLine? htarget
  rw [← hmarker] at hbroken
  obtain ⟨column, -, -, rfl⟩ := exists_column_of_broken hr hbroken
  have hstill : line ∈ splitLines (inject content keys).text := by
    rw [text_inject_of_ne_nil content keys (List.ne_nil_of_mem hp)]
    exact mem_splitLines_joinLines (List.mem_of_getElem? (getElem?_interleave _ hline))
      (unbroken_of_mem_splitLines (List.mem_of_getElem? hline))
  obtain ⟨j, hj⟩ := exists_aim_of_line htarget hline hstill
  -- Without an insertion some line holds the marker, and a line has no line end inside.
  have hrefused := not_admits_placements (mem_aims_iff.mpr ⟨_, hr, hj⟩)
  rw [placedIn] at hnone
  rw [hnone] at hrefused
  simp only [Admits, markersAt, List.filter_nil, List.map_nil, List.append_nil, not_forall,
    not_not] at hrefused
  obtain ⟨text, htext, hheld⟩ := hrefused
  have hunbroken := unbroken_of_mem_splitLines (attributesAbove_subset _ _ htext)
  exact hbroken (hunbroken.of_subset hheld.subset)

theorem unbroken_of_mem_inserted (h : ∀ column ∈ keyColumns keys, Unbroken column)
    {marker : Text} (hmarker : marker ∈ (inject content keys).inserted) : Unbroken marker := by
  by_contra hbroken
  rw [inserted_inject] at hmarker
  obtain ⟨p, hp, rfl⟩ := List.mem_map.mp hmarker
  obtain ⟨r, hr, hmarker, -⟩ := exists_request_of_mem_placedIn content keys hp
  rw [← hmarker] at hbroken
  obtain ⟨column, hcolumn, hbroken, -⟩ := exists_column_of_broken hr hbroken
  exact hbroken (h column hcolumn)

end Outcome

/-- A second injection inserts nothing just when no marker of the first has a line end inside, and
so whenever no key column has one. -/
theorem inject_twice (content : Text) (keys : TableKeys Text) :
    (inject (inject content keys).text keys =
        { changed := false, text := (inject content keys).text, inserted := [] } ↔
      ∀ marker ∈ (inject content keys).inserted, Unbroken marker) ∧
    ((∀ column ∈ keyColumns keys, Unbroken column) →
      inject (inject content keys).text keys =
        { changed := false, text := (inject content keys).text, inserted := [] }) := by
  simp only [inject_eq_unchanged_iff]
  constructor
  · constructor
    · intro hnone marker hmarker
      by_contra hbroken
      rw [inserted_inject] at hmarker
      obtain ⟨p, hp, rfl⟩ := List.mem_map.mp hmarker
      exact placedIn_again_ne_nil content keys hp hbroken hnone
    · exact placedIn_again_eq_nil content keys
  · intro hcolumns
    apply placedIn_again_eq_nil content keys
    intro marker hmarker
    exact unbroken_of_mem_inserted content keys hcolumns hmarker

theorem inject_twice_oneProperty :
    let content := "public int Id \x7b get; set; \x7d\r\n".toList
    let keys : TableKeys Text := { table := ['T'], primary := ["ID".toList], foreign := [] }
    (inject content keys).changed = true ∧
      (∀ column ∈ keyColumns keys, Unbroken column) ∧
      inject (inject content keys).text keys =
        { changed := false, text := (inject content keys).text, inserted := [] } := by
  intro content keys
  exact ⟨by decide +kernel, by decide, (inject_twice content keys).2 (by decide)⟩

end MappingMarkers.Proofs.RepeatedInjection
