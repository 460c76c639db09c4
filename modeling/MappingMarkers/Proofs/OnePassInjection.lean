import MappingMarkers.Injection
import MappingMarkers.Proofs.InterleavedDeclarations

/-!
Injection told without a buffer that changes. What the keys ask for is aimed at lines of the file as
it was; one pass over the aims decides which markers are put above which lines, and only then the
text is made. Working marker by marker on the changing buffer comes to the same.
-/

namespace MappingMarkers.Proofs.OnePassInjection

open Text SourceBuffer AttributeLine Interleaving InterleavedDeclarations

/-- A marker to be put above a line of the file as it was, unless the guard stands there. -/
structure Aim where
  line : Nat
  guard : Text
  marker : Text
  deriving DecidableEq

/-- A marker that is its own guard, above the property of a column if there is one. -/
def columnAim (lines : List Text) (column marker : Text) : List Aim :=
  (((Declaration.index lines).lookup (lower (Identifier.pascal column))).map fun line =>
    { line, guard := marker, marker }).toList

/-- The association of a foreign key, above its navigation property if there is one. -/
def associationAim (lines : List Text) (key : ForeignKey Text) : List Aim :=
  ((Declaration.navigation? lines key.refTable).map fun line =>
    { line, guard := Marker.associationStart, marker := Marker.association key }).toList

/-- What the keys of a table ask for above the lines of a file, in order. -/
def aims (lines : List Text) (keys : TableKeys Text) : List Aim :=
  (keys.primary.flatMap fun column =>
      columnAim lines column Marker.primaryKey ++
        columnAim lines column (Marker.column column)) ++
    (keys.foreign.flatMap fun key =>
      key.columns.flatMap fun column => columnAim lines column (Marker.column column)) ++
    (keys.foreign.filter (!·.pairs.isEmpty)).flatMap (associationAim lines)

/-- The guard stands in no attribute line right above the line, and in no marker put there. -/
def Admits (lines : List Text) (placed : List Placement) (aim : Aim) : Prop :=
  ∀ text ∈ attributesAbove lines aim.line ++ markersAt placed aim.line, ¬ aim.guard <:+: text

instance (lines : List Text) (placed : List Placement) (aim : Aim) :
    Decidable (Admits lines placed aim) :=
  inferInstanceAs (Decidable (∀ text ∈ _, _))

/-- The markers that are put in when one more aim is looked at. -/
def place (lines : List Text) (placed : List Placement) (aim : Aim) : List Placement :=
  if Admits lines placed aim then placed ++ [⟨aim.line, aim.marker⟩] else placed

/-- The markers that are put in, in the order of the aims. -/
def placements (lines : List Text) (aims : List Aim) : List Placement :=
  aims.foldl (place lines) []

def onePass (content : Text) (keys : TableKeys Text) : Injection :=
  let lines := splitLines content
  let placed := placements lines (aims lines keys)
  if placed.isEmpty then { changed := false, text := content, inserted := [] }
  else
    { changed := true, text := joinLines (interleave placed lines),
      inserted := placed.map (·.marker) }

def targetLine? (lines : List Text) : Target → Option Nat
  | .property name => (Declaration.index lines).lookup (lower name)
  | .navigation _ refTable => Declaration.navigation? lines refTable

def aim? (lines : List Text) (r : Request) : Option Aim :=
  (targetLine? lines r.target).map fun line => { line, guard := r.guard, marker := r.marker }

/-- The buffer of a file in which these markers were put. -/
def bufferOf (lines : List Text) (placed : List Placement) : SourceBuffer :=
  { lines := interleave placed lines
    properties := (Declaration.index lines).map fun e => (e.1, position placed e.2)
    inserted := placed.map (·.marker) }

/-- Guard and marker begin with a bracket, and the marker holds its guard. -/
structure Sound (r : Request) : Prop where
  guard : Bracketed r.guard
  marker : Bracketed r.marker
  held : r.guard <:+: r.marker

theorem sound_ofColumn {column marker : Text} (h : Bracketed marker) :
    Sound (Request.ofColumn column marker) :=
  ⟨h, h, List.infix_rfl⟩

theorem bracketed_column (column : Text) : Bracketed (Marker.column column) := rfl

theorem association_starts (key : ForeignKey Text) :
    Marker.associationStart <+: Marker.association key := by
  simp only [Marker.association, List.append_assoc]
  exact List.prefix_append _ _

theorem bracketed_association (key : ForeignKey Text) : Bracketed (Marker.association key) := rfl

theorem sound_of_mem_requests {keys : TableKeys Text} {r : Request} (h : r ∈ keys.requests) :
    Sound r := by
  simp only [TableKeys.requests, List.mem_append, List.mem_flatMap] at h
  rcases h with (⟨column, -, hr⟩ | ⟨key, -, hr⟩) | ⟨key, -, hr⟩
  · simp only [Request.ofPrimary, List.mem_cons, List.not_mem_nil, or_false] at hr
    rcases hr with rfl | rfl
    · exact sound_ofColumn rfl
    · exact sound_ofColumn (bracketed_column column)
  · obtain ⟨column, -, rfl⟩ := List.mem_map.mp hr
    exact sound_ofColumn (bracketed_column column)
  · simp only [Request.ofForeignKey] at hr
    split at hr
    · simp at hr
    · obtain rfl := List.mem_singleton.mp hr
      exact ⟨rfl, bracketed_association key, (association_starts key).isInfix⟩

theorem filterMap_aim?_ofPrimary (lines : List Text) (column : Text) :
    (Request.ofPrimary column).filterMap (aim? lines) =
      columnAim lines column Marker.primaryKey ++
        columnAim lines column (Marker.column column) := by
  rw [List.filterMap_eq_flatMap_toList]
  simp only [Request.ofPrimary, List.flatMap_cons, List.flatMap_nil, List.append_nil]
  rfl

theorem filterMap_aim?_ofForeignKey (lines : List Text) (key : ForeignKey Text) :
    (Request.ofForeignKey key).filterMap (aim? lines) =
      if key.pairs.isEmpty then [] else associationAim lines key := by
  rw [List.filterMap_eq_flatMap_toList, Request.ofForeignKey]
  split
  · rfl
  · simp only [List.flatMap_cons, List.flatMap_nil, List.append_nil]
    rfl

theorem aims_eq_filterMap_requests (lines : List Text) (keys : TableKeys Text) :
    aims lines keys = keys.requests.filterMap (aim? lines) := by
  have hcolumns (columns : List Text) :
      (columns.map Request.ofForeignColumn).filterMap (aim? lines) =
        columns.flatMap fun column => columnAim lines column (Marker.column column) := by
    rw [List.filterMap_map, List.filterMap_eq_flatMap_toList]
    rfl
  have hkeys : (keys.foreign.filter (!·.pairs.isEmpty)).flatMap (associationAim lines) =
      keys.foreign.flatMap fun key =>
        if key.pairs.isEmpty then [] else associationAim lines key := by
    induction keys.foreign with
    | nil => rfl
    | cons key rest ih =>
        rw [List.flatMap_cons, ← ih]
        by_cases h : key.pairs.isEmpty = true <;> simp [h]
  simp only [aims, TableKeys.requests, List.filterMap_append, List.filterMap_flatMap,
    filterMap_aim?_ofPrimary, filterMap_aim?_ofForeignKey, hcolumns, hkeys]

section Step

variable {lines : List Text} {placed : List Placement}

theorem mem_of_lookup_eq_some {α β : Type} [BEq α] [LawfulBEq α] {l : List (α × β)} {a : α}
    {b : β} (h : l.lookup a = some b) : (a, b) ∈ l := by
  obtain ⟨front, back, rfl, -⟩ := List.lookup_eq_some_iff.mp h
  simp

theorem plain_of_targetLine? {target : Target} {i : Nat} (h : targetLine? lines target = some i) :
    ∃ line, lines[i]? = some line ∧ opensAttribute line = false := by
  cases target with
  | property name =>
      obtain ⟨line, found, hline, hfound, -⟩ := mem_index_iff.mp (mem_of_lookup_eq_some h)
      refine ⟨line, hline, Bool.eq_false_iff.mpr fun hopens => ?_⟩
      rw [property?_eq_none_of_opensAttribute hopens] at hfound
      contradiction
  | navigation key refTable =>
      simp only [targetLine?, Declaration.navigation?] at h
      split at h
      · contradiction
      · obtain ⟨hi, hnavigation, -⟩ := List.findIdx?_eq_some_iff_getElem.mp h
        refine ⟨lines[i], List.getElem?_eq_getElem hi, Bool.eq_false_iff.mpr fun hopens => ?_⟩
        rw [isNavigation_eq_false_of_opensAttribute hopens] at hnavigation
        contradiction

theorem targetLine?_interleave (hsited : Sited lines placed) (target : Target) :
    targetLine? (interleave placed lines) target =
      (targetLine? lines target).map (position placed) := by
  cases target with
  | property name =>
      rw [targetLine?, index_interleave lines hsited.bracketed]
      exact lookup_map_snd _ _ _
  | navigation key refTable => exact navigation?_interleave lines hsited.bracketed refTable

theorem admits_interleave_iff (hsited : Sited lines placed) (aim : Aim) {line : Text}
    (hguard : Bracketed aim.guard) (hline : lines[aim.line]? = some line) :
    Admits (interleave placed lines) [] { aim with line := position placed aim.line } ↔
      Admits lines placed aim := by
  have hindent (marker : Text) :
      aim.guard <:+: indent line ++ marker ↔ aim.guard <:+: marker :=
    infix_indented_iff hguard fun _ => isBlank_of_mem_indent
  simp only [Admits, hsited.attributesAbove_interleave hline, List.forall_mem_append,
    List.forall_mem_map, hindent, markersAt, List.filter_nil, List.map_nil,
    List.not_mem_nil, false_implies, implies_true, and_true]

theorem hasMarkerAbove_iff (b : SourceBuffer) (aim : Aim) :
    b.hasMarkerAbove aim.line aim.guard = true ↔ ¬ Admits b.lines [] aim := by
  rw [hasMarkerAbove, attributeBlock_eq_reverse, List.any_reverse, List.any_eq_true]
  simp [Admits, occursIn_iff_infix, markersAt]

theorem line?_bufferOf (hsited : Sited lines placed) (target : Target) :
    Injection.line? (bufferOf lines placed) target =
      (targetLine? lines target).map (position placed) := by
  cases target with
  | property name => exact lookup_map_snd _ _ _
  | navigation key refTable => exact navigation?_interleave lines hsited.bracketed refTable

theorem hasMarkerAbove_bufferOf (hsited : Sited lines placed) (aim : Aim) {line : Text}
    (hguard : Bracketed aim.guard) (hline : lines[aim.line]? = some line) :
    (bufferOf lines placed).hasMarkerAbove (position placed aim.line) aim.guard = true ↔
      ¬ Admits lines placed aim := by
  have hheld := hasMarkerAbove_iff (bufferOf lines placed)
    { aim with line := position placed aim.line }
  exact hheld.trans (not_congr (admits_interleave_iff hsited aim hguard hline))

theorem insertAbove_bufferOf {i : Nat} {line : Text} (hline : lines[i]? = some line)
    (marker : Text) :
    (bufferOf lines placed).insertAbove (position placed i) marker =
      bufferOf lines (placed ++ [⟨i, marker⟩]) := by
  have htarget : (bufferOf lines placed).lines[position placed i]? = some line :=
    getElem?_interleave placed hline
  rw [insertAbove, put?, htarget]
  simp only [Option.map_some, Option.getD_some, bufferOf, SourceBuffer.mk.injEq]
  refine ⟨insertIdx_interleave placed hline marker, ?_, by simp⟩
  rw [List.map_map]
  apply List.map_congr_left
  intro e _
  rw [position_concat]
  rfl

/-- Fulfilling a request in the buffer is looking at its aim. -/
theorem fulfil_bufferOf (hsited : Sited lines placed) {r : Request} (hr : Sound r) :
    Injection.fulfil (bufferOf lines placed) r =
      bufferOf lines ((aim? lines r).elim placed (place lines placed)) := by
  have hline? := line?_bufferOf hsited r.target
  cases htarget : targetLine? lines r.target with
  | none =>
      rw [htarget] at hline?
      simp [Injection.fulfil, Injection.place?, hline?, aim?, htarget]
  | some i =>
      rw [htarget] at hline?
      obtain ⟨line, hline, -⟩ := plain_of_targetLine? htarget
      have hheld := hasMarkerAbove_bufferOf hsited ⟨i, r.guard, r.marker⟩ hr.guard hline
      simp only [Injection.fulfil, Injection.place?, hline?, aim?, htarget, Option.map_some,
        Option.elim_some, place]
      by_cases hadmits : Admits lines placed ⟨i, r.guard, r.marker⟩
      · have hclear := Bool.eq_false_iff.mpr fun h => (hheld.mp h) hadmits
        simp only [Option.filter_some, hclear, Bool.not_false, if_true, if_pos hadmits]
        exact insertAbove_bufferOf hline r.marker
      · simp [Option.filter_some, hheld.mpr hadmits, hadmits]

theorem sited_place (hsited : Sited lines placed) {r : Request} (hr : Sound r) {aim : Aim}
    (haim : aim? lines r = some aim) : Sited lines (place lines placed aim) := by
  obtain ⟨i, htarget, rfl⟩ := Option.map_eq_some_iff.mp haim
  obtain ⟨line, hline, hplain⟩ := plain_of_targetLine? htarget
  rw [place]
  split
  · exact hsited.concat hr.marker hline hplain
  · exact hsited

end Step

theorem foldl_fulfil_bufferOf {lines : List Text} {placed : List Placement}
    (hsited : Sited lines placed) (rs : List Request) (hrs : ∀ r ∈ rs, Sound r) :
    rs.foldl Injection.fulfil (bufferOf lines placed) =
        bufferOf lines ((rs.filterMap (aim? lines)).foldl (place lines) placed) ∧
      Sited lines ((rs.filterMap (aim? lines)).foldl (place lines) placed) := by
  -- As long as the markers are sited, a target is found in the buffer where its line has moved to.
  induction rs generalizing placed with
  | nil => exact ⟨rfl, hsited⟩
  | cons r rest ih =>
      have hr := hrs r List.mem_cons_self
      have hrest := fun q hq => hrs q (List.mem_cons_of_mem _ hq)
      rw [List.foldl_cons, fulfil_bufferOf hsited hr]
      cases haim : aim? lines r with
      | none =>
          rw [List.filterMap_cons_none haim]
          exact ih hsited hrest
      | some aim =>
          rw [List.filterMap_cons_some haim]
          exact ih (sited_place hsited hr haim) hrest

theorem ofText_eq_bufferOf (content : Text) :
    SourceBuffer.ofText content = bufferOf (splitLines content) [] := by
  simp [ofText, bufferOf]

theorem foldl_requests (content : Text) (keys : TableKeys Text) :
    keys.requests.foldl Injection.fulfil (SourceBuffer.ofText content) =
      bufferOf (splitLines content)
        (placements (splitLines content) (aims (splitLines content) keys)) := by
  rw [ofText_eq_bufferOf, aims_eq_filterMap_requests]
  exact (foldl_fulfil_bufferOf Sited.nil _ fun _ => sound_of_mem_requests).1

theorem ofBuffer_bufferOf (content : Text) (lines : List Text) (placed : List Placement) :
    Injection.ofBuffer content (bufferOf lines placed) =
      if placed.isEmpty then { changed := false, text := content, inserted := [] }
      else
        { changed := true, text := joinLines (interleave placed lines),
          inserted := placed.map (·.marker) } := by
  simp only [Injection.ofBuffer, changed, bufferOf, List.isEmpty_map, Bool.not_eq_true']
  cases placed.isEmpty <;> rfl

/-- The changing buffer and the one pass over the file as it was have the same outcome. -/
theorem inject_eq_onePass (content : Text) (keys : TableKeys Text) :
    inject content keys = onePass content keys := by
  rw [inject, foldl_requests, ofBuffer_bufferOf]
  rfl

end MappingMarkers.Proofs.OnePassInjection
