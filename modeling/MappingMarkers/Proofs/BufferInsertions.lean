import Mathlib.Data.List.InsertIdx
import MappingMarkers.Proofs.InterleavedDeclarations

namespace MappingMarkers.Proofs.BufferInsertions

open Text SourceBuffer AttributeLine Interleaving InterleavedDeclarations

/-- A marker to be put above a line, by the number that the line has at that time. -/
structure Insertion where
  line : Nat
  marker : Text
  deriving DecidableEq

/-- Puts in markers one after the other. There is no answer when one of the lines is not there. -/
def insertAll? (b : SourceBuffer) (calls : List Insertion) : Option SourceBuffer :=
  calls.foldlM (fun b c => b.insertAboveAt? c.line c.marker) b

/-- Where a line stands once the markers are put in. -/
def moved (calls : List Insertion) (i : Nat) : Nat :=
  calls.foldl (fun i c => if c.line ≤ i then i + 1 else i) i

/-- For each line, the marker that was put there, if it is no line of the file. -/
def origins (count : Nat) (calls : List Insertion) : List (Option Text) :=
  calls.foldl (fun origins c => origins.insertIdx c.line (some c.marker))
    (List.replicate count none)

/-- The lines that no marker has put there. -/
def remaining (lines : List Text) (origins : List (Option Text)) : List Text :=
  ((lines.zip origins).filter (·.2.isNone)).map (·.1)

/-- What is the case of a buffer once markers were put into the lines of a file. -/
structure Kept (lines : List Text) (calls : List Insertion) (b : SourceBuffer) : Prop where
  indexed : b.properties = Declaration.index b.lines
  /-- Each entry, also one that a later declaration of the name hides, is of the same line. -/
  declared : (b.properties.map fun e => (e.1, b.lines[e.2]?)) =
    (Declaration.index lines).map fun e => (e.1, lines[e.2]?)
  accounted : (origins lines.length calls).length = b.lines.length
  remaining : remaining b.lines (origins lines.length calls) = lines
  marked : ∀ e ∈ b.lines.zip (origins lines.length calls), ∀ marker, e.2 = some marker →
    ∃ blanks, (∀ c ∈ blanks, isBlank c = true) ∧ e.1 = blanks ++ marker
  inserted : b.inserted = calls.map (·.marker)
  grown : b.lines.length = lines.length + b.inserted.length

section Step

variable {b b' : SourceBuffer} {i : Nat} {marker : Text}

theorem insertAboveAt?_natCast (b : SourceBuffer) (i : Nat) (marker : Text) :
    b.insertAboveAt? i marker = b.put? i i marker := by
  rw [insertAboveAt?, position?]
  by_cases h : i < b.lines.length
  · have hinside : (0 : Int) ≤ i ∧ (i : Int) < b.lines.length := by omega
    simp [hinside]
  · have houtside : ¬ ((0 : Int) ≤ i ∧ (i : Int) < b.lines.length) := by omega
    have hfront : ¬ ((i : Int) < 0 ∧ (0 : Int) ≤ i + b.lines.length) := by omega
    have hnone : b.lines[i]? = none := by
      rw [List.getElem?_eq_none_iff]
      omega
    simp only [if_neg houtside, if_neg hfront, put?, hnone]
    rfl

theorem insertAboveAt?_eq_none_iff :
    b.insertAboveAt? i marker = none ↔ b.lines.length ≤ i := by
  rw [insertAboveAt?_natCast, put?, Option.map_eq_none_iff, List.getElem?_eq_none_iff]

theorem insertAbove_of_length_le (h : b.lines.length ≤ i) : b.insertAbove i marker = b := by
  rw [insertAbove, ← insertAboveAt?_natCast, insertAboveAt?_eq_none_iff.mpr h, Option.getD_none]

theorem eq_of_insertAboveAt? (h : b.insertAboveAt? i marker = some b') :
    ∃ line, b.lines[i]? = some line ∧
      b'.lines = b.lines.insertIdx i (indent line ++ marker) ∧
      b'.lines = interleave [⟨i, marker⟩] b.lines ∧
      b'.properties = b.properties.map (fun e => (e.1, position [⟨i, marker⟩] e.2)) ∧
      b'.inserted = b.inserted ++ [marker] := by
  rw [insertAboveAt?_natCast, put?, Option.map_eq_some_iff] at h
  obtain ⟨line, hline, rfl⟩ := h
  refine ⟨line, hline, rfl, ?_, ?_, rfl⟩
  · have hinterleave := insertIdx_interleave [] hline marker
    rwa [interleave_nil, position_nil] at hinterleave
  · apply List.map_congr_left
    intro e _
    have hposition := position_concat [] i e.2 marker
    rw [position_nil, position_nil] at hposition
    rw [← List.nil_append [_], hposition]

theorem position_singleton (i j : Nat) (marker : Text) :
    position [⟨i, marker⟩] j = if i ≤ j then j + 1 else j :=
  position_concat [] i j marker

/-- Whatever the markers are, every line moves down with the markers above it, and so does the
place to which its name leads. -/
theorem moved_of_insertAll? {calls : List Insertion} (h : insertAll? b calls = some b') :
    (∀ name, b'.lineOf? name = (b.lineOf? name).map (moved calls)) ∧
      ∀ (i : Nat) line, b.lines[i]? = some line → b'.lines[moved calls i]? = some line := by
  induction calls generalizing b with
  | nil =>
      obtain rfl : b = b' := Option.some.inj h
      exact ⟨fun name => Option.map_id'.symm, fun i line => id⟩
  | cons c calls ih =>
      rw [insertAll?, List.foldlM_cons] at h
      obtain ⟨next, hnext, h⟩ := Option.bind_eq_some_iff.mp h
      obtain ⟨hlookup, hlines⟩ := ih h
      obtain ⟨-, -, -, hplaced, hproperties, -⟩ := eq_of_insertAboveAt? hnext
      constructor
      · intro name
        have hfound : next.lineOf? name =
            (b.lineOf? name).map (position [⟨c.line, c.marker⟩]) := by
          rw [lineOf?, hproperties]
          exact lookup_map_snd _ _ _
        rw [hlookup, hfound, Option.map_map]
        refine Option.map_congr fun i _ => ?_
        rw [Function.comp_apply, position_singleton]
        rfl
      · intro i line hline
        have hstands := getElem?_interleave [⟨c.line, c.marker⟩] hline
        rw [← hplaced, position_singleton] at hstands
        exact hlines _ line hstands

theorem zip_insertIdx {α β : Type} {l : List α} {m : List β} (h : l.length = m.length) (i : Nat)
    (a : α) (c : β) : (l.insertIdx i a).zip (m.insertIdx i c) = (l.zip m).insertIdx i (a, c) := by
  induction i generalizing l m with
  | zero => rfl
  | succ i ih =>
      cases l with
      | nil =>
          obtain rfl := List.eq_nil_of_length_eq_zero h.symm
          rfl
      | cons x l =>
          obtain ⟨y, m, rfl⟩ := List.exists_cons_of_length_eq_add_one h.symm
          exact congrArg ((x, y) :: ·) (ih (Nat.succ.inj h))

theorem filter_insertIdx_of_neg {α : Type} {p : α → Bool} {a : α} (h : p a = false) (l : List α)
    (i : Nat) : (l.insertIdx i a).filter p = l.filter p := by
  induction i generalizing l with
  | zero => rw [List.insertIdx_zero, List.filter_cons_of_neg (by simp [h])]
  | succ i ih =>
      cases l with
      | nil => rfl
      | cons x l => rw [List.insertIdx_succ_cons, List.filter_cons, List.filter_cons, ih]

variable {lines : List Text} {calls : List Insertion}

theorem origins_concat (count : Nat) (calls : List Insertion) (c : Insertion) :
    origins count (calls ++ [c]) = (origins count calls).insertIdx c.line (some c.marker) := by
  rw [origins, List.foldl_append]
  rfl

theorem Kept.step {c : Insertion} (kept : Kept lines calls b) (hmarker : Bracketed c.marker)
    (h : b.insertAboveAt? c.line c.marker = some b') : Kept lines (calls ++ [c]) b' := by
  obtain ⟨line, hline, hinsert, hplaced, hproperties, hinserted⟩ := eq_of_insertAboveAt? h
  have hinside := (List.getElem?_eq_some_iff.mp hline).1
  have hgrown : b'.lines.length = b.lines.length + 1 := by
    rw [hinsert, List.length_insertIdx_of_le_length (Nat.le_of_lt hinside)]
  have hzip : b'.lines.zip (origins lines.length (calls ++ [c])) =
      (b.lines.zip (origins lines.length calls)).insertIdx c.line
        (indent line ++ c.marker, some c.marker) := by
    rw [hinsert, origins_concat, zip_insertIdx kept.accounted.symm]
  constructor
  · rw [hproperties, kept.indexed, hplaced, index_interleave _ (by simpa using hmarker)]
  · rw [← kept.declared, hproperties, List.map_map]
    apply List.map_congr_left
    intro e he
    -- Every entry of the index is of a line, and that line has moved with it.
    rw [kept.indexed] at he
    obtain ⟨text, found, htext, -⟩ := mem_index_iff.mp he
    have hmoved := getElem?_interleave [⟨c.line, c.marker⟩] htext
    rw [← hplaced] at hmoved
    simp only [Function.comp_apply, hmoved, htext]
  · rw [origins_concat, List.length_insertIdx_of_le_length, kept.accounted, hgrown]
    rw [kept.accounted]
    exact Nat.le_of_lt hinside
  · rw [BufferInsertions.remaining, hzip, filter_insertIdx_of_neg rfl]
    exact kept.remaining
  · intro e he marker hmarked
    rw [hzip] at he
    rcases List.eq_or_mem_of_mem_insertIdx he with rfl | he
    · rw [← Option.some.inj hmarked]
      exact ⟨indent line, fun _ => isBlank_of_mem_indent, rfl⟩
    · exact kept.marked e he marker hmarked
  · rw [hinserted, kept.inserted, List.map_append]
    rfl
  · rw [hgrown, kept.grown, hinserted, List.length_append, List.length_singleton, Nat.add_assoc]

end Step

theorem zip_origins_nil (lines : List Text) :
    lines.zip (origins lines.length []) = lines.map (·, none) := by
  induction lines with
  | nil => rfl
  | cons line rest ih => exact congrArg ((line, none) :: ·) ih

theorem kept_ofText (content : Text) : Kept (splitLines content) [] (ofText content) := by
  constructor
  · rfl
  · rfl
  · exact List.length_replicate
  · simp [BufferInsertions.remaining, ofText, zip_origins_nil, List.filter_map, Function.comp_def]
  · intro e he marker hmarked
    simp only [ofText, zip_origins_nil, List.mem_map] at he
    obtain ⟨line, -, rfl⟩ := he
    contradiction
  · rfl
  · rfl

theorem kept_insertAll? (content : Text) {calls : List Insertion} {b : SourceBuffer}
    (hmarkers : ∀ c ∈ calls, Bracketed c.marker)
    (h : insertAll? (ofText content) calls = some b) : Kept (splitLines content) calls b := by
  induction calls using List.reverseRecOn generalizing b with
  | nil =>
      rw [insertAll?, List.foldlM_nil] at h
      rw [← Option.some.inj h]
      exact kept_ofText content
  | append_singleton calls c ih =>
      rw [insertAll?, List.foldlM_append] at h
      obtain ⟨before, hbefore, hlast⟩ := Option.bind_eq_some_iff.mp h
      have kept := ih (fun d hd => hmarkers d (List.mem_append_left _ hd)) hbefore
      obtain ⟨last, hlast, hsame⟩ := Option.bind_eq_some_iff.mp hlast
      rw [← Option.some.inj hsame]
      exact kept.step (hmarkers c (by simp)) hlast

/-- After any number of markers the index is the one of the lines, each name is still declared by
the same line, and what is left without the markers are the lines of the file. A marker above a line
that is not there changes nothing. -/
theorem insertions_kept (content : Text) {calls : List Insertion} {b : SourceBuffer}
    (hmarkers : ∀ c ∈ calls, Bracketed c.marker)
    (h : insertAll? (ofText content) calls = some b) :
    Kept (splitLines content) calls b ∧
      (∀ name, (b.lineOf? name).map (b.lines[·]?) =
        ((ofText content).lineOf? name).map ((splitLines content)[·]?)) ∧
      (b.changed = true ↔ calls ≠ []) ∧
      ∀ (i : Nat) (marker : Text), (b.insertAboveAt? i marker = none ↔ b.lines.length ≤ i) ∧
        (b.lines.length ≤ i → b.insertAbove i marker = b) := by
  have kept := kept_insertAll? content hmarkers h
  refine ⟨kept, ?_, ?_, ?_⟩
  · intro name
    have hfound := congrArg (·.lookup (lower name)) kept.declared
    simp only [lookup_map_snd (fun i => b.lines[i]?),
      lookup_map_snd (fun i => (splitLines content)[i]?)] at hfound
    exact hfound
  · rw [changed, kept.inserted]
    simp
  · intro i marker
    exact ⟨insertAboveAt?_eq_none_iff, insertAbove_of_length_le⟩

def twiceDeclared : Text := "public int A \x7bget;set;\x7d\nx\npublic int a \x7bget;set;\x7d".toList

theorem insertions_kept_twiceDeclared :
    let calls := [⟨2, "[X]".toList⟩, ⟨0, "[Y]".toList⟩, ⟨4, "[Z]".toList⟩]
    (∀ c ∈ calls, Bracketed c.marker) ∧
      ∃ b, insertAll? (ofText twiceDeclared) calls = some b ∧
        b.properties = [(['a'], 5), (['a'], 1)] ∧ Kept (splitLines twiceDeclared) calls b := by
  intro calls
  have hmarkers : ∀ c ∈ calls, Bracketed c.marker := by simp [calls, Bracketed]
  have h : (insertAll? (ofText twiceDeclared) calls).isSome = true := by decide
  obtain ⟨b, hb⟩ := Option.isSome_iff_exists.mp h
  refine ⟨hmarkers, b, hb, ?_, (insertions_kept twiceDeclared hmarkers hb).1⟩
  have hproperties : (insertAll? (ofText twiceDeclared) calls).map (·.properties) =
      some [(['a'], 5), (['a'], 1)] := by decide
  rw [hb] at hproperties
  exact Option.some.inj hproperties

end MappingMarkers.Proofs.BufferInsertions
