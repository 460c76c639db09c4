import MappingMarkers.Proofs.RepeatedInjection

namespace MappingMarkers.Proofs.OwnAttributes

open Text SourceBuffer AttributeLine Interleaving InterleavedDeclarations OnePassInjection
  RepeatedInjection

/-- The attribute lines right above line `i`, up to one that completes another declaration. -/
def ownAttributes (completes : Text → Bool) (lines : List Text) (i : Nat) : List Text :=
  (attributesAbove lines i).rtakeWhile (!completes ·)

/-- The line that completes another declaration, and the attribute lines above it. -/
def otherAttributes (completes : Text → Bool) (lines : List Text) (i : Nat) : List Text :=
  (attributesAbove lines i).rdropWhile (!completes ·)

def Holds (texts : List Text) (guard : Text) : Prop := ∃ text ∈ texts, guard <:+: text

theorem holds_append {a b : List Text} {guard : Text} :
    Holds (a ++ b) guard ↔ Holds a guard ∨ Holds b guard := by
  simp only [Holds, List.mem_append, or_and_right, exists_or]

section Block

variable (completes : Text → Bool) {lines : List Text}

theorem attributesAbove_eq_append (lines : List Text) (i : Nat) :
    attributesAbove lines i =
      otherAttributes completes lines i ++ ownAttributes completes lines i :=
  (List.rdropWhile_append_rtakeWhile ..).symm

theorem otherAttributes_eq_nil {i : Nat}
    (h : ∀ line ∈ attributesAbove lines i, completes line = false) :
    otherAttributes completes lines i = [] := by
  refine List.rdropWhile_eq_nil_iff.mpr fun line hline => ?_
  rw [h line hline]
  rfl

theorem not_admits_iff {placed : List Placement} {aim : Aim} :
    ¬ Admits lines placed aim ↔
      Holds (ownAttributes completes lines aim.line ++ markersAt placed aim.line) aim.guard ∨
        Holds (otherAttributes completes lines aim.line) aim.guard := by
  have hheld : ¬ Admits lines placed aim ↔
      Holds (attributesAbove lines aim.line ++ markersAt placed aim.line) aim.guard := by
    simp only [Admits, Holds, not_forall, not_not, exists_prop]
  rw [hheld, attributesAbove_eq_append completes, List.append_assoc, holds_append, or_comm]

end Block

section Requests

variable {lines : List Text} {keys : TableKeys Text} {r : Request} {i : Nat}

theorem guard_of_mem_requests (hr : r ∈ keys.requests) :
    r.guard = r.marker ∨
      r.guard = Marker.associationStart ∧
        ∃ key ∈ keys.foreign, r.marker = Marker.association key := by
  obtain ⟨column, -, rfl | rfl⟩ | ⟨key, hkey, hguard, hmarker⟩ := request_cases hr
  · exact Or.inl rfl
  · exact Or.inl rfl
  · exact Or.inr ⟨hguard, key, hkey, hmarker⟩

theorem aim?_of_targetLine? (h : targetLine? lines r.target = some i) :
    aim? lines r = some ⟨i, r.guard, r.marker⟩ := by
  rw [aim?, h, Option.map_some]

theorem foldl_before {content : Text} {before after : List Request}
    (hrequests : keys.requests = before ++ r :: after) :
    let placed := placements (splitLines content) (before.filterMap (aim? (splitLines content)))
    before.foldl Injection.fulfil (SourceBuffer.ofText content) =
        bufferOf (splitLines content) placed ∧ Sited (splitLines content) placed := by
  rw [ofText_eq_bufferOf]
  refine foldl_fulfil_bufferOf Sited.nil before fun q hq => ?_
  have hmem : q ∈ keys.requests := by
    rw [hrequests]
    exact List.mem_append_left _ hq
  exact sound_of_mem_requests hmem

theorem fulfil_bufferOf_eq_self_iff {placed : List Placement} (hsited : Sited lines placed)
    (hr : Sound r) (htarget : targetLine? lines r.target = some i) :
    Injection.fulfil (bufferOf lines placed) r = bufferOf lines placed ↔
      ¬ Admits lines placed ⟨i, r.guard, r.marker⟩ := by
  rw [fulfil_bufferOf hsited hr, aim?_of_targetLine? htarget, Option.elim_some, place]
  split
  · rename_i hadmits
    refine iff_of_false (fun h => ?_) (not_not_intro hadmits)
    have hlength := congrArg (fun b => b.inserted.length) h
    simp [bufferOf] at hlength
  · rename_i hadmits
    exact iff_of_true rfl hadmits

end Requests

/-- Whichever lines are taken to complete a declaration of their own, a marker is skipped just when
its guard stands among the target's own attributes, with those put in before, or from the last of
these lines upwards; and so the guard stands in one of these places in the end. Where no line of the
run is such a line, only the own attributes count. -/
theorem skipped_iff (completes : Text → Bool) (content : Text) (keys : TableKeys Text)
    {before after : List Request} {r : Request} {i : Nat}
    (hrequests : keys.requests = before ++ r :: after)
    (htarget : targetLine? (splitLines content) r.target = some i) :
    let lines := splitLines content
    let own := ownAttributes completes lines i
    let others := otherAttributes completes lines i
    let placed := placements lines (before.filterMap (aim? lines))
    let b := before.foldl Injection.fulfil (SourceBuffer.ofText content)
    b = bufferOf lines placed ∧
    (Injection.fulfil b r = b ↔
      Holds (own ++ markersAt placed i) r.guard ∨ Holds others r.guard) ∧
    (Injection.fulfil b r ≠ b →
      Injection.fulfil b r = bufferOf lines (placed ++ [⟨i, r.marker⟩])) ∧
    (Holds (own ++ markersAt (placedIn content keys) i) r.guard ∨ Holds others r.guard) ∧
    ((∀ line ∈ attributesAbove lines i, completes line = false) → ¬ Holds others r.guard) ∧
    (r.guard = r.marker ∨
      r.guard = Marker.associationStart ∧
        ∃ key ∈ keys.foreign, r.marker = Marker.association key) := by
  intro lines own others placed b
  obtain ⟨hb, hsited⟩ : b = bufferOf lines placed ∧ Sited lines placed := foldl_before hrequests
  have hr : r ∈ keys.requests := by simp [hrequests]
  have hskipped := fulfil_bufferOf_eq_self_iff hsited (sound_of_mem_requests hr) htarget
  have haim : (⟨i, r.guard, r.marker⟩ : Aim) ∈ aims lines keys :=
    mem_aims_iff.mpr ⟨r, hr, aim?_of_targetLine? htarget⟩
  refine ⟨hb, ?_, fun hne => ?_, ?_, fun hnone => ?_, guard_of_mem_requests hr⟩
  · rw [hb, hskipped]
    exact not_admits_iff completes
  · rw [hb] at hne ⊢
    have hadmits := not_not.mp (mt hskipped.mpr hne)
    rw [fulfil_bufferOf hsited (sound_of_mem_requests hr), aim?_of_targetLine? htarget,
      Option.elim_some, place, if_pos hadmits]
  · exact (not_admits_iff completes).mp (not_admits_placements haim)
  · rintro ⟨text, htext, -⟩
    have hempty : others = [] := otherAttributes_eq_nil completes hnone
    rw [hempty] at htext
    exact List.not_mem_nil htext

/-- Whether a property is declared in the line, be it behind attributes. -/
def declaresBehind (line : Text) : Bool :=
  line.tails.any fun t => (Declaration.property? t).isSome

def sharedLine : Text := "[PrimaryKey] public int Id \x7b get; set; \x7d\n".toList

def plainLine : Text := "public int No \x7b get; set; \x7d".toList

theorem skipped_iff_ownColumn :
    let content := sharedLine ++ ("[Column(Name = \"NO\")]\n".toList ++ plainLine)
    let keys : TableKeys Text := { table := ['T'], primary := ["NO".toList], foreign := [] }
    let before := [Request.ofColumn "NO".toList Marker.primaryKey]
    let r := Request.ofColumn "NO".toList (Marker.column "NO".toList)
    let b := before.foldl Injection.fulfil (SourceBuffer.ofText content)
    keys.requests = before ++ [r] ∧ targetLine? (splitLines content) r.target = some 2 ∧
      ownAttributes declaresBehind (splitLines content) 2 = [Marker.column "NO".toList] ∧
      Injection.fulfil b r = b := by
  intro content keys before r b
  have hrequests : keys.requests = before ++ [r] := rfl
  have htarget : targetLine? (splitLines content) r.target = some 2 := by decide +kernel
  have hown : ownAttributes declaresBehind (splitLines content) 2 =
      [Marker.column "NO".toList] := by decide +kernel
  refine ⟨hrequests, htarget, hown,
    (skipped_iff declaresBehind content keys hrequests htarget).2.1.mpr (Or.inl ?_)⟩
  exact ⟨Marker.column "NO".toList, by simp [hown], List.infix_rfl⟩

-- The other property's primary key marker keeps the marker of this one out.
example :
    (inject (sharedLine ++ plainLine)
      { table := ['T'], primary := ["NO".toList], foreign := [] }).inserted =
        [Marker.column "NO".toList] := by
  decide +kernel

end MappingMarkers.Proofs.OwnAttributes
