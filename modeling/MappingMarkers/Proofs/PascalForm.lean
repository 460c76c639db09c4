import MappingMarkers.Identifier
import MappingMarkers.Proofs.Splitting

namespace MappingMarkers.Proofs.PascalForm

open Text Identifier Splitting

section Tables

variable {ranges : List CodeRange}

/-- No run of a case table leads into the ranges. -/
def RunsAvoid (ranges : List CodeRange) (runs : List CaseRun) : Prop :=
  ∀ run ∈ runs, ∀ r ∈ ranges, run.image + (run.last - run.first) < r.1 ∨ r.2 < run.image

/-- No expansion of a case table leads into the ranges. -/
def ExpansionsAvoid (ranges : List CodeRange) (expansions : List (Nat × List Nat)) : Prop :=
  ∀ e ∈ expansions, ∀ n ∈ e.2, ∀ r ∈ ranges, n < r.1 ∨ r.2 < n

instance (ranges : List CodeRange) (runs : List CaseRun) : Decidable (RunsAvoid ranges runs) :=
  inferInstanceAs (Decidable (∀ run ∈ runs, ∀ r ∈ ranges, _ ∨ _))

instance (ranges : List CodeRange) (expansions : List (Nat × List Nat)) :
    Decidable (ExpansionsAvoid ranges expansions) :=
  inferInstanceAs (Decidable (∀ e ∈ expansions, ∀ n ∈ e.2, ∀ r ∈ ranges, _ ∨ _))

/-- A change of case never leads into the ranges from outside of them. -/
structure Avoided (ranges : List CodeRange) : Prop where
  positive : ∀ r ∈ ranges, 0 < r.1
  capitalRuns : RunsAvoid ranges capitalRuns
  smallRuns : RunsAvoid ranges smallRuns
  capitalExpansions : ExpansionsAvoid ranges capitalExpansions
  smallExpansions : ExpansionsAvoid ranges smallExpansions
  ascii : ∀ n < 128, inRanges ranges (Char.ofNat n) = false →
    inRanges ranges (Char.ofNat n).toUpper = false ∧
      inRanges ranges (Char.ofNat n).toLower = false
  sigma : inRanges ranges 'σ' = false ∧ inRanges ranges 'ς' = false

theorem inRanges_iff {c : Char} :
    inRanges ranges c = true ↔ ∃ r ∈ ranges, r.1 ≤ c.toNat ∧ c.toNat ≤ r.2 := by
  simp [inRanges]

theorem inRanges_ofNat_eq_false {n : Nat} (hpos : ∀ r ∈ ranges, 0 < r.1)
    (h : ∀ r ∈ ranges, n < r.1 ∨ r.2 < n) : inRanges ranges (Char.ofNat n) = false := by
  apply Bool.eq_false_iff.mpr
  intro hin
  obtain ⟨r, hr, hlow, hhigh⟩ := inRanges_iff.mp hin
  by_cases hvalid : n.isValidChar
  · have hn : (Char.ofNat n).toNat = n := by
      rw [Char.ofNat, dif_pos hvalid]
      rfl
    rcases h r hr with hout | hout <;> omega
  · have hn : (Char.ofNat n).toNat = 0 := by
      rw [Char.ofNat, dif_neg hvalid]
      rfl
    have := hpos r hr
    omega

theorem mapCase_avoids {expansions : List (Nat × List Nat)} {runs : List CaseRun} {c d : Char}
    (hpos : ∀ r ∈ ranges, 0 < r.1) (hexpansions : ExpansionsAvoid ranges expansions)
    (hruns : RunsAvoid ranges runs) (hc : inRanges ranges c = false)
    (hd : d ∈ mapCase expansions runs c) : inRanges ranges d = false := by
  rw [mapCase] at hd
  split at hd
  · rename_i form hform
    obtain ⟨front, back, hsplit, -⟩ := List.lookup_eq_some_iff.mp hform
    obtain ⟨n, hn, rfl⟩ := List.mem_map.mp hd
    have hmem : (c.toNat, form) ∈ expansions := by simp [hsplit]
    exact inRanges_ofNat_eq_false hpos (hexpansions _ hmem n hn)
  · split at hd
    · rename_i image himage
      obtain ⟨run, hrun, hmoved⟩ := List.exists_of_findSome?_eq_some himage
      obtain rfl := List.mem_singleton.mp hd
      rw [CaseRun.image?] at hmoved
      split at hmoved
      · rename_i hbelongs
        rw [Option.some.injEq] at hmoved
        apply inRanges_ofNat_eq_false hpos
        intro r hr
        rcases hruns run hrun r hr with h | h <;> omega
      · contradiction
    · obtain rfl := List.mem_singleton.mp hd
      exact hc

variable (avoided : Avoided ranges)

include avoided

theorem Avoided.toUpper {c : Char} (hascii : c.toNat < 128) (hc : inRanges ranges c = false) :
    inRanges ranges c.toUpper = false ∧ inRanges ranges c.toLower = false := by
  have h := avoided.ascii c.toNat hascii
  rw [Char.ofNat_toNat] at h
  exact h hc

theorem Avoided.capital {c d : Char} (hc : inRanges ranges c = false) (hd : d ∈ capital c) :
    inRanges ranges d = false := by
  rw [Text.capital] at hd
  split at hd
  · rename_i hascii
    obtain rfl := List.mem_singleton.mp hd
    exact (avoided.toUpper hascii hc).1
  · exact mapCase_avoids avoided.positive avoided.capitalExpansions avoided.capitalRuns hc hd

theorem Avoided.small {c d : Char} (hc : inRanges ranges c = false) (hd : d ∈ small c) :
    inRanges ranges d = false := by
  rw [Text.small] at hd
  split at hd
  · rename_i hascii
    obtain rfl := List.mem_singleton.mp hd
    exact (avoided.toUpper hascii hc).2
  · exact mapCase_avoids avoided.positive avoided.smallExpansions avoided.smallRuns hc hd

theorem Avoided.lowerAfter {cased : Bool} {t : Text} {d : Char}
    (ht : ∀ c ∈ t, inRanges ranges c = false) (hd : d ∈ lowerAfter cased t) :
    inRanges ranges d = false := by
  induction t generalizing cased with
  | nil => simp [Text.lowerAfter] at hd
  | cons c cs ih =>
      have hcs : ∀ e ∈ cs, inRanges ranges e = false := fun e he =>
        ht e (List.mem_cons_of_mem _ he)
      rw [Text.lowerAfter] at hd
      rcases List.mem_append.mp hd with hd | hd
      · split at hd
        · obtain rfl := List.mem_singleton.mp hd
          split
          · exact avoided.sigma.2
          · exact avoided.sigma.1
        · exact avoided.small (ht c List.mem_cons_self) hd
      · exact ih hcs hd

theorem Avoided.capitalized {word : Text} {d : Char}
    (hword : ∀ c ∈ word, inRanges ranges c = false) (hd : d ∈ capitalized word) :
    inRanges ranges d = false := by
  cases word with
  | nil => simp [Identifier.capitalized] at hd
  | cons c cs =>
      rw [Identifier.capitalized] at hd
      rcases List.mem_append.mp hd with hd | hd
      · exact avoided.capital (hword c List.mem_cons_self) hd
      · exact avoided.lowerAfter (fun e he => hword e (List.mem_cons_of_mem _ he)) hd

theorem Avoided.pascal {name : Text} {d : Char}
    (hname : ∀ c ∈ name, isSeparator c = false → inRanges ranges c = false)
    (hd : d ∈ pascal name) : inRanges ranges d = false := by
  obtain ⟨word, hword, hd⟩ := List.mem_flatMap.mp hd
  refine avoided.capitalized (fun c hc => ?_) hd
  obtain ⟨hmem, hsep⟩ := of_mem_splitOnP (List.mem_filter.mp hword).1 hc
  exact hname c hmem hsep

end Tables

def separatorRanges : List CodeRange :=
  [(9, 13), (28, 32), (0x5F, 0x5F), (0x85, 0x85), (0xA0, 0xA0), (0x1680, 0x1680),
    (0x2000, 0x200A), (0x2028, 0x2029), (0x202F, 0x202F), (0x205F, 0x205F), (0x3000, 0x3000)]

theorem isSeparator_eq_inRanges (c : Char) : isSeparator c = inRanges separatorRanges c := by
  have hunderscore : c = '_' ↔ c.toNat = 0x5F := by
    rw [← Char.toNat_inj]
    rfl
  apply Bool.eq_iff_iff.mpr
  simp only [inRanges_iff, isSeparator, isBlank, separatorRanges, Bool.or_eq_true, beq_iff_eq,
    hunderscore, Bool.and_eq_true, decide_eq_true_eq, List.mem_cons, List.not_mem_nil, or_false,
    exists_eq_or_imp, exists_eq_left]
  omega

theorem avoided_separatorRanges : Avoided separatorRanges where
  positive := by decide
  capitalRuns := by decide +kernel
  smallRuns := by decide +kernel
  capitalExpansions := by decide +kernel
  smallExpansions := by decide +kernel
  ascii := by decide +kernel
  sigma := by decide

theorem isSeparator_eq_false_of_mem_pascal {name : Text} {c : Char} (h : c ∈ pascal name) :
    isSeparator c = false := by
  rw [isSeparator_eq_inRanges]
  refine avoided_separatorRanges.pascal (fun d _ hd => ?_) h
  rwa [isSeparator_eq_inRanges] at hd

/-- The marks that end a value, a key or an attribute's text where they come up in it. -/
def marks : List Char := ['"', ',', '[']

def rangeOf (c : Char) : List CodeRange := [(c.toNat, c.toNat)]

theorem inRanges_rangeOf_eq_false_iff {mark c : Char} :
    inRanges (rangeOf mark) c = false ↔ c ≠ mark := by
  rw [← Bool.not_eq_true, inRanges_iff, ne_eq, ← Char.toNat_inj, rangeOf]
  simp only [List.mem_singleton, exists_eq_left]
  omega

theorem avoided_rangeOf {mark : Char} (h : mark ∈ marks) : Avoided (rangeOf mark) := by
  simp only [marks, List.mem_cons, List.not_mem_nil, or_false] at h
  rcases h with rfl | rfl | rfl
  all_goals
    constructor
    case sigma => decide
    all_goals decide +kernel

theorem notMem_pascal {mark : Char} (hmark : mark ∈ marks) {name : Text} (h : mark ∉ name) :
    mark ∉ pascal name := by
  intro hmem
  have hout := (avoided_rangeOf hmark).pascal (fun c hc _ =>
    inRanges_rangeOf_eq_false_iff.mpr fun heq => h (heq ▸ hc)) hmem
  exact inRanges_rangeOf_eq_false_iff.mp hout rfl

section Lists

theorem notMem_pascalList {c : Char} (hcomma : c ≠ ',') {names : List Text}
    (h : ∀ name ∈ names, c ∉ pascal name) : c ∉ pascalList names := by
  intro hmem
  rcases mem_joined hmem with hsep | ⟨form, hform, hmem⟩
  · exact hcomma (List.mem_singleton.mp hsep)
  · obtain ⟨name, hname, rfl⟩ := List.mem_map.mp hform
    exact h name hname hmem

theorem mark_notMem_pascalList {mark : Char} (hmark : mark ∈ marks) (hcomma : mark ≠ ',')
    {names : List Text} (h : ∀ name ∈ names, mark ∉ name) : mark ∉ pascalList names :=
  notMem_pascalList hcomma fun name hname => notMem_pascal hmark (h name hname)

/-- The forms of names without commas are read back from their list. -/
theorem splitOn_pascalList {names : List Text} (hne : names ≠ [])
    (h : ∀ name ∈ names, ',' ∉ name) : (pascalList names).splitOn ',' = names.map pascal := by
  have hforms : names.map pascal ≠ [] := fun hnil => hne (List.map_eq_nil_iff.mp hnil)
  refine List.splitOn_intercalate ',' (fun form hform => ?_) hforms
  obtain ⟨name, hname, rfl⟩ := List.mem_map.mp hform
  exact notMem_pascal (by decide) (h name hname)

end Lists

end MappingMarkers.Proofs.PascalForm
