import MappingMarkers.Proofs.AttributeLine
import MappingMarkers.Proofs.DictionaryOrder
import MappingMarkers.Proofs.SourceListing

namespace MappingMarkers.Proofs.SourceSearch

open Text Files SourceListing DictionaryOrder

section Patterns

/-- No character of the text has a meaning in patterns, or between names. -/
def Literal (t : Text) : Prop := ∀ c ∈ t, c ≠ '*' ∧ c ≠ '?' ∧ c ≠ '[' ∧ c ≠ '/'

instance (t : Text) : Decidable (Literal t) :=
  List.decidableBAll _ t

/-- The pieces of a pattern that is fulfilled by the names with an ending. -/
def endingPieces (ending : Text) : List Glob.Piece := .star :: ending.map .char

variable {ending : Text}

theorem pieces_of_literal (literal : Literal ending) {fuel : Nat} (hfuel : ending.length ≤ fuel) :
    Glob.pieces fuel ending = ending.map .char := by
  induction ending generalizing fuel with
  | nil => cases fuel <;> rfl
  | cons c cs ih =>
      obtain ⟨hstar, hany, hset, -⟩ := literal c List.mem_cons_self
      cases fuel with
      | zero => simp at hfuel
      | succ fuel =>
          have hrest : Glob.pieces fuel cs = cs.map .char :=
            ih (fun d hd => literal d (List.mem_cons_of_mem _ hd)) (by simpa using hfuel)
          rw [Glob.pieces, hrest, List.map_cons]
          · exact hstar
          · exact hany
          · exact hset

theorem occursIn_stars {t : Text} (h : '*' ∉ t) : occursIn ['*', '*'] ('*' :: t) = false := by
  rw [Bool.eq_false_iff, ne_eq, AttributeLine.occursIn_iff_infix, List.infix_cons_iff,
    List.cons_prefix_cons]
  rintro (⟨-, hstar⟩ | hstars)
  · exact h (hstar.subset List.mem_cons_self)
  · exact h (hstars.subset List.mem_cons_self)

theorem names_ending (literal : Literal ending) : Path.names ('*' :: ending) = ['*' :: ending] := by
  have hslash : '/' ∉ '*' :: ending := by
    intro h
    rcases List.mem_cons.mp h with h | h
    · contradiction
    · exact (literal '/' h).2.2.2 rfl
  rw [Path.names, List.splitOn_eq_singleton hslash]
  rfl

theorem components?_ending (literal : Literal ending) :
    Glob.components? ('*' :: ending) = some [.pattern (endingPieces ending)] := by
  have hstar : '*' ∉ ending := fun h => (literal '*' h).1 rfl
  have hshort : '*' :: ending ≠ ['*', '*'] := fun h =>
    hstar ((List.cons.inj h).2 ▸ List.mem_cons_self)
  have hlast : ('*' :: ending).getLast? ≠ some '/' := by
    intro h
    rcases List.mem_cons.mp (List.mem_of_getLast? h) with h | h
    · contradiction
    · exact (literal '/' h).2.2.2 rfl
  have hpieces : Glob.pieces ('*' :: ending).length ('*' :: ending) = endingPieces ending := by
    rw [List.length_cons, Glob.pieces, pieces_of_literal literal (Nat.le_refl _)]
    rfl
  have hpattern : Glob.isPattern ('*' :: ending) = true := rfl
  have htext : Glob.Component.ofText? ('*' :: ending) = some (.pattern (endingPieces ending)) := by
    rw [Glob.Component.ofText?, if_neg hshort, occursIn_stars hstar, if_neg (by simp), hpattern,
      if_pos rfl, hpieces]
  rw [Glob.components?, names_ending literal, List.mapM_cons, htext]
  simp [hlast]

theorem fits_chars_iff {name : Text} :
    Glob.fits (ending.map .char) name = true ↔ name = ending := by
  induction ending generalizing name with
  | nil => cases name <;> simp [Glob.fits]
  | cons c cs ih =>
      cases name with
      | nil => simp [Glob.fits]
      | cons d ds =>
          rw [List.map_cons, Glob.fits, Bool.and_eq_true, ih, List.cons.injEq, Glob.Piece.admits,
            beq_iff_eq, eq_comm]
          simp

theorem fits_ending_iff {name : Text} :
    Glob.fits (endingPieces ending) name = true ↔ ending <:+ name := by
  induction name with
  | nil => rw [endingPieces, Glob.fits, fits_chars_iff, List.suffix_nil, eq_comm]
  | cons c cs ih =>
      rw [endingPieces, Glob.fits, Bool.or_eq_true, fits_chars_iff, ← endingPieces, ih,
        List.suffix_cons_iff, eq_comm]

end Patterns

section Questions

variable {ε α β : Type}

theorem map_eq_ok_iff {f : α → β} {x : Except ε α} {b : β} :
    f <$> x = .ok b ↔ ∃ a, x = .ok a ∧ f a = b := by
  cases x with
  | error e => simp [Functor.map, Except.map]
  | ok a => simp [Functor.map, Except.map]

theorem map_eq_error_iff {f : α → β} {x : Except ε α} {e : ε} :
    f <$> x = .error e ↔ x = .error e := by
  cases x with
  | error e => simp [Functor.map, Except.map]
  | ok a => simp [Functor.map, Except.map]

theorem mapM_cases (f : α → Except ε β) (l : List α) :
    (∃ found, l.mapM f = .ok found ∧ (∀ a ∈ l, ∃ b, f a = .ok b) ∧
      ∀ b, b ∈ found ↔ ∃ a ∈ l, f a = .ok b) ∨
    ∃ a ∈ l, ∃ e, f a = .error e ∧ l.mapM f = .error e := by
  induction l with
  | nil => exact .inl ⟨[], rfl, by simp, by simp⟩
  | cons a l ih =>
      rw [List.mapM_cons]
      cases ha : f a with
      | error e => exact .inr ⟨a, List.mem_cons_self, e, ha, rfl⟩
      | ok b =>
          obtain ⟨found, hfound, hall, hmem⟩ | ⟨a', ha', e, he, hfail⟩ := ih
          · refine .inl ⟨b :: found, by rw [hfound]; rfl, ?_, fun b' => ?_⟩
            · exact List.forall_mem_cons.mpr ⟨⟨b, ha⟩, hall⟩
            · simp [hmem, ha, @eq_comm _ b' b]
          · refine .inr ⟨a', List.mem_cons_of_mem _ ha', e, he, ?_⟩
            rw [hfail]
            rfl

/-- Whether the answer to a question is yes. -/
def affirmed : Except ε Bool → Bool
  | .ok answer => answer
  | .error _ => false

theorem affirmed_iff {answer : Except ε Bool} : affirmed answer = true ↔ answer = .ok true := by
  cases answer with
  | error e => simp [affirmed]
  | ok b => simp [affirmed]

theorem filterAuxM_cases (f : α → Except ε Bool) (l kept : List α) :
    (l.filterAuxM f kept = .ok ((l.filter fun a => affirmed (f a)).reverse ++ kept) ∧
      ∀ a ∈ l, ∃ b, f a = .ok b) ∨
    ∃ a ∈ l, ∃ e, f a = .error e ∧ l.filterAuxM f kept = .error e := by
  induction l generalizing kept with
  | nil => exact .inl ⟨rfl, by simp⟩
  | cons a l ih =>
      rw [List.filterAuxM]
      cases ha : f a with
      | error e => exact .inr ⟨a, List.mem_cons_self, e, ha, rfl⟩
      | ok b =>
          obtain ⟨hkept, hall⟩ | ⟨a', ha', e, he, hfail⟩ := ih (cond b (a :: kept) kept)
          · refine .inl ⟨?_, List.forall_mem_cons.mpr ⟨⟨b, ha⟩, hall⟩⟩
            refine hkept.trans ?_
            cases b with
            | false => simp [ha, affirmed]
            | true => simp [ha, affirmed]
          · exact .inr ⟨a', List.mem_cons_of_mem _ ha', e, he, hfail⟩

theorem filterM_cases (f : α → Except ε Bool) (l : List α) :
    (l.filterM f = .ok (l.filter fun a => affirmed (f a)) ∧ ∀ a ∈ l, ∃ b, f a = .ok b) ∨
      ∃ a ∈ l, ∃ e, f a = .error e ∧ l.filterM f = .error e := by
  rw [List.filterM]
  obtain ⟨hkept, hall⟩ | ⟨a, ha, e, he, hfail⟩ := filterAuxM_cases f l []
  · refine .inl ⟨?_, hall⟩
    rw [hkept, List.append_nil]
    exact congrArg Except.ok (List.reverse_reverse _)
  · refine .inr ⟨a, ha, e, he, ?_⟩
    rw [hfail]
    rfl

end Questions

section Selection

variable {t : Tree} {ending : Text}

theorem mapM_pure {ε α β : Type} (answer : α → β) (l : List α) :
    l.mapM (fun a => (.ok (answer a) : Except ε β)) = .ok (l.map answer) := by
  induction l with
  | nil => rfl
  | cons a l ih =>
      rw [List.mapM_cons, ih]
      rfl

def endingIn (ending : Text) (q : Path) (names : List Text) : List Path :=
  names.flatMap fun n => if Glob.fits (endingPieces ending) n then [q.child n] else []

theorem mem_endingIn_iff {p q : Path} {names : List Text} :
    p ∈ endingIn ending q names ↔ ∃ n ∈ names, ending <:+ n ∧ p = q.child n := by
  simp only [endingIn, List.mem_flatMap, ← fits_ending_iff]
  refine exists_congr fun n => and_congr_right fun _ => ?_
  split_ifs with hfits
  · simp [hfits]
  · simp [hfits]

theorem select_ending (q : Path) :
    Glob.select t [.pattern (endingPieces ending)] q = endingIn ending q <$> Glob.list t q := by
  rw [Glob.select]
  cases Glob.list t q with
  | error e => rfl
  | ok names =>
      have hvisit : ∀ n, (do
          let enters ← if ([] : List Glob.Component).isEmpty then pure true
            else t.isDirectory (q.entryText n)
          if enters && Glob.fits (endingPieces ending) n then Glob.select t [] (q.child n)
            else return []) =
          .ok (if Glob.fits (endingPieces ending) n then [q.child n] else []) := by
        intro n
        by_cases hfits : Glob.fits (endingPieces ending) n = true
        · simp [hfits, Glob.select, pure, Except.pure, bind, Except.bind]
        · simp [hfits, pure, Except.pure, bind, Except.bind]
      change Glob.collect _ names = _
      simp only [hvisit, Glob.collect, mapM_pure]
      rfl

/-- A path to an entry with the ending, in one of the directories. -/
def Found (t : Tree) (ending : Text) (places : List Path) (p : Path) : Prop :=
  ∃ q ∈ places, ∃ names, Glob.list t q = .ok names ∧ ∃ n ∈ names, ending <:+ n ∧ p = q.child n

theorem below_cases (ending : Text) {base : Path} {places : List Path}
    (hbase : t.isDirectory base.text = .ok true) (hplaces : Glob.directories t base = .ok places) :
    (∃ selected, Glob.below t base [.pattern (endingPieces ending)] = .ok selected ∧
      selected.Nodup ∧ (∀ q ∈ places, ∃ names, Glob.list t q = .ok names) ∧
      ∀ p, p ∈ selected ↔ Found t ending places p) ∨
    ∃ q ∈ places, ∃ e, Glob.list t q = .error e ∧
      Glob.below t base [.pattern (endingPieces ending)] = .error e := by
  have hbelow : Glob.below t base [.pattern (endingPieces ending)] =
      List.eraseDups <$> Glob.collect (Glob.select t [.pattern (endingPieces ending)]) places := by
    rw [Glob.below, hbase]
    change Glob.select t _ base = _
    rw [Glob.select, hplaces]
    rfl
  rw [hbelow, Glob.collect]
  obtain ⟨found, hfound, hall, hmem⟩ | ⟨q, hq, e, he, hfail⟩ :=
    mapM_cases (Glob.select t [.pattern (endingPieces ending)]) places
  · refine .inl ⟨found.flatten.eraseDups, by rw [hfound]; rfl, nodup_eraseDups _,
      fun q hq => ?_, fun p => ?_⟩
    · obtain ⟨paths, hpaths⟩ := hall q hq
      rw [select_ending, map_eq_ok_iff] at hpaths
      exact hpaths.imp fun _ => And.left
    · rw [List.mem_eraseDups, List.mem_flatten]
      constructor
      · rintro ⟨paths, hpaths, hp⟩
        obtain ⟨q, hq, hselect⟩ := (hmem paths).mp hpaths
        rw [select_ending, map_eq_ok_iff] at hselect
        obtain ⟨names, hnames, rfl⟩ := hselect
        exact ⟨q, hq, names, hnames, mem_endingIn_iff.mp hp⟩
      · rintro ⟨q, hq, names, hnames, hp⟩
        refine ⟨endingIn ending q names, (hmem _).mpr ⟨q, hq, ?_⟩, mem_endingIn_iff.mpr hp⟩
        rw [select_ending, hnames]
        rfl
  · rw [select_ending, map_eq_error_iff] at he
    refine .inr ⟨q, hq, e, he, ?_⟩
    rw [hfail]
    rfl

end Selection

section Sources

variable {t : Tree} {s : Settings}

theorem inOrder_parts_iff (ps qs : List Text) :
    inOrder notAfter ps qs = true ↔ ps = qs ∨ List.Lex Before ps qs :=
  inOrder_iff_lex before_irrefl notAfter_iff ps qs

theorem inOrder_parts_trans (ps qs rs : List Text) (h : inOrder notAfter ps qs = true)
    (h' : inOrder notAfter qs rs = true) : inOrder notAfter ps rs = true := by
  rw [inOrder_parts_iff] at h h' ⊢
  obtain rfl | h := h
  · exact h'
  · obtain rfl | h' := h'
    · exact .inr h
    · exact .inr (List.lex_trans Before.trans h h')

theorem lex_of_lex_cons {name : Text} {ps qs : List Text}
    (h : List.Lex Before (name :: ps) (name :: qs)) : List.Lex Before ps qs := by
  cases h with
  | cons h => exact h
  | rel h => exact absurd h (before_irrefl name)

/-- The files among the selected paths, without the copies and in order. -/
def arranged (s : Settings) (files : List Path) : List Path :=
  (files.filter fun p => !s.isGenerated p).mergeSort fun p q =>
    inOrder notAfter p.sortKey q.sortKey

theorem mem_arranged_iff {files : List Path} {p : Path} :
    p ∈ arranged s files ↔ p ∈ files ∧ s.isGenerated p = false := by
  rw [arranged, List.mem_mergeSort, List.mem_filter, Bool.not_eq_true']

theorem nodup_arranged {files : List Path} (hnodup : files.Nodup) : (arranged s files).Nodup :=
  (List.mergeSort_perm _ _).nodup_iff.mpr (hnodup.filter _)

theorem pairwise_arranged {root : Text} {files : List Path} (hroot : ∀ p ∈ files, p.root = root)
    (hnodup : files.Nodup) :
    (arranged s files).Pairwise fun p q => List.Lex Before p.parts q.parts := by
  have hsorted : (arranged s files).Pairwise fun p q =>
      inOrder notAfter p.sortKey q.sortKey = true :=
    List.pairwise_mergeSort (fun p q r => inOrder_parts_trans p.sortKey q.sortKey r.sortKey)
      (fun p q => inOrder_total notAfter_total p.sortKey q.sortKey) _
  refine (hsorted.and (nodup_arranged hnodup)).imp_of_mem fun {p q} hp hq h => ?_
  obtain ⟨pRoot, pParts⟩ := p
  obtain ⟨qRoot, qParts⟩ := q
  obtain rfl : pRoot = root := hroot _ (mem_arranged_iff.mp hp).1
  obtain rfl : qRoot = pRoot := hroot _ (mem_arranged_iff.mp hq).1
  have hparts : pParts ≠ qParts := fun hsame => h.2 (congrArg _ hsame)
  have hkeys := (inOrder_parts_iff _ _).mp h.1
  rw [Path.sortKey, Path.sortKey] at hkeys
  split_ifs at hkeys
  · exact hkeys.resolve_left hparts
  · rw [List.cons.injEq] at hkeys
    exact lex_of_lex_cons (hkeys.resolve_left fun hsame => hparts hsame.2)

theorem sources_eq (literal : Literal s.fileSuffix) (base : Path) :
    sources t base s = (do
      let selected ←
        (Glob.below t base [.pattern (endingPieces s.fileSuffix)]).mapError Fault.access
      let files ← (selected.filterM fun p => t.isFile p.text).mapError Fault.access
      return arranged s files) := by
  rw [sources, components?_ending literal]
  rfl

/-- The files are listed, or the listing ends with the error of one of its questions: what a
directory has, or whether an entry with the ending is a file. -/
theorem sources_cases (literal : Literal s.fileSuffix) {base : Path} {places : List Path}
    (hbase : t.isDirectory base.text = .ok true) (hplaces : Glob.directories t base = .ok places) :
    (∃ files, sources t base s = .ok (arranged s files) ∧ files.Nodup ∧
      (∀ q ∈ places, ∃ names, Glob.list t q = .ok names) ∧
      (∀ p, Found t s.fileSuffix places p → ∃ b, t.isFile p.text = .ok b) ∧
      ∀ p, p ∈ files ↔ Found t s.fileSuffix places p ∧ t.isFile p.text = .ok true) ∨
    (∃ q ∈ places, ∃ e, Glob.list t q = .error e ∧ sources t base s = .error (.access e)) ∨
    ∃ p, Found t s.fileSuffix places p ∧ ∃ e, t.isFile p.text = .error e ∧
      sources t base s = .error (.access e) := by
  rw [sources_eq literal]
  obtain ⟨selected, hselected, hnodup, hlisted, hmem⟩ | ⟨q, hq, e, he, hfail⟩ :=
    below_cases s.fileSuffix hbase hplaces
  · rw [hselected]
    obtain ⟨hfiles, hall⟩ | ⟨p, hp, e, he, hfail⟩ :=
      filterM_cases (fun p : Path => t.isFile p.text) selected
    · refine .inl ⟨selected.filter fun p => affirmed (t.isFile p.text), ?_, hnodup.filter _,
        hlisted, fun p hp => hall p ((hmem p).mpr hp), fun p => ?_⟩
      · change ((selected.filterM fun p => t.isFile p.text).mapError Fault.access >>= _) = _
        rw [hfiles]
        rfl
      · rw [List.mem_filter, hmem, affirmed_iff]
    · refine .inr (.inr ⟨p, (hmem p).mp hp, e, he, ?_⟩)
      change ((selected.filterM fun p => t.isFile p.text).mapError Fault.access >>= _) = _
      rw [hfail]
      rfl
  · rw [hfail]
    exact .inr (.inl ⟨q, hq, e, he, rfl⟩)

end Sources

end MappingMarkers.Proofs.SourceSearch
