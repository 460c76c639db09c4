import Mathlib.Data.List.Basic
import Mathlib.Data.List.Induction
import MappingMarkers.Catalog.Injection
import MappingMarkers.Catalog.KeyReader
import MappingMarkers.Proofs.PascalForm

namespace MappingMarkers.Proofs.KeyGrouping

open Text Catalog

section Rows

variable {Name : Type}

def rowsOf (key : Text) (rows : List (KeyRow Name)) : List (KeyRow Name) :=
  rows.filter (·.key == key)

/-- The keys of rows, each once, in the order in which they first come up. -/
def keys (rows : List (KeyRow Name)) : List Text := (rows.map (·.key)).eraseDups

/-- The foreign key of all header and column rows with one key. The last header tells the tables and
the first column row the name. -/
def gathered? (headers rows : List (KeyRow Name)) (key : Text) : Option (ForeignKey Name) := do
  let header ← (rowsOf key headers).getLast?
  let first ← (rowsOf key rows).head?
  return { name := first.name, table := header.first, refTable := header.second
           pairs := (rowsOf key rows).map fun row => (row.first, row.second) }

def addedTo (row : KeyRow Name) (k : ForeignKey Name) : ForeignKey Name :=
  { k with pairs := k.pairs ++ [(row.first, row.second)] }

variable {headers rows : List (KeyRow Name)} {row : KeyRow Name} {key : Text}

theorem mem_keys_iff : key ∈ keys rows ↔ ∃ row ∈ rows, row.key = key := by
  rw [keys, List.mem_eraseDups, List.mem_map]

theorem keys_append_of_mem (h : row.key ∈ keys rows) : keys (rows ++ [row]) = keys rows := by
  rw [keys, List.mem_eraseDups] at h
  have hnew : [row.key].removeAll (rows.map (·.key)) = [] := by
    rw [List.removeAll, List.filter_singleton, List.elem_eq_mem, decide_eq_true h]
    rfl
  rw [keys, List.map_append, List.eraseDups_append, List.map_singleton, hnew, List.eraseDups_nil,
    List.append_nil, keys]

theorem keys_append_of_notMem (h : row.key ∉ keys rows) :
    keys (rows ++ [row]) = keys rows ++ [row.key] := by
  rw [keys, List.mem_eraseDups] at h
  have hnew : [row.key].removeAll (rows.map (·.key)) = [row.key] := by
    rw [List.removeAll, List.filter_singleton, List.elem_eq_mem, decide_eq_false h]
    rfl
  rw [keys, List.map_append, List.eraseDups_append, List.map_singleton, hnew, keys]
  rfl

theorem rowsOf_append_self : rowsOf row.key (rows ++ [row]) = rowsOf row.key rows ++ [row] := by
  simp [rowsOf]

theorem rowsOf_append_of_ne (h : row.key ≠ key) : rowsOf key (rows ++ [row]) = rowsOf key rows := by
  simp [rowsOf, h]

theorem exists_rowsOf_eq_cons (h : key ∈ keys rows) :
    ∃ first rest, rowsOf key rows = first :: rest := by
  obtain ⟨row, hrow, rfl⟩ := mem_keys_iff.mp h
  refine List.exists_cons_of_ne_nil (List.ne_nil_of_mem (a := row) ?_)
  exact List.mem_filter.mpr ⟨hrow, beq_self_eq_true _⟩

theorem rowsOf_eq_nil (h : key ∉ keys rows) : rowsOf key rows = [] :=
  List.filter_eq_nil_iff.mpr fun row hrow heq => h (mem_keys_iff.mpr ⟨row, hrow, beq_iff_eq.mp heq⟩)

theorem header?_eq_getLast? (headers : List (KeyRow Name)) (key : Text) :
    header? headers key = (rowsOf key headers).getLast? :=
  List.getLast?_filter.symm

theorem upper_name_of_gathered? {k : ForeignKey Name} (h : gathered? headers rows key = some k) :
    upper k.name = key := by
  simp only [gathered?, Option.bind_eq_bind, Option.bind_eq_some_iff, Option.pure_def,
    Option.some.injEq] at h
  obtain ⟨header, -, first, hfirst, rfl⟩ := h
  exact beq_iff_eq.mp (List.mem_filter.mp (List.mem_of_head? hfirst)).2

theorem gathered?_of_header?_eq_none (h : header? headers key = none) (rows : List (KeyRow Name)) :
    gathered? headers rows key = none := by
  rw [gathered?, ← header?_eq_getLast?, h]
  rfl

theorem isSome_gathered? {header : KeyRow Name} (hheader : header? headers key = some header)
    (hkey : key ∈ keys rows) : (gathered? headers rows key).isSome := by
  obtain ⟨first, rest, hrows⟩ := exists_rowsOf_eq_cons hkey
  rw [gathered?, ← header?_eq_getLast?, hheader, hrows]
  rfl

theorem gathered?_append_of_ne (hne : row.key ≠ key) :
    gathered? headers (rows ++ [row]) key = gathered? headers rows key := by
  rw [gathered?, gathered?, rowsOf_append_of_ne hne]

theorem gathered?_append_of_mem (hkey : row.key ∈ keys rows) :
    gathered? headers (rows ++ [row]) row.key =
      (gathered? headers rows row.key).map (addedTo row) := by
  obtain ⟨first, rest, hrows⟩ := exists_rowsOf_eq_cons hkey
  rw [gathered?, gathered?, rowsOf_append_self, hrows]
  cases (rowsOf row.key headers).getLast? with
  | none => rfl
  | some header => simp [addedTo]

theorem gathered?_append_of_notMem {header : KeyRow Name}
    (hheader : header? headers row.key = some header) (hkey : row.key ∉ keys rows) :
    gathered? headers (rows ++ [row]) row.key =
      some { name := row.name, table := header.first, refTable := header.second
             pairs := [(row.first, row.second)] } := by
  rw [gathered?, ← header?_eq_getLast?, hheader, rowsOf_append_self, rowsOf_eq_nil hkey]
  rfl

/-- What has been gathered from the rows so far, in the order of the keys. -/
def gatheredKeys (headers rows : List (KeyRow Name)) : List (ForeignKey Name) :=
  (keys rows).filterMap (gathered? headers rows)

theorem upper_name_mem_keys {k : ForeignKey Name} (hk : k ∈ gatheredKeys headers rows) :
    upper k.name ∈ keys rows := by
  obtain ⟨key, hkey, hgathered⟩ := List.mem_filterMap.mp hk
  rwa [upper_name_of_gathered? hgathered]

theorem gatheredKeys_append_of_none (hheader : header? headers row.key = none) :
    gatheredKeys headers (rows ++ [row]) = gatheredKeys headers rows := by
  have hsame : gathered? headers (rows ++ [row]) = gathered? headers rows := by
    funext key
    by_cases hkey : row.key = key
    · subst hkey
      rw [gathered?_of_header?_eq_none hheader, gathered?_of_header?_eq_none hheader]
    · exact gathered?_append_of_ne hkey
  rw [gatheredKeys, hsame, gatheredKeys]
  by_cases hkey : row.key ∈ keys rows
  · rw [keys_append_of_mem hkey]
  · rw [keys_append_of_notMem hkey, List.filterMap_append,
      List.filterMap_cons_none (gathered?_of_header?_eq_none hheader rows), List.filterMap_nil,
      List.append_nil]

theorem gatheredKeys_append_of_mem (hkey : row.key ∈ keys rows) :
    gatheredKeys headers (rows ++ [row]) = (gatheredKeys headers rows).map fun k =>
      if upper k.name = row.key then addedTo row k else k := by
  rw [gatheredKeys, keys_append_of_mem hkey, gatheredKeys, List.map_filterMap]
  refine List.filterMap_congr fun key _ => ?_
  -- What is gathered is known by its name, so the row is added to its own key and to no other.
  by_cases heq : row.key = key
  · subst heq
    rw [gathered?_append_of_mem hkey]
    refine Option.map_congr fun k hk => ?_
    rw [if_pos (upper_name_of_gathered? hk)]
  · rw [gathered?_append_of_ne heq]
    cases hk : gathered? headers rows key with
    | none => rfl
    | some k =>
        have hne : ¬ upper k.name = row.key := fun hname =>
          heq (hname.symm.trans (upper_name_of_gathered? hk))
        rw [Option.map_some, if_neg hne]

theorem gatheredKeys_append_of_notMem {header : KeyRow Name}
    (hheader : header? headers row.key = some header) (hkey : row.key ∉ keys rows) :
    gatheredKeys headers (rows ++ [row]) = gatheredKeys headers rows ++
      [{ name := row.name, table := header.first, refTable := header.second
         pairs := [(row.first, row.second)] }] := by
  rw [gatheredKeys, keys_append_of_notMem hkey, List.filterMap_append,
    List.filterMap_cons_some (gathered?_append_of_notMem hheader hkey), List.filterMap_nil,
    gatheredKeys]
  congr 1
  refine List.filterMap_congr fun key hmem => gathered?_append_of_ne fun heq => ?_
  exact hkey (heq ▸ hmem)

theorem addPair_gatheredKeys (headers rows : List (KeyRow Name)) (row : KeyRow Name) :
    addPair headers (gatheredKeys headers rows) row = gatheredKeys headers (rows ++ [row]) := by
  cases hheader : header? headers row.key with
  | none =>
      rw [gatheredKeys_append_of_none hheader, addPair, hheader]
  | some header =>
      simp only [addPair, hheader]
      by_cases hkey : row.key ∈ keys rows
      · have hany : ((gatheredKeys headers rows).any fun k => upper k.name == row.key) = true := by
          obtain ⟨k, hk⟩ := Option.isSome_iff_exists.mp (isSome_gathered? hheader hkey)
          refine List.any_eq_true.mpr ⟨k, List.mem_filterMap.mpr ⟨_, hkey, hk⟩, ?_⟩
          exact beq_iff_eq.mpr (upper_name_of_gathered? hk)
        rw [if_pos hany, gatheredKeys_append_of_mem hkey]
        rfl
      · have hany : ¬ ((gatheredKeys headers rows).any fun k =>
            upper k.name == row.key) = true := by
          intro hany
          obtain ⟨k, hk, hname⟩ := List.any_eq_true.mp hany
          exact hkey (beq_iff_eq.mp hname ▸ upper_name_mem_keys hk)
        rw [if_neg hany, gatheredKeys_append_of_notMem hheader hkey]

/-- The keys that are read are those that the rows gather. -/
theorem groupPairs_eq_gatheredKeys (headers rows : List (KeyRow Name)) :
    groupPairs headers rows = gatheredKeys headers rows := by
  -- The fold reads the rows from the front, so the invariant grows at their end.
  induction rows using List.reverseRecOn with
  | nil => rfl
  | append_singleton rows row ih =>
      rw [groupPairs, List.foldl_append, ← groupPairs, ih]
      exact addPair_gatheredKeys headers rows row

theorem pairs_ne_nil_of_mem_gatheredKeys {k : ForeignKey Name}
    (hk : k ∈ gatheredKeys headers rows) : k.pairs ≠ [] := by
  obtain ⟨key, hkey, hgathered⟩ := List.mem_filterMap.mp hk
  obtain ⟨first, rest, hrows⟩ := exists_rowsOf_eq_cons hkey
  simp only [gathered?, hrows, Option.bind_eq_bind, Option.bind_eq_some_iff, Option.pure_def,
    Option.some.injEq] at hgathered
  obtain ⟨header, -, named, -, rfl⟩ := hgathered
  exact List.cons_ne_nil _ _

end Rows

section Renaming

variable {Name Other : Type} (f : Name → Other)

def mapRow (row : KeyRow Name) : KeyRow Other :=
  { name := row.name, first := f row.first, second := f row.second }

def mapKey (k : ForeignKey Name) : ForeignKey Other :=
  { name := k.name, table := f k.table, refTable := f k.refTable
    pairs := k.pairs.map (Prod.map f f) }

theorem rowsOf_map (key : Text) (rows : List (KeyRow Name)) :
    rowsOf key (rows.map (mapRow f)) = (rowsOf key rows).map (mapRow f) :=
  List.filter_map

theorem keys_map (rows : List (KeyRow Name)) : keys (rows.map (mapRow f)) = keys rows := by
  rw [keys, List.map_map, keys]
  rfl

theorem gatheredKeys_map (headers rows : List (KeyRow Name)) :
    gatheredKeys (headers.map (mapRow f)) (rows.map (mapRow f)) =
      (gatheredKeys headers rows).map (mapKey f) := by
  rw [gatheredKeys, keys_map, gatheredKeys, List.map_filterMap]
  refine List.filterMap_congr fun key _ => ?_
  rw [gathered?, gathered?, rowsOf_map, rowsOf_map, List.getLast?_map, List.head?_map]
  cases (rowsOf key headers).getLast? with
  | none => rfl
  | some header =>
      cases hfirst : (rowsOf key rows).head? with
      | none => rfl
      | some first => simp [mapKey, mapRow]

end Renaming

section Answers

def answer (rows : List (KeyRow Text)) : Reply :=
  .rows (rows.map fun row => [some row.name, some row.first, some row.second])

theorem mapM_keyRow (rows : List (KeyRow Text)) :
    (rows.map fun row => [some row.name, some row.first, some row.second]).mapM keyRow =
      .ok (rows.map (mapRow some)) := by
  rw [List.mapM_map]
  exact List.mapM_pure

theorem mapM_firstCell (rows : List (Cell × Row)) :
    (rows.map fun row => row.1 :: row.2).mapM firstCell = .ok (rows.map (·.1)) := by
  rw [List.mapM_map]
  exact List.mapM_pure

theorem ask_rows {α : Type} (explained : DriverError → Fault) (st : Statement)
    {read : Row → Except RowError α} {rows : List Row} {found : List α}
    (h : rows.mapM read = .ok found) (further : List Reply) (events : List Event) :
    ask explained st read { replies := .rows rows :: further, events } =
      (.ok found, { replies := further, events := events ++ [.executed st] }) := by
  simp only [ask, Session.execute, Session.record, h]
  rfl

theorem fst_loadKeys_answers (schema table : Text) (primary : List (Cell × Row))
    (headers rows : List (KeyRow Text)) (further : List Reply) (events : List Event) :
    (loadKeys schema table
      { replies := .rows (primary.map fun row => row.1 :: row.2) :: answer headers ::
          answer rows :: further, events }).1 =
      .ok { table, primary := primary.map (·.1)
            foreign := (gatheredKeys headers rows).map (mapKey some) } := by
  simp only [loadKeys, Session.withCursor, Session.record, queryKeys, answer,
    ask_rows _ _ (mapM_firstCell primary), ask_rows _ _ (mapM_keyRow headers),
    ask_rows _ _ (mapM_keyRow rows), groupPairs_eq_gatheredKeys, gatheredKeys_map]

end Answers

section Association

theorem namedPairs?_map (pairs : List (Text × Text)) :
    Draft.namedPairs? (pairs.map (Prod.map some some)) = some pairs := by
  rw [Draft.namedPairs?, List.mapM_map]
  exact List.mapM_pure.trans (congrArg some (List.map_id pairs))

theorem ofForeignKey_mapKey {key : ForeignKey Text} (h : key.pairs ≠ []) :
    Draft.ofForeignKey (mapKey some key) =
      [.ready { target := .navigation key.name key.refTable, guard := Marker.associationStart
                marker := Marker.association key }] := by
  simp [Draft.ofForeignKey, mapKey, namedPairs?_map, Request.ofForeignKey, h]

/-- An association holds two lists in quotes, one for each side of its key. -/
def Aligned (key : ForeignKey Text) : Prop :=
  ∃ this other,
    Marker.association key =
      Marker.associationStart ++ "ThisKey = \"".toList ++ this ++ "\", OtherKey = \"".toList ++
        other ++ "\", CanBeNull = true)]".toList ∧
    '"' ∉ this ∧ '"' ∉ other ∧
    this.splitOn ',' = key.pairs.map (fun pair => Identifier.pascal pair.1) ∧
    other.splitOn ',' = key.pairs.map fun pair => Identifier.pascal pair.2

theorem aligned {key : ForeignKey Text} (hne : key.pairs ≠ [])
    (hnames : ∀ name ∈ key.columns ++ key.refColumns, ',' ∉ name ∧ '"' ∉ name) : Aligned key := by
  have hthis : ∀ name ∈ key.columns, ',' ∉ name ∧ '"' ∉ name := fun name hname =>
    hnames name (List.mem_append_left _ hname)
  have hother : ∀ name ∈ key.refColumns, ',' ∉ name ∧ '"' ∉ name := fun name hname =>
    hnames name (List.mem_append_right _ hname)
  have hcolumns : key.columns ≠ [] := fun hnil => hne (List.map_eq_nil_iff.mp hnil)
  have hrefColumns : key.refColumns ≠ [] := fun hnil => hne (List.map_eq_nil_iff.mp hnil)
  refine ⟨Identifier.pascalList key.columns, Identifier.pascalList key.refColumns, rfl, ?_, ?_,
    ?_, ?_⟩
  · exact PascalForm.mark_notMem_pascalList (by decide) (by decide) fun name hname =>
      (hthis name hname).2
  · exact PascalForm.mark_notMem_pascalList (by decide) (by decide) fun name hname =>
      (hother name hname).2
  · rw [PascalForm.splitOn_pascalList hcolumns fun name hname => (hthis name hname).1,
      ForeignKey.columns, List.map_map]
    rfl
  · rw [PascalForm.splitOn_pascalList hrefColumns fun name hname => (hother name hname).1,
      ForeignKey.refColumns, List.map_map]
    rfl

end Association

/-- The foreign keys that are read are those that the rows gather. None is without a pair, and the
lists of its association are in the order of its pairs. -/
theorem loadKeys_gathers (schema table : Text) (primary : List (Cell × Row))
    (headers rows : List (KeyRow Text)) (further : List Reply) (events : List Event) :
    (loadKeys schema table
      { replies := .rows (primary.map fun row => row.1 :: row.2) :: answer headers ::
          answer rows :: further, events }).1 =
      .ok { table, primary := primary.map (·.1)
            foreign := (gatheredKeys headers rows).map (mapKey some) } ∧
    ∀ key ∈ gatheredKeys headers rows, key.pairs ≠ [] ∧
      Draft.ofForeignKey (mapKey some key) =
        [.ready { target := .navigation key.name key.refTable, guard := Marker.associationStart
                  marker := Marker.association key }] ∧
      ((∀ name ∈ key.columns ++ key.refColumns, ',' ∉ name ∧ '"' ∉ name) → Aligned key) := by
  refine ⟨fst_loadKeys_answers schema table primary headers rows further events, ?_⟩
  intro key hkey
  have hne := pairs_ne_nil_of_mem_gatheredKeys hkey
  exact ⟨hne, ofForeignKey_mapKey hne, aligned hne⟩

theorem loadKeys_gathers_interleaved :
    let headers : List (KeyRow Text) :=
      [⟨"FK_A".toList, "ORDERS".toList, "FIRM".toList⟩,
        ⟨"FK_B".toList, "ORDERS".toList, "AREA".toList⟩,
        ⟨"fk_a".toList, "ORDERS".toList, "COMPANY".toList⟩]
    let rows : List (KeyRow Text) :=
      [⟨"Fk_A".toList, "COMPANY_ID".toList, "ID".toList⟩,
        ⟨"FK_C".toList, "X".toList, "Y".toList⟩,
        ⟨"FK_B".toList, "AREA".toList, "CODE".toList⟩,
        ⟨"FK_A".toList, "COMPANY_NO".toList, "NO".toList⟩]
    let key : ForeignKey Text :=
      { name := "Fk_A".toList, table := "ORDERS".toList, refTable := "COMPANY".toList
        pairs := [("COMPANY_ID".toList, "ID".toList), ("COMPANY_NO".toList, "NO".toList)] }
    key ∈ gatheredKeys headers rows ∧
      (∀ name ∈ key.columns ++ key.refColumns, ',' ∉ name ∧ '"' ∉ name) ∧ Aligned key := by
  intro headers rows key
  have hkey : key ∈ gatheredKeys headers rows := by decide +kernel
  have hnames : ∀ name ∈ key.columns ++ key.refColumns, ',' ∉ name ∧ '"' ∉ name := by decide
  exact ⟨hkey, hnames, ((loadKeys_gathers [] [] [] headers rows [] []).2 key hkey).2.2 hnames⟩

end MappingMarkers.Proofs.KeyGrouping
