import MappingMarkers.Proofs.LinewiseAttributes
import MappingMarkers.Proofs.RepeatedInjection

namespace MappingMarkers.Proofs.InjectedAttributes

open Text Attribute AttributeLine Interleaving InterleavedDeclarations OnePassInjection Lines
  RepeatedInjection LinewiseAttributes

/-- The two kinds of attributes that are read from a file. -/
def kinds : List Text := ["table".toList, "column".toList]

/-- All columns that a table's keys name, on both sides of the references. -/
def columnNames (keys : TableKeys Text) : List Text :=
  keyColumns keys ++ keys.foreign.flatMap (·.refColumns)

/-- No line of the file ends inside an attribute that is still to be finished: neither one that is
read only together with what follows the line, nor the first table attribute. -/
structure Complete (content : Text) : Prop where
  closed : ∀ line ∈ splitLines content, ∀ kind ∈ kinds, Closed kind line
  bracket : ∀ name rest, firstTable? (splitLines content) = some (name, rest) → ']' ∈ rest

section Marker

/-- A marker that reads as its own column, if it is the marker of one, and as nothing else. -/
structure Legible (marker : Text) : Prop where
  unbroken : Unbroken marker
  closed : ∀ front, '[' ∉ front → ∀ kind ∈ kinds, Closed kind (front ++ marker)
  table : ∀ front, '[' ∉ front →
    findFirst? (argument? "table".toList) (front ++ marker) = none
  columns : ∀ front, '[' ∉ front →
    ∀ column, column ∈ columns (front ++ marker) ↔ marker = Marker.column column

theorem legible_of_neither {marker rest : Text} {first : Char} (hmarker : marker = '[' :: rest)
    (hunbroken : Unbroken marker) (hrest : '[' ∉ rest) (hfirst : rest.head? = some first)
    (hne : first ≠ 'C')
    (hneither : ∀ kind ∈ kinds, ∀ further, argument? kind ('[' :: rest ++ further) = none) :
    Legible marker := by
  subst hmarker
  have hnone : ∀ kind ∈ kinds, argument? kind ('[' :: rest) = none := by
    intro kind hkind
    simpa using hneither kind hkind []
  refine ⟨hunbroken, fun front hfront kind hkind => ?_, fun front hfront => ?_,
    fun front hfront column => ?_⟩
  · exact closed_of_bracket hfront hrest fun _ => hneither kind hkind
  · exact findFirst?_of_bracket hfront hrest (hnone _ (by decide))
  · rw [columns_of_bracket hfront hrest (hnone _ (by decide))]
    refine iff_of_false List.not_mem_nil fun heq => hne (Option.some.inj ?_)
    exact hfirst.symm.trans (congrArg (·.tail.head?) heq)

theorem legible_primaryKey : Legible Marker.primaryKey := by
  have hmarker : Marker.primaryKey = '[' :: "PrimaryKey]".toList := rfl
  refine legible_of_neither hmarker (by decide) (by decide) rfl (by decide)
    fun kind hkind further => ?_
  rcases List.mem_pair.mp hkind with rfl | rfl
  · exact rfl
  · exact rfl

theorem association_eq (key : ForeignKey Text) :
    Marker.association key =
      '[' :: ("Association(ThisKey = \"".toList ++ (Identifier.pascalList key.columns ++
        ("\", OtherKey = \"".toList ++ (Identifier.pascalList key.refColumns ++
          "\", CanBeNull = true)]".toList)))) := by
  simp only [Marker.association, List.append_assoc]
  rfl

theorem legible_association {key : ForeignKey Text}
    (hthis : ∀ name ∈ key.columns, '[' ∉ name) (hother : ∀ name ∈ key.refColumns, '[' ∉ name) :
    Legible (Marker.association key) := by
  refine legible_of_neither (association_eq key) (unbroken_association key) ?_ rfl (by decide)
    fun kind hkind further => ?_
  · simp only [List.mem_append, not_or]
    exact ⟨by decide, PascalForm.mark_notMem_pascalList (by decide) (by decide) hthis, by decide,
      PascalForm.mark_notMem_pascalList (by decide) (by decide) hother, by decide⟩
  · rcases List.mem_pair.mp hkind with rfl | rfl
    · exact rfl
    · exact rfl

theorem column_injective {column other : Text} (h : Marker.column column = Marker.column other) :
    column = other :=
  List.append_cancel_left (List.append_cancel_right h)

theorem argument?_column {column : Text} (hne : column ≠ []) (hquote : '"' ∉ column) :
    argument? "column".toList (Marker.column column) = some (column, ")]".toList) := by
  have hvalue : argument? "column".toList (Marker.column column) =
      quotedValue? ('"' :: (column ++ '"' :: ")]".toList)) := rfl
  rw [hvalue, quotedValue?_eq_some_iff]
  exact ⟨rfl, hquote, hne⟩

theorem legible_column {column : Text} (hne : column ≠ [])
    (hquiet : ∀ c ∈ column, c ∉ ['"', '[', '\r', '\n']) : Legible (Marker.column column) := by
  have hnot : ∀ mark ∈ ['"', '[', '\r', '\n'], mark ∉ column := fun mark hmark hmem =>
    hquiet mark hmem hmark
  have hread := argument?_column hne (hnot '"' (by decide))
  have hmarker : Marker.column column =
      '[' :: ("Column(Name = \"".toList ++ (column ++ "\")]".toList)) := rfl
  have hrest : '[' ∉ "Column(Name = \"".toList ++ (column ++ "\")]".toList) := by
    simp only [List.mem_append, not_or]
    exact ⟨by decide, hnot '[' (by decide), by decide⟩
  refine ⟨?_, fun front hfront kind hkind => ?_, fun front hfront => ?_,
    fun front hfront other => ?_⟩
  · exact unbroken_column ⟨hnot '\r' (by decide), hnot '\n' (by decide)⟩
  · rw [hmarker] at hread ⊢
    refine closed_of_bracket hfront hrest fun hnone further => ?_
    rcases List.mem_pair.mp hkind with rfl | rfl
    · exact rfl
    · exact absurd (hread.symm.trans hnone) (by simp)
  · rw [hmarker]
    exact findFirst?_of_bracket hfront hrest rfl
  · have hend : columns ")]".toList = [] := columns_of_notMem (by decide)
    rw [columns_append_of_notMem hfront, columns_of_eq_some hread, hend, List.mem_singleton]
    exact ⟨fun h => h ▸ rfl, fun h => (column_injective h).symm⟩

end Marker

section Lower

theorem small_ne_nil (c : Char) : small c ≠ [] := by
  have hexpansions : ∀ e ∈ smallExpansions, e.2 ≠ [] := by decide +kernel
  rw [small]
  split
  · exact List.cons_ne_nil _ _
  · rw [mapCase]
    split
    · rename_i form hform
      obtain ⟨front, back, hsplit, -⟩ := List.lookup_eq_some_iff.mp hform
      have hne := hexpansions (c.toNat, form) (by simp [hsplit])
      simpa using hne
    · split <;> exact List.cons_ne_nil _ _

theorem lower_ne_nil {t : Text} (h : t ≠ []) : lower t ≠ [] := by
  obtain ⟨c, cs, rfl⟩ := List.exists_cons_of_ne_nil h
  rw [lower, lowerAfter]
  refine List.append_ne_nil_of_left_ne_nil ?_ _
  split
  · exact List.cons_ne_nil _ _
  · exact small_ne_nil c

theorem ne_nil_of_targetLine? {lines : List Text} {column : Text} {i : Nat}
    (h : targetLine? lines (.property (Identifier.pascal column)) = some i) : column ≠ [] := by
  rintro rfl
  obtain ⟨line, found, -, hfound, hlower⟩ := mem_index_iff.mp (mem_of_lookup_eq_some h)
  refine lower_ne_nil ?_ hlower
  rintro rfl
  obtain ⟨⟨type, named⟩, -, hname⟩ := Option.bind_eq_some_iff.mp hfound
  rw [Option.ite_none_right_eq_some, Option.some.injEq] at hname
  rw [hname.2] at hname
  exact absurd hname.1 (by simp)

end Lower

section Outcome

variable {content : Text} {keys : TableKeys Text}

theorem legible_of_mem_placedIn (hnames : ∀ name ∈ columnNames keys, ∀ c ∈ name,
      c ∉ ['"', '[', '\r', '\n']) {p : Placement} (hp : p ∈ placedIn content keys) :
    Legible p.marker := by
  obtain ⟨r, hr, hmarker, i, htarget⟩ := exists_request_of_mem_placedIn content keys hp
  rw [← hmarker]
  obtain ⟨column, hcolumn, rfl | rfl⟩ | ⟨key, hkey, -, hassociation⟩ := request_cases hr
  · exact legible_primaryKey
  · exact legible_column (ne_nil_of_targetLine? htarget)
      (hnames column (List.mem_append_left _ hcolumn))
  · have hbracket : ∀ name ∈ columnNames keys, '[' ∉ name := fun name hname hmem =>
      hnames name hname '[' hmem (by decide)
    rw [hassociation]
    refine legible_association (fun name hname => hbracket name ?_)
      fun name hname => hbracket name ?_
    · have hcolumn := List.mem_flatMap.mpr ⟨key, hkey, hname⟩
      exact List.mem_append_left _ (List.mem_append_right _ hcolumn)
    · exact List.mem_append_right _ (List.mem_flatMap.mpr ⟨key, hkey, hname⟩)

theorem bracket_notMem_indent (line : Text) : '[' ∉ indent line := fun hmem =>
  absurd (isBlank_of_mem_indent hmem) (by decide)

section Interleaved

variable {lines : List Text} {placed : List Placement}

theorem closed_of_mem_interleave (hlegible : ∀ p ∈ placed, Legible p.marker) {kind : Text}
    (hkind : kind ∈ kinds) (hclosed : ∀ line ∈ lines, Closed kind line) {line : Text}
    (hline : line ∈ interleave placed lines) : Closed kind line := by
  rcases mem_interleave hline with hline | ⟨target, -, p, hp, rfl⟩
  · exact hclosed line hline
  · exact (hlegible p hp).closed _ (bracket_notMem_indent target) kind hkind

theorem firstTable?_interleave (hlegible : ∀ p ∈ placed, Legible p.marker) :
    firstTable? (interleave placed lines) = firstTable? lines :=
  findSome?_interleave (fun p hp line => (hlegible p hp).table _ (bracket_notMem_indent line)) lines

theorem mem_columns_interleave_iff (hsited : Sited lines placed)
    (hlegible : ∀ p ∈ placed, Legible p.marker) (column : Text) :
    column ∈ (interleave placed lines).flatMap columns ↔
      column ∈ lines.flatMap columns ∨ Marker.column column ∈ placed.map (·.marker) := by
  simp only [List.mem_flatMap, List.mem_map]
  constructor
  · rintro ⟨line, hline, hcolumn⟩
    rcases mem_interleave hline with hline | ⟨target, -, p, hp, rfl⟩
    · exact Or.inl ⟨line, hline, hcolumn⟩
    · refine Or.inr ⟨p, hp, ?_⟩
      exact ((hlegible p hp).columns _ (bracket_notMem_indent target) column).mp hcolumn
  · rintro (⟨line, hline, hcolumn⟩ | ⟨p, hp, hmarker⟩)
    · obtain ⟨i, hi⟩ := List.mem_iff_getElem?.mp hline
      exact ⟨line, List.mem_of_getElem? (getElem?_interleave placed hi), hcolumn⟩
    · obtain ⟨target, htarget, -⟩ := hsited.plain p hp
      refine ⟨_, marker_mem_interleave placed htarget hp, ?_⟩
      exact ((hlegible p hp).columns _ (bracket_notMem_indent target) column).mpr hmarker

end Interleaved

theorem madeOf_inject (hlegible : ∀ p ∈ placedIn content keys, Legible p.marker)
    (hsome : placedIn content keys ≠ []) :
    MadeOf (inject content keys).text
      (interleave (placedIn content keys) (splitLines content)) := by
  rw [text_inject_of_ne_nil content keys hsome]
  refine madeOf_joinLines (interleave_ne_nil (splitLines_ne_nil content)) fun line hline => ?_
  refine unbroken_of_mem_interleave content keys (fun marker hmarker => ?_) hline
  rw [inserted_inject] at hmarker
  obtain ⟨p, hp, rfl⟩ := List.mem_map.mp hmarker
  exact (hlegible p hp).unbroken

theorem table?_inject (hcontent : Complete content)
    (hlegible : ∀ p ∈ placedIn content keys, Legible p.marker)
    (hsome : placedIn content keys ≠ []) :
    table? (inject content keys).text = table? content := by
  have hclosed : ∀ line ∈ splitLines content, Closed "table".toList line := fun line hline =>
    hcontent.closed line hline _ (by decide)
  have hbefore := table?_eq_firstTable? (madeOf_splitLines content) hclosed hcontent.bracket
  have hbracket := hcontent.bracket
  -- The markers change what follows the first table attribute, but not up to its bracket.
  rw [← firstTable?_interleave hlegible] at hbefore hbracket
  rw [hbefore]
  exact table?_eq_firstTable? (madeOf_inject hlegible hsome)
    (fun line => closed_of_mem_interleave hlegible (by decide) hclosed) hbracket

theorem mem_columns_inject_iff (hcontent : Complete content)
    (hlegible : ∀ p ∈ placedIn content keys, Legible p.marker)
    (hsome : placedIn content keys ≠ []) (column : Text) :
    column ∈ columns (inject content keys).text ↔
      column ∈ columns content ∨ Marker.column column ∈ (inject content keys).inserted := by
  have hclosed : ∀ line ∈ splitLines content, Closed "column".toList line := fun line hline =>
    hcontent.closed line hline _ (by decide)
  rw [columns_eq_flatMap (madeOf_inject hlegible hsome) fun line =>
      closed_of_mem_interleave hlegible (by decide) hclosed,
    columns_eq_flatMap (madeOf_splitLines content) hclosed, inserted_inject]
  exact mem_columns_interleave_iff sited_placements hlegible column

end Outcome

/-- What is put into a file is read from it again, and nothing else is read that was not there: the
table and its schema stay, and the mapped columns are those of the file and of its new markers. -/
theorem attributes_inject (content : Text) (keys : TableKeys Text)
    (hnames : ∀ name ∈ columnNames keys, ∀ c ∈ name, c ∉ ['"', '[', '\r', '\n'])
    (hcontent : Complete content) :
    tableName? (inject content keys).text = tableName? content ∧
      tableSchema? (inject content keys).text = tableSchema? content ∧
      ∀ column, column ∈ mappedColumns (inject content keys).text ↔
        column ∈ mappedColumns content ∨
          Marker.column column ∈ (inject content keys).inserted := by
  have hlegible : ∀ p ∈ placedIn content keys, Legible p.marker := fun p =>
    legible_of_mem_placedIn hnames
  -- Without a marker the text stays as it is; with one, its line ends change as well.
  by_cases hnone : placedIn content keys = []
  · have hunchanged := (inject_eq_unchanged_iff content keys).mpr hnone
    simp [hunchanged]
  · have htable := table?_inject hcontent hlegible hnone
    simp only [mappedColumns, List.mem_eraseDups]
    refine ⟨?_, ?_, mem_columns_inject_iff hcontent hlegible hnone⟩
    · rw [tableName?, tableName?, htable]
    · rw [tableSchema?, tableSchema?, htable]

theorem attributes_inject_oneColumn :
    let content := "[Table(\"T\", Schema = \"S\")]\r\n[Column(\"A\")]\r\n".toList ++
      "public int OrderId \x7b get; set; \x7d".toList
    let keys : TableKeys Text :=
      { table := ['T'], primary := ["ORDER_ID".toList], foreign := [] }
    (∀ name ∈ columnNames keys, ∀ c ∈ name, c ∉ ['"', '[', '\r', '\n']) ∧ Complete content ∧
      (inject content keys).inserted = [Marker.primaryKey, Marker.column "ORDER_ID".toList] ∧
      tableName? (inject content keys).text = some ['T'] ∧
      tableSchema? (inject content keys).text = some ['S'] ∧
      ∀ column, column ∈ mappedColumns (inject content keys).text ↔
        column ∈ ["A".toList, "ORDER_ID".toList] := by
  intro content keys
  have hnames : ∀ name ∈ columnNames keys, ∀ c ∈ name, c ∉ ['"', '[', '\r', '\n'] := by
    have hall : ((columnNames keys).all fun name =>
        name.all fun c => decide (c ∉ ['"', '[', '\r', '\n'])) = true := by
      decide
    intro name hname c hc
    exact decide_eq_true_iff.mp (List.all_eq_true.mp (List.all_eq_true.mp hall name hname) c hc)
  have hlines : splitLines content =
      ['[' :: "Table(\"T\", Schema = \"S\")]".toList, '[' :: "Column(\"A\")]".toList,
        "public int OrderId \x7b get; set; \x7d".toList] := by decide +kernel
  have hcomplete : Complete content := by
    refine ⟨?_, ?_⟩
    · rw [hlines]
      intro line hline kind hkind
      simp only [List.mem_cons, List.not_mem_nil, or_false] at hline
      rcases List.mem_pair.mp hkind with rfl | rfl <;> rcases hline with rfl | rfl | rfl
      · exact closed_of_bracket List.not_mem_nil (by decide) fun h => absurd h (by decide)
      · exact closed_of_bracket List.not_mem_nil (by decide) fun _ _ => rfl
      · exact closed_of_notMem (by decide)
      · exact closed_of_bracket List.not_mem_nil (by decide) fun _ _ => rfl
      · exact closed_of_bracket List.not_mem_nil (by decide) fun h => absurd h (by decide)
      · exact closed_of_notMem (by decide)
    · have hfirst : firstTable? (splitLines content) =
          some (['T'], ", Schema = \"S\")]".toList) := by
        rw [hlines]
        decide +kernel
      intro name rest hread
      obtain ⟨-, rfl⟩ := Prod.mk.inj (Option.some.inj (hfirst.symm.trans hread))
      decide
  have hinserted : (inject content keys).inserted =
      [Marker.primaryKey, Marker.column "ORDER_ID".toList] := by decide +kernel
  have hcolumns : mappedColumns content = ["A".toList] := by decide +kernel
  obtain ⟨htable, hschema, hmapped⟩ := attributes_inject content keys hnames hcomplete
  refine ⟨hnames, hcomplete, hinserted, htable.trans ?_, hschema.trans ?_, fun column => ?_⟩
  · decide +kernel
  · decide +kernel
  · have hother : Marker.column column ≠ Marker.primaryKey := by
      intro h
      have hletter : some 'C' = some 'P' := congrArg (fun marker => marker.tail.head?) h
      exact absurd hletter (by decide)
    rw [hmapped, hcolumns, hinserted]
    simp only [List.mem_cons, List.not_mem_nil, or_false, hother, false_or]
    exact or_congr_right ⟨column_injective, fun h => congrArg Marker.column h⟩

end MappingMarkers.Proofs.InjectedAttributes
