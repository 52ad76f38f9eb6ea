import SqlSchema.Proofs.ExportedRows
/-!
# When a table is read back

A table is read back as it is only if none of its lines ends in a comment and none of its columns starts
like a constraint. Each column that is read starts with a line of the table, so a column that is lost with
its line is not made up for by another line.
-/
namespace SqlSchema

theorem TableDraft.mem_addAll {d : TableDraft} {es : List TableElement} {c : ColumnDefinition}
    (h : c ∈ (d.addAll es).columns) : c ∈ d.columns ∨ .column c ∈ es := by
  induction es generalizing d with
  | nil => exact .inl h
  | cons e es ih =>
    rcases ih h with h | h
    · cases e with
      | column c' =>
        change c ∈ (d.addColumn c').columns at h
        unfold addColumn at h
        split at h
        · exact .inl h
        · rcases List.mem_append.1 h with h | h
          · exact .inl h
          · obtain rfl := List.mem_singleton.1 h
            exact .inr (by simp)
      | _ => exact .inl h
    · exact .inr (by simp [h])

theorem CreateTable.exists_column {s : CreateTable} {c : Column} (h : c ∈ s.draft.table.columns) :
    ∃ definition, .column definition ∈ s.elements ∧ definition.name = c.name ∧
      definition.type = c.type := by
  obtain ⟨definition, hmem, rfl⟩ := List.mem_map.1 h
  rcases TableDraft.mem_addAll hmem with h | h
  · simp [TableDraft.empty] at h
  · exact ⟨definition, h, rfl, rfl⟩

namespace Ddl

section Elements

theorem startsConstraint_tokensIn (place : Nat) (ps : List Piece) :
    startsConstraint (tokensIn place ps) = startsConstraint (tokensIn 0 ps) := by
  have hshape := keepsRole_shift place
  rw [tokensIn_eq_shift, startsConstraint, behind?_map hshape, opensConstraint_map hshape,
    Option.isSome_map, startsConstraint]

theorem readElement?_eq_column {source : String} {item : List Token} {c : ColumnDefinition}
    (h : readElement? source item = some (.column c)) :
    startsConstraint item = false ∧ readColumn? source item = some c := by
  unfold readElement? at h
  split at h
  · rw [readConstraint?_eq] at h
    obtain ⟨ts, -, hkey⟩ := Option.bind_eq_some_iff.1 h
    unfold readKey? at hkey
    split at hkey
    · obtain ⟨_, -, heq⟩ := Option.map_eq_some_iff.1 hkey
      cases heq
    · obtain ⟨_, -, hkey⟩ := Option.bind_eq_some_iff.1 hkey
      obtain ⟨_, -, heq⟩ := Option.map_eq_some_iff.1 hkey
      cases heq
  · next hno => exact ⟨by simpa [startsConstraint] using hno, by simpa using h⟩

theorem startsConstraint_of_isKeyLine {ps : List Piece} (h : IsKeyLine ps) {place : Nat}
    {item : List Token} (hitem : tokensIn place ps <+: item) : startsConstraint item := by
  obtain ⟨keyword, rest, hkeyword, hkinds⟩ := h.opens
  rw [← kind_tokensIn place] at hkinds
  obtain ⟨t, ts, heq, ht, hkinds⟩ := List.map_eq_cons_iff.1 hkinds
  obtain ⟨u, ts, rfl, hu, -⟩ := List.map_eq_cons_iff.1 hkinds
  obtain ⟨more, rfl⟩ := hitem
  rw [heq, startsConstraint, List.cons_append, List.cons_append, opensConstraint_key ht hu hkeyword,
    Bool.or_true]

private theorem exists_type_of_readColumn? {source : String} {first : Token} {ts : List Token}
    {name : String} {c : ColumnDefinition} (hfirst : first.kind = nameKind name)
    (h : readColumn? source (first :: ts) = some c) :
    c.name = name ∧ ∃ next word tail rest, ts = next :: (tail ++ rest) ∧ next.kind = .word word ∧
      c.type = Text.collapse (sourceText source (next :: tail)) := by
  obtain ⟨first', name', next, word, tail, rest, heq, hname, hnext, -, rfl⟩ := readColumn?_eq_some h
  obtain ⟨rfl, rfl⟩ := List.cons.inj heq
  obtain ⟨hn, ht, -⟩ := readOptions_spec
    ⟨name', Text.collapse (sourceText source (next :: tail)), false, false, none⟩ rest
  refine ⟨?_, next, word, tail, rest, rfl, hnext, ht⟩
  rw [hn]
  have hsome := name?_nameKind name first.start first.stop
  rw [← hfirst] at hsome
  exact Option.some.inj (hname.symm.trans hsome)

end Elements

section Rows

variable {d : Dialect}

/-- A row of a column that is read back. -/
structure IsKept (row : Row) : Prop where
  uncommented : IsUncommented row.pieces
  column : startsConstraint (tokensIn 0 row.front) = false

private theorem isUncommented_of_lexemes {ps : List Piece} {next : Char} (h : Lexemes d ps (some next))
    (hline : '\n' ∉ rawText ps) : IsUncommented ps := by
  induction ps with
  | nil => simp [IsUncommented]
  | cons p ps ih =>
    rw [rawText_cons, List.mem_append, not_or] at hline
    intro q hq
    rcases List.mem_cons.1 hq with rfl | hq
    · have hq := h.1
      intro hkind
      cases hnext : (rawText ps).head?.or (some next) with
      | none => simp at hnext
      | some c =>
        rw [hnext] at hq
        generalize hafter : some c = after at hq
        cases hq with
        | lineComment _ _ hend =>
          rcases hend with rfl | ⟨-, rfl⟩
          · simp at hline
          · cases hafter
        | _ => simp at hkind
    · exact ih h.2 hline.2 q hq

theorem isUncommented_columnPieces {next : Char} {c : Column} {ps : List Piece}
    (h : IsType d next c.type ps) (last : Bool) :
    IsUncommented (columnPieces c ps ++ separatorPieces last) := by
  have htype : IsUncommented ps := by
    refine isUncommented_of_lexemes h.lexemes ?_
    rw [h.raw]
    exact not_mem_of_collapse h.collapsed rfl (by decide)
  refine isUncommented_append.2 ⟨isUncommented_append.2 ⟨?_, isUncommented_append.2 ⟨htype, ?_⟩⟩, ?_⟩
  · simp [IsUncommented, leadPieces, blankPiece, namePiece]
  · cases c.isNullable <;> simp [IsUncommented, optionPieces, blankPiece, wordPiece]
  · cases last <;> simp [IsUncommented, separatorPieces, blankPiece, signPiece]

theorem not_isUncommented_commentPiece {front : List Piece} {c : Column} {last : Bool} {x : Char}
    {line : List Char} {ps : List Piece} :
    ¬IsUncommented (Row.pieces ⟨front ++ (ps ++ [commentPiece c last x line]), []⟩) :=
  fun h => h (commentPiece c last x line) (by simp [Row.pieces]) rfl

theorem IsRowOf.isLine {last : Bool} {line : Line} {row : Row} (h : IsRowOf d last line row)
    (hkept : ∀ c, line = .column c → IsKept row) : IsLine d (follower last) row.front line.element := by
  cases h with
  | column htype => exact isLine_column (isSeam_follower last) htype (hkept _ rfl).column
  | commented => exact absurd (hkept _ rfl).uncommented not_isUncommented_commentPiece
  | key hline => exact hline

theorem IsRowOf.rawText_front {last : Bool} {line : Line} {row : Row} (h : IsRowOf d last line row)
    (hkept : ∀ c, line = .column c → IsKept row) : rawText row.front = line.text := by
  cases h with
  | column htype => exact rawText_columnPieces _ htype.raw
  | commented => exact absurd (hkept _ rfl).uncommented not_isUncommented_commentPiece
  | key => rfl

private theorem AreRows.isBody {rs : List (Line × Row)} (h : AreRows d rs)
    (hkept : ∀ r ∈ rs, ∀ c, r.1 = .column c → IsKept r.2) :
    IsBody d (rs.map fun r => (r.2.front, r.1.element)) := by
  induction rs with
  | nil => trivial
  | cons r rs ih =>
    cases rs with
    | nil => exact IsRowOf.isLine h (hkept r (by simp))
    | cons next rs =>
      exact ⟨h.1.isLine (hkept r (by simp)), ih h.2 fun q hq => hkept q (by simp [hq])⟩

theorem AreRows.exists_lines {t : Table} {rs : List (Line × Row)} (h : AreRows d rs)
    (hlines : rs.map (·.1) = lines t) (hkept : ∀ r ∈ rs, ∀ c, r.1 = .column c → IsKept r.2) :
    ∃ ls, IsBody d ls ∧ ls.map (fun line => rawText line.1) = (bodyLines t).map String.toList ∧
      ls.map (·.2) = elements t := by
  refine ⟨_, h.isBody hkept, ?_, ?_⟩
  · rw [← text_lines, ← hlines, List.map_map, List.map_map]
    refine List.map_congr_left fun r hr => ?_
    obtain ⟨last, hrow⟩ := h.isRowOf r hr
    exact hrow.rawText_front (hkept r hr)
  · rw [← element_lines, ← hlines, List.map_map, List.map_map]
    rfl

end Rows

section Items

variable {d : Dialect} {name : String} {rs : List (Line × Row)}

private theorem flatten_pieces (rs : List (Line × Row)) :
    (rs.map (·.2.pieces)).flatten = rowsPieces (rs.map (·.2)) := by
  simp [rowsPieces, List.flatMap_def, Function.comp_def]

private theorem AreRows.isNested (h : AreRows d rs) : ∀ row ∈ rs.map (·.2), row.IsNested := by
  intro row hrow
  obtain ⟨r, hr, rfl⟩ := List.mem_map.1 hrow
  obtain ⟨last, hrow⟩ := h.isRowOf r hr
  exact hrow.isNested

private theorem isSelfContained_rowsPieces (h : ∀ r ∈ rs, ∃ last, IsRowOf d last r.1 r.2) :
    IsSelfContained d (rowsPieces (rs.map (·.2))) := by
  rw [← flatten_pieces]
  refine isSelfContained_flatten fun row hrow => ?_
  obtain ⟨r, hr, rfl⟩ := List.mem_map.1 hrow
  obtain ⟨last, hrow⟩ := h r hr
  exact hrow.isSelfContained

private theorem isBare_first (h : ∀ r ∈ rs, ∃ last, IsRowOf d last r.1 r.2) {word : String}
    (hword : ((rowsPieces (rs.map (·.2))).filterMap Piece.token?).head? = some (.word word)) :
    isBare word.toList := by
  cases rs with
  | nil => simp [rowsPieces] at hword
  | cons r rs =>
    obtain ⟨last, hrow⟩ := h r (by simp)
    have hne : (tokensIn 0 r.2.front).map (·.kind) ≠ [] := by simpa using hrow.isNested.nonempty
    rw [kind_tokensIn] at hne
    obtain ⟨kind, kinds, hkinds⟩ := List.exists_cons_of_ne_nil hne
    rw [List.map_cons, rowsPieces_cons, Row.pieces, List.filterMap_append, List.filterMap_append, hkinds] at hword
    obtain rfl : kind = .word word := by simpa using hword
    exact hrow.isBare_first (by rw [Row.pieces, List.filterMap_append, hkinds]; rfl)

/-- Each item of a table starts with one of its lines, and is that line unless it ends in a comment. -/
private theorem AreRows.exists_row (h : AreRows d rs)
    (hclosed : startsWith .rightParen (splitTopLevel true (bodyTokens name (rs.map (·.2.pieces)))).2)
    {item : List Token} (hitem : item ∈ (splitTopLevel true (bodyTokens name (rs.map (·.2.pieces)))).1) :
    ∃ before r after start last, rs = before ++ r :: after ∧ IsRowOf d last r.1 r.2 ∧
      start = Text.byteSize (rawText (headPieces name ++ rowsPieces (before.map (·.2)))) ∧
      tokensIn start r.2.front <+: item ∧
      item <+: tokensIn start (r.2.pieces ++ rowsPieces (after.map (·.2))) ∧
      (r.2.back = separatorPieces last → item = tokensIn start r.2.front) := by
  have hnested := h.isNested
  obtain ⟨closing, hclosing, htokens⟩ := exists_closing name (rs.map (·.2.pieces))
  rw [htokens, flatten_pieces] at hclosed hitem
  obtain ⟨-, henclosed, hbody⟩ := splitBody_rowsPieces hnested hclosing hclosed
  obtain ⟨hitem, hne⟩ := List.mem_filter.1 hitem
  rw [hbody] at hitem
  obtain ⟨before', row, after', start, hrows, hstart, hfront, hprefix, hexact⟩ :=
    exists_row_of_mem_splitCommas hnested henclosed hitem (by simpa using hne)
  obtain ⟨before, rest, rfl, rfl, hrest⟩ := List.map_eq_append_iff.1 hrows
  obtain ⟨r, after, rfl, rfl, rfl⟩ := List.map_eq_cons_iff.1 hrest
  obtain ⟨last, hrow, hlast⟩ := h.exists_isRowOf
  refine ⟨before, r, after, start, last, rfl, hrow, ?_, hfront, hprefix, fun hback => hexact ?_⟩
  · rw [hstart, rawText_append, Text.byteSize_append]
  · cases last with
    | true => exact .inr (by rw [hlast rfl]; rfl)
    | false => exact .inl (by rw [hback]; simp [separatorPieces, signPiece, Piece.tokenAt?, Piece.token?])

/-- Where the type of a column ends in a comment, the type that is read is another one. -/
private theorem AreRows.type_ne {before after : List (Line × Row)} {column : Column} {row : Row} {last : Bool}
    {ps : List Piece} {x : Char} {line : List Char}
    (h : AreRows d (before ++ (.column column, row) :: after))
    (hrow : row = ⟨leadPieces column.name ++ (ps ++ [commentPiece column last x line]), []⟩)
    (hcomment : IsCommented d (behindType column.isNullable (follower last)) column.type ps x line)
    {start : Nat} {item : List Token} {c : ColumnDefinition}
    (hstart : start = Text.byteSize (rawText (headPieces name ++ rowsPieces (before.map (·.2)))))
    (hitem : item <+: tokensIn start (row.pieces ++ rowsPieces (after.map (·.2))))
    (hcolumn : readColumn? (String.ofList
      (rawText (rowTablePieces name (before ++ (.column column, row) :: after)))) item = some c) :
    column.name = c.name ∧ c.type ≠ column.type := by
  subst hrow
  have hpieces : Row.pieces ⟨leadPieces column.name ++ (ps ++ [commentPiece column last x line]), []⟩ ++
      rowsPieces (after.map (·.2)) = leadPieces column.name ++
        (ps ++ commentPiece column last x line :: rowsPieces (after.map (·.2))) := by simp [Row.pieces]
  obtain ⟨first, hfirst, heq⟩ := tokensIn_leadPieces start column.name
    (ps ++ commentPiece column last x line :: rowsPieces (after.map (·.2)))
  obtain ⟨more, hmore⟩ := hitem
  rw [hpieces, heq] at hmore
  obtain ⟨item, rfl⟩ : ∃ ts, item = first :: ts := by
    cases item with
    | nil => simp [readColumn?, readName?] at hcolumn
    | cons t ts => exact ⟨ts, by rw [(List.cons.inj hmore).1]⟩
  obtain ⟨hname, next, word, tail, rest, rfl, hnext, htype⟩ := exists_type_of_readColumn? hfirst hcolumn
  have hafter : ∀ r ∈ after, ∃ last, IsRowOf d last r.1 r.2 := fun r hr => h.isRowOf r (by simp [hr])
  have htokens : tokensIn
      (Text.byteSize (rawText (headPieces name ++ rowsPieces (before.map (·.2)) ++ leadPieces column.name)))
      (ps ++ commentPiece column last x line :: rowsPieces (after.map (·.2))) =
        next :: (tail ++ (rest ++ more)) := by
    rw [rawText_append, Text.byteSize_append, ← hstart, ← (List.cons.inj hmore).2]
    simp
  have hne := hcomment.type_ne (show (commentPiece column last x line).kind = .lineComment from rfl) rfl
    (isSelfContained_rowsPieces hafter none) (fun word hword => isBare_first hafter hword) _
    (rawText closePieces) htokens hnext
  refine ⟨hname.symm, fun hsame => hne ?_⟩
  rw [← hsame, htype, rowTablePieces, tablePieces, flatten_pieces]
  simp [rowsPieces, Row.pieces]

/-- A column that is read starts with the line of a column of its name. If that line is not kept, the type
that is read is not the type that was written. -/
theorem AreRows.exists_kept (h : AreRows d rs)
    (hclosed : startsWith .rightParen (splitTopLevel true (bodyTokens name (rs.map (·.2.pieces)))).2)
    {item : List Token} (hitem : item ∈ (splitTopLevel true (bodyTokens name (rs.map (·.2.pieces)))).1)
    {c : ColumnDefinition}
    (hread : readElement? (String.ofList (rawText (rowTablePieces name rs))) item = some (.column c)) :
    ∃ column row, (Line.column column, row) ∈ rs ∧ column.name = c.name ∧
      (c.type = column.type → IsKept row) := by
  obtain ⟨before, ⟨line, row⟩, after, start, last, rfl, hrow, hstart, hfront, hprefix, hexact⟩ :=
    h.exists_row hclosed hitem
  obtain ⟨hstarts, hcolumn⟩ := readElement?_eq_column hread
  have hmem (column : Column) : (Line.column column, row) ∈ before ++ (.column column, row) :: after := by
    simp
  cases hrow with
  | @column column ps htype =>
    obtain rfl := hexact rfl
    have hkept : IsKept ⟨columnPieces column ps, separatorPieces last⟩ :=
      ⟨isUncommented_columnPieces htype last, by rwa [startsConstraint_tokensIn] at hstarts⟩
    obtain ⟨first, hfirst, heq⟩ := tokensIn_leadPieces start column.name (ps ++ optionPieces column.isNullable)
    rw [columnPieces, heq] at hcolumn
    obtain ⟨hname, -⟩ := exists_type_of_readColumn? hfirst hcolumn
    exact ⟨column, _, hmem column, hname.symm, fun _ => hkept⟩
  | @commented column ps x line hcomment =>
    obtain ⟨hname, hne⟩ := h.type_ne rfl hcomment hstart hprefix hcolumn
    exact ⟨column, _, hmem column, hname, fun hsame => absurd hsame hne⟩
  | key hline hkey => simp [startsConstraint_of_isKeyLine hkey hfront] at hstarts

end Items

section Tables

variable {d : Dialect} {t : Table} {rs : List (Line × Row)}

/-- What is read of an exported table whose lines are cut into the given rows. -/
def rereadTable? (t : Table) (rs : List (Line × Row)) : Option Table :=
  ((bodyStatement? (String.ofList (compact t)) t.name (bodyTokens t.name (rs.map (·.2.pieces)))).bind
    Statement.create?).map fun s => s.draft.table

/-- The statement of an exported table whose lines are cut into the given rows. -/
theorem AreRows.readStatements (h : AreRows d rs) (hlines : rs.map (·.1) = lines t) :
    ∃ ts, tokenize d (String.ofList (compact t)) = .ok ts ∧ IsClosed d (String.ofList (compact t)) ts ∧
      SqlSchema.readStatements (String.ofList (compact t)) ts = (bodyStatement? (String.ofList (compact t))
        t.name (bodyTokens t.name (rs.map (·.2.pieces)))).toList := by
  have hend : ∀ u ∈ bodyTokens t.name (rs.map (·.2.pieces)), u.endsStatement = false := by
    obtain ⟨closing, hclosing, htokens⟩ := exists_closing t.name (rs.map (·.2.pieces))
    intro u hu
    rw [htokens, flatten_pieces] at hu
    rcases List.mem_append.1 hu with hu | hu
    · exact endsStatement_of_mem_rowsPieces h.isNested u hu
    · obtain rfl := List.mem_singleton.1 hu
      simp [Token.endsStatement, hclosing]
  have hstatements := readStatements_tablePieces t.name h.isSelfContained hend
  rwa [← rowTablePieces, rawText_rowTablePieces h hlines] at hstatements

theorem rereadTable?_eq_some {t' : Table} (h : rereadTable? t rs = some t') :
    startsWith .rightParen (splitTopLevel true (bodyTokens t.name (rs.map (·.2.pieces)))).2 ∧
      (CreateTable.mk t.name ((splitTopLevel true (bodyTokens t.name (rs.map (·.2.pieces)))).1.filterMap
        (readElement? (String.ofList (compact t))))).draft.table = t' := by
  obtain ⟨s, hs, rfl⟩ := Option.map_eq_some_iff.1 h
  obtain ⟨statement, hstatement, hs⟩ := Option.bind_eq_some_iff.1 hs
  unfold bodyStatement? at hstatement
  split at hstatement
  · next hclosed =>
    obtain rfl := Option.some.inj hstatement
    obtain rfl := Option.some.inj hs
    exact ⟨hclosed, rfl⟩
  · cases hstatement

theorem mem_columns (hlines : rs.map (·.1) = lines t) {c : Column} {row : Row}
    (h : (Line.column c, row) ∈ rs) : c ∈ t.columns := by
  have hline : Line.column c ∈ lines t := hlines ▸ List.mem_map_of_mem h
  simpa [lines] using hline

private theorem row_unique (hlines : rs.map (·.1) = lines t) (hnames : (t.columns.map (·.name)).Nodup)
    {c c' : Column} {row row' : Row} (h : (Line.column c, row) ∈ rs) (h' : (Line.column c', row') ∈ rs)
    (hname : c.name = c'.name) : c = c' ∧ row = row' := by
  obtain ⟨columns, keys, rfl, hcolumns, hkeys⟩ := List.map_eq_append_iff.1 hlines
  have hmem {c : Column} {row : Row} (h : (Line.column c, row) ∈ columns ++ keys) :
      (Line.column c, row) ∈ columns := by
    rcases List.mem_append.1 h with h | h
    · exact h
    · have hline : Line.column c ∈ (keyLines t).map fun line => Line.key line.1 line.2 :=
        hkeys ▸ List.mem_map_of_mem h
      simp at hline
  have hnodup : (columns.map (·.1.name)).Nodup := by
    have heq : columns.map (·.1.name) = t.columns.map (·.name) := by
      have key := congrArg (List.map Line.name) hcolumns
      simpa [Line.name, Function.comp_def] using key
    rwa [heq]
  have key := List.inj_on_of_nodup_map hnodup (hmem h) (hmem h') hname
  simpa using key

theorem isKept_of_rereadTable? (h : AreRows d rs) (hlines : rs.map (·.1) = lines t)
    (hnames : (t.columns.map (·.name)).Nodup) (hreread : rereadTable? t rs = some t) {c : Column}
    {row : Row} (hrow : (Line.column c, row) ∈ rs) : IsKept row := by
  obtain ⟨hclosed, htable⟩ := rereadTable?_eq_some hreread
  have hc := mem_columns hlines hrow
  rw [← htable] at hc
  obtain ⟨definition, hdefinition, hname, htype⟩ := CreateTable.exists_column hc
  obtain ⟨item, hitem, hread⟩ := List.mem_filterMap.1 hdefinition
  rw [← rawText_rowTablePieces h hlines] at hread
  obtain ⟨column, row', hrow', hname', hkept⟩ := h.exists_kept hclosed hitem hread
  obtain ⟨rfl, rfl⟩ := row_unique hlines hnames hrow hrow' (by rw [← hname, hname'])
  exact hkept htype

end Tables

end Ddl

end SqlSchema
