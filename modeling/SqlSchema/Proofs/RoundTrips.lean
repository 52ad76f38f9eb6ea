import Mathlib.Tactic.Choose
import SqlSchema.Proofs.RereadTables
import SqlSchema.Proofs.SourceSchemas
/-!
# Round trips

What is exported of a schema that was read can be read again, unless one of its types holds a literal that
is cut short. It reads as the same tables exactly if none of its types ends in a comment and none of its
columns starts like a constraint.
-/
namespace SqlSchema.Ddl

section Lines

variable {d : Dialect}

/-- A lone `#` behind a name makes no difference to whether a constraint starts with the name. -/
private theorem startsConstraint_hash {t u : Token} (hu : u.kind = .word "#") :
    startsConstraint [t, u] = startsConstraint [t] := by
  obtain ⟨kind, start, stop⟩ := u
  subst hu
  have htypes : Token.isOneOf typeNames ⟨.word "#", start, stop⟩ = false :=
    show (typeNames.any fun k => Text.isKeyword k "#") = false by decide
  simp only [startsConstraint, behind?, opensConstraint, htypes]
  split <;> simp

private theorem scan_hash (d : Dialect) : scan d ['#'] = ([⟨.lineComment, ['#']⟩], []) := by
  have hlexeme : Piece.Lexeme d ⟨.lineComment, '#' :: [] ++ []⟩ none :=
    .lineComment (by simp) (.inr ⟨rfl, by simp [Piece.hashOpensComment]⟩) (.inr ⟨rfl, rfl⟩)
  have hlexemes : Lexemes d [⟨.lineComment, ['#']⟩] none := ⟨hlexeme, trivial⟩
  exact scan_rawText hlexemes

private theorem lexemes_none {ps : List Piece} {next : Char} (h : Lexemes d ps (some next))
    (hnext : Text.isBlank next) (huncommented : IsUncommented ps) : Lexemes d ps none := by
  refine h.before (.inr ⟨by simpa using hnext, rfl⟩) fun p hp => ?_
  have hmem := List.mem_of_getLast? hp
  simp only [Piece.isComplete, Bool.and_eq_true, bne_iff_ne, Bool.not_eq_true']
  exact ⟨⟨huncommented p hmem, h.kind_ne p hmem⟩, h.isCut p hmem⟩

private theorem tokensIn_hash {next : Char} {ps : List Piece} (h : IsType d next "#" ps) (offset : Nat) :
    ∃ u : Token, u.kind = .word "#" ∧ tokensIn offset ps = [u] := by
  have hraw : rawText ps = ['#'] := h.raw
  obtain ⟨u, word, tail, htokens, hu, -⟩ := h.tokens
  have hlexemes := h.lexemes
  cases ps with
  | nil => simp at hraw
  | cons p ps =>
    have hp := hlexemes.1
    obtain ⟨x, xs, hx⟩ := List.exists_cons_of_ne_nil hp.raw_ne_nil
    rw [rawText_cons, hx, List.cons_append, List.cons.injEq, List.append_eq_nil_iff] at hraw
    obtain ⟨rfl, rfl, hnil⟩ := hraw
    cases ps with
    | cons q ps =>
      rw [rawText_cons, List.append_eq_nil_iff] at hnil
      exact absurd hnil.1 hlexemes.2.1.raw_ne_nil
    | nil =>
      have hkinds := congrArg (List.map (·.kind)) htokens
      rw [kind_tokensIn, List.map_cons, hu] at hkinds
      cases hkind : p.token? with
      | none => simp [hkind] at hkinds
      | some kind =>
        obtain ⟨rfl, -⟩ : kind = .word word ∧ tail = [] := by simpa [hkind] using hkinds
        have hword : word.toList = ['#'] := by rw [← hp.raw_of_word hkind, hx]
        obtain rfl : word = "#" := String.toList_injective hword
        exact ⟨⟨.word "#", offset, offset + p.size⟩, rfl, by simp [Piece.tokenAt?, hkind]⟩

theorem startsConstraint_columnLine {last : Bool} {c : Column} {ps : List Piece}
    (h : IsType d (behindType c.isNullable (follower last)) c.type ps) :
    startsConstraint (tokensIn 0 (scan d (columnLine c).toList).1) =
      startsConstraint (tokensIn 0 (columnPieces c ps)) := by
  have hraw := rawText_columnPieces c h.raw
  have key (hblank : IsType d (behindType c.isNullable '\n') c.type ps) :
      startsConstraint (tokensIn 0 (scan d (columnLine c).toList).1) =
        startsConstraint (tokensIn 0 (columnPieces c ps)) := by
    have hlexemes := lexemes_none (lexemes_columnPieces rfl hblank) rfl
      (isUncommented_append.1 (isUncommented_columnPieces h last)).1
    rw [← hraw, scan_rawText hlexemes]
  cases hn : c.isNullable with
  | false =>
    rw [hn] at h key
    exact key h
  | true =>
    rw [hn] at h key
    by_cases hhash : c.type = "#"
    · rw [hhash] at h
      have hpieces : columnPieces c ps = leadPieces c.name ++ ps := by
        simp [columnPieces, optionPieces, hn]
      have htext : (columnLine c).toList = rawText (leadPieces c.name) ++ ['#'] := by
        rw [← hraw, hpieces, rawText_append, h.raw]
        rfl
      obtain ⟨u, hu, hps⟩ := tokensIn_hash h (0 + Text.byteSize (rawText (leadPieces c.name)))
      have hlead : ∃ first : Token, tokensIn 0 (leadPieces c.name) = [first] :=
        ⟨⟨nameKind c.name, _, _⟩, rfl⟩
      obtain ⟨first, hfirst⟩ := hlead
      rw [htext, scan_append _ (isSelfContained_leadPieces d c.name _), scan_hash, hpieces, tokensIn_append,
        tokensIn_append, hps, hfirst]
      exact (startsConstraint_hash hu).symm
    · exact key (h.before rfl fun he => absurd he hhash)

end Lines

section Tables

variable {d : Dialect} {t : Table} {rs : List (Line × Row)}

/-- A table that was read, with the rows that its lines are cut into. -/
structure HasRows (d : Dialect) (t : Table) (rs : List (Line × Row)) : Prop where
  within : t.Within solid
  keys : t.HasKeys
  rows : AreRows d rs
  eq_lines : rs.map (·.1) = lines t

theorem solid_of_sourced (h : t.Within (sourced d)) : t.Within solid := by
  refine ⟨h.name, fun c hc => ?_⟩
  have hw := h.columns c hc
  obtain ⟨run, hrun⟩ := hw.type
  have htype : Text.collapse c.type = c.type := by
    rw [hrun.type, Text.collapse_collapse]
  exact ⟨hw.name, htype, hw.reference⟩

theorem exists_hasRows (h : t.Within (sourced d)) (hkeys : t.HasKeys)
    (hcut : ∀ c ∈ t.columns, ∀ p ∈ (scan d c.type.toList).1, p.isCut = false) :
    ∃ rs, HasRows d t rs := by
  obtain ⟨rs, hlines, hrows⟩ := exists_areRows fun line (hline : line ∈ lines t) last => by
    rcases List.mem_append.1 hline with hline | hline
    · obtain ⟨c, hc, rfl⟩ := List.mem_map.1 hline
      obtain ⟨run, hrun⟩ := (h.columns c hc).type
      rcases hrun.isType_or_isCommented (hcut c hc) (isSeam_behindType c.isNullable last) with
        ⟨ps, hps⟩ | ⟨ps, x, line, hps⟩
      · exact ⟨_, .column hps⟩
      · exact ⟨_, .commented hps⟩
    · obtain ⟨key, hkey, rfl⟩ := List.mem_map.1 hline
      exact ⟨_, .key (isLine_keyLines d (follower last) t key hkey) (isKeyLine_keyLines t key hkey)⟩
  exact ⟨rs, solid_of_sourced h, hkeys, hrows, hlines⟩

theorem IsRowOf.isKept_iff {last : Bool} {c : Column} {row : Row} (h : IsRowOf d last (.column c) row) :
    IsKept row ↔ IsUncommented row.pieces ∧
      startsConstraint (tokensIn 0 (scan d (columnLine c).toList).1) = false := by
  cases h with
  | column htype =>
    rw [startsConstraint_columnLine htype]
    exact ⟨fun hkept => ⟨hkept.uncommented, hkept.column⟩, fun hkept => ⟨hkept.1, hkept.2⟩⟩
  | commented =>
    constructor
    · exact fun hkept => absurd hkept.uncommented not_isUncommented_commentPiece
    · exact fun hkept => absurd hkept.1 not_isUncommented_commentPiece

theorem isUncommented_rowTablePieces (name : String) (rs : List (Line × Row)) :
    IsUncommented (rowTablePieces name rs) ↔ ∀ r ∈ rs, IsUncommented r.2.pieces := by
  have hhead : IsUncommented (headPieces name) := by
    simp [IsUncommented, headPieces, wordPiece, blankPiece, namePiece, signPiece]
  have hclose : IsUncommented closePieces := by simp [IsUncommented, closePieces, signPiece]
  rw [rowTablePieces, tablePieces, isUncommented_append, isUncommented_append]
  simp only [hhead, hclose, true_and, and_true]
  simp only [IsUncommented, List.mem_flatten, List.mem_map]
  constructor
  · exact fun h r hr p hp => h p ⟨_, ⟨r, hr, rfl⟩, hp⟩
  · rintro h p ⟨_, ⟨r, hr, rfl⟩, hp⟩
    exact h r hr p hp

private theorem HasRows.exists_row (h : HasRows d t rs) {c : Column} (hc : c ∈ t.columns) :
    ∃ row, (Line.column c, row) ∈ rs := by
  have hline : Line.column c ∈ rs.map (·.1) := by
    rw [h.eq_lines]
    exact List.mem_append_left _ (List.mem_map_of_mem hc)
  obtain ⟨⟨line, row⟩, hmem, rfl⟩ := List.mem_map.1 hline
  exact ⟨row, hmem⟩

private theorem isUncommented_separatorPieces (last : Bool) : IsUncommented (separatorPieces last) := by
  cases last <;> simp [IsUncommented, separatorPieces, blankPiece, signPiece]

/-- A table is read back as it is exactly if no line of it ends in a comment and no column of it starts
like a constraint. -/
theorem HasRows.rereadTable?_eq_self_iff (h : HasRows d t rs) : rereadTable? t rs = some t ↔
    IsUncommented (rowTablePieces t.name rs) ∧ ∀ c ∈ t.columns,
      startsConstraint (tokensIn 0 (scan d (columnLine c).toList).1) = false := by
  obtain ⟨hnames, hflags⟩ := h.keys
  rw [isUncommented_rowTablePieces]
  constructor
  · intro hreread
    have hkept {c : Column} {row : Row} (hrow : (Line.column c, row) ∈ rs) : IsKept row :=
      isKept_of_rereadTable? h.rows h.eq_lines hnames hreread hrow
    refine ⟨fun r hr => ?_, fun c hc => ?_⟩
    · obtain ⟨last, hrow⟩ := h.rows.isRowOf r hr
      obtain ⟨line, row⟩ := r
      cases hrow with
      | column => exact (hkept hr).uncommented
      | commented => exact (hkept hr).uncommented
      | key hline hkey =>
        exact isUncommented_append.2 ⟨hkey.uncommented, isUncommented_separatorPieces last⟩
    · obtain ⟨row, hmem⟩ := h.exists_row hc
      obtain ⟨last, hrow⟩ := h.rows.isRowOf _ hmem
      exact (hrow.isKept_iff.1 (hkept hmem)).2
  · rintro ⟨huncommented, hcolumns⟩
    have hkept : ∀ r ∈ rs, ∀ c, r.1 = .column c → IsKept r.2 := by
      rintro ⟨line, row⟩ hr c rfl
      obtain ⟨last, hrow⟩ := h.rows.isRowOf _ hr
      exact hrow.isKept_iff.2 ⟨huncommented _ hr, hcolumns c (mem_columns h.eq_lines hr)⟩
    obtain ⟨ls, hbody, hraw, helements⟩ := h.rows.exists_lines h.eq_lines hkept
    obtain ⟨ts, hts, -, hread⟩ := readStatements_compact hbody hraw
    obtain ⟨us, hus, -, hread'⟩ := h.rows.readStatements h.eq_lines
    obtain rfl := Except.ok.inj (hts.symm.trans hus)
    rw [hread, helements] at hread'
    have hstatement := Option.toList_eq_singleton_iff.1 hread'.symm
    rw [rereadTable?, hstatement, Option.bind_some]
    exact congrArg some (draft_elements_table hnames hflags).1

end Tables

section Schemas

variable {d : Dialect} {rows : Table → List (Line × Row)}

private theorem filterMap_eq_self_iff {α : Type} {f : α → Option α} {xs : List α} :
    xs.filterMap f = xs ↔ ∀ x ∈ xs, f x = some x := by
  induction xs with
  | nil => simp
  | cons x xs ih =>
    cases hx : f x with
    | none =>
      have hne : xs.filterMap f ≠ x :: xs := fun heq => by
        have hle := List.length_filterMap_le f xs
        rw [heq, List.length_cons] at hle
        omega
      rw [List.filterMap_cons_none hx]
      exact ⟨fun heq => absurd heq hne, fun h => by simp [hx] at h⟩
    | some y =>
      rw [List.filterMap_cons_some hx, List.cons.injEq, ih]
      simp [hx]

private theorem exists_pieces {tables : List Table} (h : ∀ t ∈ tables, HasRows d t (rows t)) :
    ∃ ps, rawText ps = ['\n'].intercalate (tables.map compact) ∧ IsSelfContained d ps ∧
      (IsUncommented ps ↔ ∀ t ∈ tables, IsUncommented (rowTablePieces t.name (rows t))) := by
  induction tables with
  | nil => exact ⟨[], rfl, fun _ => trivial, by simp [IsUncommented]⟩
  | cons t tables ih =>
    have ht := h t (by simp)
    have hraw := rawText_rowTablePieces ht.rows ht.eq_lines
    have hself : IsSelfContained d (rowTablePieces t.name (rows t)) :=
      isSelfContained_tablePieces t.name ht.rows.isSelfContained
    cases tables with
    | nil => exact ⟨_, by simpa using hraw, hself, by simp⟩
    | cons next tables =>
      obtain ⟨ps, hps, hpself, hiff⟩ := ih fun u hu => h u (by simp [hu])
      refine ⟨rowTablePieces t.name (rows t) ++ ([blankPiece '\n'] ++ ps), ?_,
        hself.append ((isSelfContained_blankPiece d rfl).append hpself), ?_⟩
      · rw [List.map_cons, List.map_cons, List.intercalate_cons_cons, ← List.map_cons, ← hps, ← hraw]
        simp [blankPiece]
      · have hblank : IsUncommented [blankPiece '\n'] := by simp [IsUncommented, blankPiece]
        rw [isUncommented_append, isUncommented_append, hiff]
        simp [hblank]

private theorem scan_render {s : Schema} (h : ∀ t ∈ s.tables, HasRows d t (rows t)) :
    IsUncommented (scan d (Text.normalize (render s)).toList).1 ↔
      ∀ t ∈ s.tables, IsUncommented (rowTablePieces t.name (rows t)) := by
  obtain ⟨ps, hraw, hself, hiff⟩ := exists_pieces h
  rw [normalize_render fun t ht => (h t ht).within, String.toList_ofList, ← hraw, scan_rawText (hself none)]
  exact hiff

private theorem pendingConstraints_bodyStatements {tables : List Table} {source : Table → String}
    {ts : Table → List Token} :
    pendingConstraints (tables.flatMap fun t => (bodyStatement? (source t) t.name (ts t)).toList) = [] := by
  have halter : ∀ statement ∈ tables.flatMap fun t => (bodyStatement? (source t) t.name (ts t)).toList,
      statement.alter? = none := by
    intro statement hstatement
    obtain ⟨t, -, hmem⟩ := List.mem_flatMap.1 hstatement
    have hbody := Option.mem_toList.1 hmem
    unfold bodyStatement? at hbody
    split at hbody
    · obtain rfl := Option.some.inj hbody
      rfl
    · cases hbody
  rw [pendingConstraints, List.filterMap_eq_nil_iff.2 halter]
  rfl

private theorem readSchema_rows {s : Schema} (h : ∀ t ∈ s.tables, HasRows d t (rows t)) (hd : d ≠ .auto)
    {n : Nat} (hsize : (render s).utf8ByteSize ≤ n) :
    ∃ s', readSchema ⟨d, false, n⟩ (render s) = .ok s' ∧
      s'.tables = s.tables.filterMap fun t => rereadTable? t (rows t) := by
  obtain ⟨ts, hts, hread⟩ := readStatements_intercalate
    fun t ht => (h t ht).rows.readStatements (h t ht).eq_lines
  rw [← normalize_render fun t ht => (h t ht).within] at hts hread
  refine ⟨schemaOf false (readStatements (Text.normalize (render s)) ts), ?_, ?_⟩
  · rw [readSchema, Script.read, if_neg (by simpa using hsize)]
    simp only [resolve_of_ne_auto hd, hts, Except.map, Script.statements]
  · rw [hread, schemaOf, pendingConstraints_bodyStatements]
    simp only [Schema.reconcile, List.foldl_nil, Bool.false_eq_true, if_false, declaredSchema,
      ← List.filterMap_eq_flatMap_toList, List.filterMap_filterMap, List.map_filterMap, Option.map_map]
    rfl

/-- What is exported of a schema that was read is read again. It reads as the same tables exactly if none of
its comments runs to the end of a line and no line of a column starts like a constraint. The types must not
hold a literal that is cut short: the export of other schemas may not be readable at all
(`readSchema_render_cut`). -/
theorem readSchema_render_iff {options : ReadOptions} {input : String} {s : Schema}
    (h : readSchema options input = .ok s) (hd : options.dialect ≠ .auto) {n : Nat}
    (hsize : (render s).utf8ByteSize ≤ n)
    (hcut : ∀ t ∈ s.tables, ∀ c ∈ t.columns, ∀ p ∈ (scan options.dialect c.type.toList).1,
      p.isCut = false) :
    ∃ s', readSchema ⟨options.dialect, false, n⟩ (render s) = .ok s' ∧
      (s'.tables = s.tables ↔
        IsUncommented (scan options.dialect (Text.normalize (render s)).toList).1 ∧
        ∀ t ∈ s.tables, ∀ c ∈ t.columns,
          startsConstraint (tokensIn 0 (scan options.dialect (columnLine c).toList).1) = false) := by
  have hkeys : ∀ t ∈ s.tables, t.HasKeys := by
    obtain ⟨ts, -, rfl⟩ := readSchema_eq_ok h
    exact schemaOf_hasKeys _ _
  have hsourced := readSchema_sourced h
  rw [resolve_of_ne_auto hd] at hsourced
  choose! rows hrows using fun t (ht : t ∈ s.tables) =>
    exists_hasRows (hsourced t ht) (hkeys t ht) (hcut t ht)
  obtain ⟨s', hs', htables⟩ := readSchema_rows hrows hd hsize
  refine ⟨s', hs', ?_⟩
  rw [htables, filterMap_eq_self_iff, scan_render hrows, ← forall₂_and]
  exact forall₂_congr fun t ht => (hrows t ht).rereadTable?_eq_self_iff

theorem readSchema_render_iff_orders :
    ∃ s s', readSchema ReadOptions.default
        "CREATE TABLE o (id INT PRIMARY KEY, \"unique\" VARCHAR('a -- b' /* c */))" = .ok s ∧
      s.tables ≠ [] ∧ readSchema ⟨.generic, false, 1000⟩ (render s) = .ok s' ∧
      (s'.tables = s.tables ↔
        IsUncommented (scan .generic (Text.normalize (render s)).toList).1 ∧
        ∀ t ∈ s.tables, ∀ c ∈ t.columns,
          startsConstraint (tokensIn 0 (scan .generic (columnLine c).toList).1) = false) := by
  have h : readSchema ReadOptions.default
      "CREATE TABLE o (id INT PRIMARY KEY, \"unique\" VARCHAR('a -- b' /* c */))" = .ok
        ⟨[⟨"o", [⟨"id", "INT", true, false, true, none⟩,
          ⟨"unique", "VARCHAR('a -- b' /* c */)", false, false, true, none⟩]⟩], []⟩ := by
    refine readSchema_ofList (d := .generic) rfl (by decide) (by decide) (by with_unfolding_all decide) ?_
    decide +kernel
  obtain ⟨s', hs', hiff⟩ := readSchema_render_iff h (by decide) (n := 1000) (by decide)
    (by with_unfolding_all decide)
  exact ⟨_, s', h, by simp, hs', hiff⟩

/-- A column whose name is a keyword is exported without quotes and read back as a constraint. -/
theorem readSchema_render_check :
    ∃ s s', readSchema ReadOptions.default "CREATE TABLE t (\"check\" foo)" = .ok s ∧
      readSchema ReadOptions.default (render s) = .ok s' ∧ s'.tables ≠ s.tables := by
  refine ⟨⟨[⟨"t", [⟨"check", "foo", false, false, true, none⟩]⟩], []⟩, ⟨[⟨"t", []⟩], []⟩, ?_, ?_, ?_⟩
  · refine readSchema_ofList (d := .generic) rfl (by decide) (by decide) (by with_unfolding_all decide) ?_
    with_unfolding_all decide
  · decide +kernel
  · decide

/-- A literal that is cut short in the script takes in more lines of the export, and the identifier that it
ends in is never closed. -/
theorem readSchema_render_cut :
    ∃ s, readSchema ReadOptions.default
        "CREATE TABLE t (FOREIGN KEY (a) REFERENCES \"u'v\" (x), a T('y\n))" = .ok s ∧
      readSchema ReadOptions.default (render s) = .error (.unterminatedIdentifier ⟨3, 34⟩) := by
  refine ⟨⟨[⟨"t", [⟨"a", "T('y )", false, true, true, some ⟨"u'v", "x"⟩⟩]⟩],
    [.oneToMany "t" "a" "u'v" "x"]⟩, ?_, ?_⟩
  · refine readSchema_ofList (d := .generic) rfl (by decide) (by decide) (by with_unfolding_all decide) ?_
    with_unfolding_all decide
  · with_unfolding_all decide

end Schemas

end SqlSchema.Ddl
