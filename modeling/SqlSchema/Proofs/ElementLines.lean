import SqlSchema.Proofs.Lists
/-!
# Lines of keys and columns

The lines of a primary key and of a foreign key read as these keys, and the line of a column reads as
that column if its type can be read on its own and the line does not start like a constraint.
-/
namespace SqlSchema.Ddl

section Keys

/-- Two blanks, two keywords and a blank. -/
def keywordPieces (first second : String) : List Piece :=
  [blankPiece ' ', blankPiece ' ', wordPiece first, blankPiece ' ', wordPiece second, blankPiece ' ']

theorem isSelfContained_keywordPieces (d : Dialect) {first second : String}
    (hfirst : isBare first.toList) (hsecond : isBare second.toList) :
    IsSelfContained d (keywordPieces first second) := by
  have hblank := isSelfContained_space d
  exact hblank.append (hblank.append (isSelfContained_phrasePieces d hfirst hsecond))

theorem tokensIn_keywordPieces (first second : String) (rest : List Piece) :
    ∃ t u : Token, ∃ place : Nat, t.kind = .word first ∧ u.kind = .word second ∧
      tokensIn 0 (keywordPieces first second ++ rest) = t :: u :: tokensIn place rest :=
  ⟨⟨.word first, _, _⟩, ⟨.word second, _, _⟩, _, rfl, rfl, rfl⟩

theorem opensConstraint_key {t u : Token} {keyword : String} (ht : t.kind = .word keyword)
    (hu : u.kind = .word "KEY") (hkeyword : keyword = "PRIMARY" ∨ keyword = "FOREIGN") (ts : List Token) :
    opensConstraint (t :: u :: ts) := by
  obtain ⟨kind, start, stop⟩ := u
  subst hu
  rcases hkeyword with rfl | rfl <;>
  · simp [opensConstraint, Token.isOneOf, Token.isWord, ht, Text.isKeyword, elementKeywords,
      typeNames, constraintFollowers]

private theorem readElement?_key (source : String) {t u : Token} {keyword : String}
    (ht : t.kind = .word keyword) (hu : u.kind = .word "KEY")
    (hkeyword : keyword = "PRIMARY" ∨ keyword = "FOREIGN") (ts : List Token) :
    readElement? source (t :: u :: ts) = readKey? (t :: u :: ts) := by
  have hname : behindConstraintName? (t :: u :: ts) = some (t :: u :: ts) := by
    rcases hkeyword with rfl | rfl <;>
    · simp [behindConstraintName?, behind?, Token.isWord, ht, Text.isKeyword]
  rw [readElement?, opensConstraint_key ht hu hkeyword, Bool.or_true, if_pos rfl, readConstraint?_eq,
    hname, Option.bind_some]

def primaryKeyPieces (names : List String) : List Piece :=
  keywordPieces "PRIMARY" "KEY" ++ nameGroup names

theorem isLine_primaryKey (d : Dialect) (next : Char) (names : List String) :
    IsLine d next (primaryKeyPieces names) (.primaryKey names) := by
  obtain ⟨t, u, place, ht, hu, heq⟩ := tokensIn_keywordPieces "PRIMARY" "KEY" (nameGroup names)
  refine ⟨?_, ?_, ?_, ?_⟩
  · exact (isSelfContained_keywordPieces d rfl rfl).append (isSelfContained_nameGroup d names) _
  · rw [primaryKeyPieces, heq, enclosed_cons_of_isOrdinary (isOrdinary_of_word ht),
      enclosed_cons_of_isOrdinary (isOrdinary_of_word hu)]
    exact enclosed_nameGroup place names
  · rw [primaryKeyPieces, heq]
    simp
  · have hlist := readColumnList?_nameGroup place names []
    rw [List.append_nil] at hlist
    have hskip : skipOneOf [["CLUSTERED"], ["NONCLUSTERED"]] (tokensIn place (nameGroup names)) =
        tokensIn place (nameGroup names) := by
      obtain ⟨opening, rest, hopen, hgroup⟩ := tokensIn_nameGroup place names
      simp [hgroup, skipOneOf, behindOneOf?, behind?, Token.isWord, hopen]
    rw [primaryKeyPieces, heq, readElement?_key _ ht hu (.inl rfl), readKey?]
    simp only [behind?, Token.isWord, ht, hu]
    rw [if_pos (by rfl), if_pos (by rfl)]
    simp [readPrimaryKey?, hskip, hlist]

/-- What a foreign key refers to. -/
def targetPieces (table column : String) : List Piece :=
  [blankPiece ' ', wordPiece "REFERENCES", blankPiece ' ', namePiece table] ++ nameGroup [column]

theorem isSelfContained_targetPieces (d : Dialect) (table column : String) :
    IsSelfContained d (targetPieces table column) := by
  apply (isSelfContained_space d).append
  apply (isSelfContained_keyword d rfl).append
  exact isSelfContained_cons (c := '(') (fun _ hn => lexeme_namePiece d table hn) rfl rfl
    (isSelfContained_nameGroup d [column])

theorem tokensIn_targetPieces (offset : Nat) (table column : String) :
    ∃ t u : Token, ∃ place : Nat, t.kind = .word "REFERENCES" ∧ u.kind = nameKind table ∧
      tokensIn offset (targetPieces table column) = t :: u :: tokensIn place (nameGroup [column]) :=
  ⟨⟨.word "REFERENCES", _, _⟩, ⟨nameKind table, _, _⟩, _, rfl, rfl, rfl⟩

private theorem readTarget?_targetPieces {t : Token} {table : String} (ht : t.kind = nameKind table)
    (columns : List String) (place : Nat) (column : String) :
    readTarget? columns (t :: tokensIn place (nameGroup [column])) =
      some ⟨columns, table, [column]⟩ := by
  have hname : t.name? = some table := by
    rw [← name?_nameKind table t.start t.stop, ← ht]
  have hlist := readColumnList?_nameGroup place [column] []
  rw [List.append_nil] at hlist
  have hdotted : readDottedName (t :: tokensIn place (nameGroup [column])) =
      (some table, tokensIn place (nameGroup [column])) := by
    obtain ⟨opening, rest, hopen, hgroup⟩ := tokensIn_nameGroup place [column]
    simp [hgroup, readDottedName, hname, hopen]
  simp [readTarget?, hdotted, hlist]

def foreignKeyPieces (name table column : String) : List Piece :=
  keywordPieces "FOREIGN" "KEY" ++ (nameGroup [name] ++ targetPieces table column)

theorem isLine_foreignKey (d : Dialect) (next : Char) (name table column : String) :
    IsLine d next (foreignKeyPieces name table column) (.foreignKey ⟨[name], table, [column]⟩) := by
  obtain ⟨t, u, place, ht, hu, heq⟩ := tokensIn_keywordPieces "FOREIGN" "KEY"
    (nameGroup [name] ++ targetPieces table column)
  rw [tokensIn_append place] at heq
  obtain ⟨r, v, place', hr, hv, htarget⟩ :=
    tokensIn_targetPieces (place + Text.byteSize (rawText (nameGroup [name]))) table column
  rw [htarget] at heq
  refine ⟨?_, ?_, ?_, ?_⟩
  · exact (isSelfContained_keywordPieces d rfl rfl).append
      ((isSelfContained_nameGroup d [name]).append (isSelfContained_targetPieces d table column)) _
  · rw [foreignKeyPieces, heq, enclosed_cons_of_isOrdinary (isOrdinary_of_word ht),
      enclosed_cons_of_isOrdinary (isOrdinary_of_word hu)]
    refine (enclosed_nameGroup place [name]).append ?_
    rw [enclosed_cons_of_isOrdinary (isOrdinary_of_word hr),
      enclosed_cons_of_isOrdinary (isOrdinary_of_nameKind hv)]
    exact enclosed_nameGroup place' [column]
  · rw [foreignKeyPieces, heq]
    simp
  · have hstarts (rest : List Token) :
        startsWith .leftParen (tokensIn place (nameGroup [name]) ++ rest) := by
      obtain ⟨opening, _, hopen, hgroup⟩ := tokensIn_nameGroup place [name]
      simp [hgroup, startsWith, hopen]
    rw [foreignKeyPieces, heq, readElement?_key _ ht hu (.inr rfl), readKey?]
    simp only [behind?, Token.isWord, ht, hu]
    rw [if_neg (by decide), if_pos (by rfl), if_pos (by rfl), Option.bind_some, readForeignKey?_eq,
      behindIndexName?, if_pos (hstarts _), Option.bind_some,
      readColumnList?_nameGroup, Option.bind_some]
    simp only [behind?, Token.isWord, hr]
    rw [if_pos (by rfl), Option.bind_some, readTarget?_targetPieces hv, Option.map_some]

end Keys

section Columns

/-- The pieces of a type that is read in full, with `next` behind it. -/
structure IsType (d : Dialect) (next : Char) (type : String) (ps : List Piece) : Prop where
  raw : rawText ps = type.toList
  lexemes : Lexemes d ps (some next)
  run : IsRun ps
  tokens : ∃ next word tail, tokensIn 0 ps = next :: tail ∧ next.kind = .word word ∧
    readTypeTail tail = (tail, []) ∧ Enclosed tail
  collapsed : Text.collapse type = type

/-- What follows the type of a column. -/
def optionPieces (nullable : Bool) : List Piece :=
  if nullable then [] else [blankPiece ' ', wordPiece "NOT", blankPiece ' ', wordPiece "NULL"]

/-- The character behind the type of a column, in a line with `next` behind it. -/
def behindType (nullable : Bool) (next : Char) : Char := if nullable then next else ' '

/-- What stands in front of the type of a column. -/
def leadPieces (name : String) : List Piece :=
  [blankPiece ' ', blankPiece ' ', namePiece name, blankPiece ' ']

def columnPieces (c : Column) (ps : List Piece) : List Piece :=
  leadPieces c.name ++ (ps ++ optionPieces c.isNullable)

/-- The column definition that a column is written as. -/
def definition (c : Column) : ColumnDefinition := ⟨c.name, c.type, false, !c.isNullable, none⟩

/-- Whether the tokens of an element start like a constraint. -/
def startsConstraint (ts : List Token) : Bool := (behind? ["CONSTRAINT"] ts).isSome || opensConstraint ts

theorem rawText_columnPieces (c : Column) {ps : List Piece} (h : rawText ps = c.type.toList) :
    rawText (columnPieces c ps) = (columnLine c).toList := by
  cases hn : c.isNullable <;>
    simp [columnPieces, leadPieces, columnLine, optionPieces, blankPiece, wordPiece, hn, h]

theorem tokensIn_columnPieces (c : Column) (ps : List Piece) :
    ∃ first : Token, first.kind = nameKind c.name ∧ tokensIn 0 (columnPieces c ps) =
      first :: (tokensIn (Text.byteSize (rawText (leadPieces c.name))) ps ++
        tokensIn (Text.byteSize (rawText (leadPieces c.name)) + Text.byteSize (rawText ps))
          (optionPieces c.isNullable)) := by
  have hlead : ∃ first : Token, first.kind = nameKind c.name ∧
      tokensIn 0 (leadPieces c.name) = [first] := ⟨⟨nameKind c.name, _, _⟩, rfl, rfl⟩
  obtain ⟨first, hfirst, heq⟩ := hlead
  refine ⟨first, hfirst, ?_⟩
  rw [columnPieces, tokensIn_append 0 (leadPieces c.name), heq, Nat.zero_add, tokensIn_append]
  rfl

theorem isSelfContained_leadPieces (d : Dialect) (name : String) :
    IsSelfContained d (leadPieces name) := by
  have hblank := isSelfContained_space d
  refine hblank.append (hblank.append ?_)
  exact isSelfContained_cons (c := ' ') (fun _ hn => lexeme_namePiece d name hn) rfl rfl hblank

private theorem lexemes_optionPieces {d : Dialect} {ps : List Piece} {nullable : Bool} {next : Char}
    (h : Lexemes d ps (some (behindType nullable next))) (hn : isSeam next) :
    Lexemes d (ps ++ optionPieces nullable) (some next) := by
  cases nullable with
  | true => simpa [optionPieces, behindType] using h
  | false =>
    have hnot := (isSelfContained_space d).append (@isSelfContained_keyword d "NOT" rfl)
    refine lexemes_append.2 ⟨h, lexemes_append.2 ⟨hnot _, ?_⟩⟩
    exact ⟨lexeme_word d rfl hn, trivial⟩

private theorem readOptions_optionPieces (c : ColumnDefinition) (hc : c.notNull = false) (offset : Nat)
    (nullable : Bool) : readOptions c (tokensIn offset (optionPieces nullable)) =
      { c with notNull := !nullable } := by
  cases nullable with
  | true =>
    obtain ⟨name, type, primaryKey, notNull, references⟩ := c
    obtain rfl : notNull = false := hc
    simp [optionPieces, readOptions]
  | false =>
    have htokens : ∃ t u : Token, t.kind = .word "NOT" ∧ u.kind = .word "NULL" ∧
        tokensIn offset (optionPieces false) = [t, u] :=
      ⟨⟨.word "NOT", _, _⟩, ⟨.word "NULL", _, _⟩, rfl, rfl, rfl⟩
    obtain ⟨t, u, ht, hu, heq⟩ := htokens
    have hkey : behind? ["PRIMARY", "KEY"] [t, u] = none := by
      simp [behind?, Token.isWord, ht, Text.isKeyword]
    have hnull : behind? ["NOT", "NULL"] [t, u] = some [] := by
      simp [behind?, Token.isWord, ht, hu, Text.isKeyword]
    rw [heq, readOptions_cons, hkey, hnull]
    simp [readOptions]

private theorem not_readTypePart?_optionPieces (offset : Nat) (nullable : Bool) :
    readTypePart? (tokensIn offset (optionPieces nullable)) = none := by
  cases nullable with
  | true => rfl
  | false => rfl

private theorem enclosed_optionPieces (offset : Nat) (nullable : Bool) :
    Enclosed (tokensIn offset (optionPieces nullable)) := by
  cases nullable with
  | true => exact enclosed_nil
  | false => exact ⟨⟨rfl, by simp, rfl, by simp, trivial⟩, rfl⟩

theorem lexemes_columnPieces {d : Dialect} {after : Char} (hafter : isSeam after) {c : Column}
    {ps : List Piece} (h : IsType d (behindType c.isNullable after) c.type ps) :
    Lexemes d (columnPieces c ps) (some after) :=
  lexemes_append.2 ⟨isSelfContained_leadPieces d c.name _, lexemes_optionPieces h.lexemes hafter⟩

theorem enclosed_columnPieces {d : Dialect} {next : Char} {c : Column} {ps : List Piece}
    (h : IsType d next c.type ps) : Enclosed (tokensIn 0 (columnPieces c ps)) := by
  obtain ⟨first, hfirst, heq⟩ := tokensIn_columnPieces c ps
  obtain ⟨u, word, tail, htokens, hu, -, henclosed⟩ := h.tokens
  have htype : Enclosed (tokensIn 0 ps) := by
    rw [htokens, enclosed_cons_of_isOrdinary (isOrdinary_of_word hu)]
    exact henclosed
  rw [heq, enclosed_cons_of_isOrdinary (isOrdinary_of_nameKind hfirst)]
  exact ((enclosed_tokensIn _ ps).2 htype).append (enclosed_optionPieces _ c.isNullable)

theorem isLine_column {d : Dialect} {after : Char} (hafter : isSeam after) {c : Column}
    {ps : List Piece} (h : IsType d (behindType c.isNullable after) c.type ps)
    (hc : startsConstraint (tokensIn 0 (columnPieces c ps)) = false) :
    IsLine d after (columnPieces c ps) (.column (definition c)) := by
  have henclosed := enclosed_columnPieces h
  obtain ⟨first, hfirst, heq⟩ := tokensIn_columnPieces c ps
  refine ⟨lexemes_columnPieces hafter h, henclosed, by rw [heq]; simp, ?_⟩
  obtain ⟨next, word, tail, htokens, hnext, htail, hclosed⟩ := h.tokens
  generalize hplace : Text.byteSize (rawText (leadPieces c.name)) = place at heq
  generalize hstop : place + Text.byteSize (rawText ps) = stop at heq
  have htype : tokensIn place ps = next.shift place :: tail.map (Token.shift place) := by
    rw [tokensIn_eq_shift, htokens, List.map_cons]
  rw [htype] at heq
  have hshape := keepsRole_shift place
  have hname : first.name? = some c.name := by
    rw [← name?_nameKind c.name first.start first.stop, ← hfirst]
  have htail' : readTypeTail (tail.map (Token.shift place)) = (tail.map (Token.shift place), []) := by
    rw [readTypeTail_map hshape, htail]
    rfl
  have hread := readTypeTail_append_of_closed htail' ((enclosed_map hshape).2 hclosed).2
    (tokensIn stop (optionPieces c.isNullable))
  rw [readTypeTail_of_none (not_readTypePart?_optionPieces stop c.isNullable), List.append_nil] at hread
  have hsource : sourceText (String.ofList (rawText (columnPieces c ps)))
      (next.shift place :: tail.map (Token.shift place)) = c.type := by
    have key := sourceText_tokensIn h.run (rawText (leadPieces c.name))
      (rawText (optionPieces c.isNullable))
    rw [hplace, htype, h.raw, String.ofList_toList] at key
    simpa [columnPieces, h.raw] using key
  have hcolumn := readColumn?_of_readTypeTail (String.ofList (rawText (columnPieces c ps))) hname
    (show (next.shift place).kind = .word word from hnext) hread
  have hnot : ¬((behind? ["CONSTRAINT"] (tokensIn 0 (columnPieces c ps))).isSome ||
      opensConstraint (tokensIn 0 (columnPieces c ps))) := by simpa [startsConstraint] using hc
  rw [readElement?, if_neg hnot, heq, List.cons_append, hcolumn, hsource, h.collapsed,
    readOptions_optionPieces _ rfl]
  rfl

end Columns

end SqlSchema.Ddl
