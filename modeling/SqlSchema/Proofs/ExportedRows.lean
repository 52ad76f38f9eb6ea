import SqlSchema.Proofs.CommentedTypes
import SqlSchema.Proofs.Rereading
import SqlSchema.Proofs.Rows
/-!
# The rows of exported tables

Each line of an exported table is a row of pieces. A type that ends in a comment loses its options and its
comma to the comment, and all other lines stay apart.
-/
namespace SqlSchema.Ddl

/-- What a line of a table is written for. -/
inductive Line
  | column (c : Column)
  | key (ps : List Piece) (e : TableElement)

namespace Line

def text : Line → List Char
  | column c => (columnLine c).toList
  | key ps _ => rawText ps

def element : Line → TableElement
  | column c => .column (definition c)
  | key _ e => e

/-- The name of a column. Keys have none. -/
def name : Line → String
  | column c => c.name
  | key _ _ => ""

end Line

def lines (t : Table) : List Line :=
  t.columns.map .column ++ (keyLines t).map fun line => .key line.1 line.2

theorem text_lines (t : Table) : (lines t).map Line.text = (bodyLines t).map String.toList := by
  have hkeys := rawText_keyLines t
  simp only [lines, bodyLines, List.map_append, List.map_map, List.append_assoc, Function.comp_def,
    Line.text] at hkeys ⊢
  rw [hkeys]

theorem element_lines (t : Table) : (lines t).map Line.element = elements t := by
  simp [lines, elements, Line.element, Function.comp_def]

/-- The character behind a line. -/
def follower (last : Bool) : Char := if last then '\n' else ','

/-- What stands between a line and its line break. -/
def separator (last : Bool) : List Char := if last then [] else [',']

def separatorPieces (last : Bool) : List Piece :=
  if last then [blankPiece '\n'] else [signPiece ',' .comma, blankPiece '\n']

theorem isSeam_follower (last : Bool) : isSeam (follower last) := by cases last <;> rfl

theorem isSeam_behindType (nullable last : Bool) : isSeam (behindType nullable (follower last)) := by
  cases nullable <;> cases last <;> rfl

private theorem rawText_separatorPieces (last : Bool) :
    rawText (separatorPieces last) = separator last ++ ['\n'] := by
  cases last <;> rfl

private theorem isSelfContained_separatorPieces (d : Dialect) (last : Bool) :
    IsSelfContained d (separatorPieces last) := by
  cases last with
  | true => exact isSelfContained_blankPiece d rfl
  | false => exact (isSelfContained_signPiece d rfl (by decide)).append (isSelfContained_blankPiece d rfl)

/-- Pieces of which none is a comment up to the end of the line. -/
def IsUncommented (ps : List Piece) : Prop := ∀ p ∈ ps, p.kind ≠ .lineComment

theorem isUncommented_append {ps qs : List Piece} :
    IsUncommented (ps ++ qs) ↔ IsUncommented ps ∧ IsUncommented qs :=
  List.forall_mem_append

section Keys

/-- Pieces that open a key with its two keywords. -/
structure IsKeyLine (ps : List Piece) : Prop where
  opens : ∃ keyword rest, (keyword = "PRIMARY" ∨ keyword = "FOREIGN") ∧
    ps.filterMap Piece.token? = .word keyword :: .word "KEY" :: rest
  uncommented : IsUncommented ps

private theorem isUncommented_listPieces {ps : List Piece} (h : IsUncommented ps) :
    IsUncommented (listPieces ps) := by
  induction ps with
  | nil => exact h
  | cons p ps ih =>
    cases ps with
    | nil => exact h
    | cons q ps =>
      have hrest := ih fun r hr => h r (by simp [hr])
      intro r hr
      simp only [listPieces, List.mem_cons] at hr
      rcases hr with rfl | rfl | rfl | hr
      · exact h r (by simp)
      · simp [signPiece]
      · simp [blankPiece]
      · exact hrest r hr

private theorem isUncommented_nameGroup (names : List String) : IsUncommented (nameGroup names) := by
  have hnames : IsUncommented (names.map namePiece) := by
    intro p hp
    obtain ⟨name, -, rfl⟩ := List.mem_map.1 hp
    simp [namePiece]
  intro p hp
  simp only [nameGroup, groupPieces, List.mem_cons, List.mem_append, List.not_mem_nil, or_false] at hp
  rcases hp with rfl | hp | rfl
  · simp [signPiece]
  · exact isUncommented_listPieces hnames p hp
  · simp [signPiece]

private theorem isKeyLine_keywordPieces {keyword : String} (hk : keyword = "PRIMARY" ∨ keyword = "FOREIGN")
    {ps : List Piece} (h : IsUncommented ps) : IsKeyLine (keywordPieces keyword "KEY" ++ ps) := by
  refine ⟨⟨keyword, ps.filterMap Piece.token?, hk, rfl⟩, isUncommented_append.2 ⟨?_, h⟩⟩
  simp [IsUncommented, keywordPieces, blankPiece, wordPiece]

theorem isKeyLine_keyLines (t : Table) : ∀ line ∈ keyLines t, IsKeyLine line.1 := by
  refine forall_keyLines (fun names => ?_) (fun name table column => ?_) t
  · exact isKeyLine_keywordPieces (.inl rfl) (isUncommented_nameGroup _)
  · refine isKeyLine_keywordPieces (.inr rfl) (isUncommented_append.2 ⟨isUncommented_nameGroup _,
      isUncommented_append.2 ⟨?_, isUncommented_nameGroup _⟩⟩)
    simp [IsUncommented, blankPiece, wordPiece, namePiece]

end Keys

section Rows

variable {d : Dialect}

/-- The comment that a type ends in, up to the end of the line. -/
def commentPiece (c : Column) (last : Bool) (x : Char) (line : List Char) : Piece :=
  ⟨.lineComment, x :: line ++ (rawText (optionPieces c.isNullable) ++ (separator last ++ ['\n']))⟩

/-- The rows that the lines of a table are cut into. -/
inductive IsRowOf (d : Dialect) (last : Bool) : Line → Row → Prop
  | column {c : Column} {ps : List Piece} :
      IsType d (behindType c.isNullable (follower last)) c.type ps →
      IsRowOf d last (.column c) ⟨columnPieces c ps, separatorPieces last⟩
  | commented {c : Column} {ps : List Piece} {x : Char} {line : List Char} :
      IsCommented d (behindType c.isNullable (follower last)) c.type ps x line →
      IsRowOf d last (.column c) ⟨leadPieces c.name ++ (ps ++ [commentPiece c last x line]), []⟩
  | key {ps : List Piece} {e : TableElement} : IsLine d (follower last) ps e → IsKeyLine ps →
      IsRowOf d last (.key ps e) ⟨ps, separatorPieces last⟩

theorem IsRowOf.rawText_pieces {last : Bool} {line : Line} {row : Row} (h : IsRowOf d last line row) :
    rawText row.pieces = line.text ++ (separator last ++ ['\n']) := by
  cases h with
  | column htype =>
    simp only [Row.pieces, rawText_append, rawText_separatorPieces, rawText_columnPieces _ htype.raw,
      Line.text]
  | @commented c ps x line hcomment =>
    have htext : (columnLine c).toList = rawText (leadPieces c.name) ++
        (c.type.toList ++ rawText (optionPieces c.isNullable)) := by
      rw [← rawText_columnPieces c (show rawText [⟨.stray, c.type.toList⟩] = c.type.toList by simp)]
      simp [columnPieces]
    rw [Line.text, htext, hcomment.raw]
    simp [Row.pieces, commentPiece]
  | key => simp only [Row.pieces, rawText_append, rawText_separatorPieces, Line.text]

private theorem lexeme_commentPiece {c : Column} {last : Bool} {ps : List Piece} {x : Char}
    {line : List Char}
    (h : IsCommented d (behindType c.isNullable (follower last)) c.type ps x line) :
    IsSelfContained d [commentPiece c last x line] := by
  refine fun next => ⟨?_, trivial⟩
  have hbehind : ∃ more, rawText (optionPieces c.isNullable) ++ (separator last ++ ['\n']) =
      behindType c.isNullable (follower last) :: more := by
    cases c.isNullable <;> cases last <;> exact ⟨_, rfl⟩
  obtain ⟨more, hmore⟩ := hbehind
  have hlexeme : Piece.Lexeme d
      ⟨.lineComment, x :: (line ++ (rawText (optionPieces c.isNullable) ++ separator last)) ++ ['\n']⟩
      ((rawText []).head?.or next) := by
    refine .lineComment ?_ ?_ (.inl rfl)
    · have hoption : '\n' ∉ rawText (optionPieces c.isNullable) ++ separator last := by
        cases c.isNullable <;> cases last <;> decide
      simpa using ⟨h.oneLine, by simpa using hoption⟩
    · have hopens := h.opens more
      rw [← hmore] at hopens
      simpa using hopens
  simpa [commentPiece] using hlexeme

theorem IsRowOf.isSelfContained {last : Bool} {line : Line} {row : Row} (h : IsRowOf d last line row) :
    IsSelfContained d row.pieces := by
  have hseparator : ∀ next, Lexemes d (separatorPieces last) next :=
    isSelfContained_separatorPieces d last
  have hhead : (rawText (separatorPieces last)).head? = some (follower last) := by cases last <;> rfl
  cases h with
  | column htype =>
    refine fun next => lexemes_append.2 ⟨?_, hseparator next⟩
    rw [hhead]
    exact lexemes_columnPieces (isSeam_follower last) htype
  | @commented c ps x line hcomment =>
    refine fun next => ?_
    rw [Row.pieces, List.append_nil]
    refine (isSelfContained_leadPieces d c.name).append (fun next => ?_) next
    refine lexemes_append.2 ⟨?_, lexeme_commentPiece hcomment next⟩
    simpa [commentPiece] using hcomment.lexemes
  | key hline =>
    refine fun next => lexemes_append.2 ⟨?_, hseparator next⟩
    rw [hhead]
    exact hline.lexemes

theorem tokensIn_leadPieces (offset : Nat) (name : String) (ps : List Piece) :
    ∃ first : Token, first.kind = nameKind name ∧ tokensIn offset (leadPieces name ++ ps) =
      first :: tokensIn (offset + Text.byteSize (rawText (leadPieces name))) ps := by
  have hlead : ∃ first : Token, first.kind = nameKind name ∧
      tokensIn offset (leadPieces name) = [first] := ⟨⟨nameKind name, _, _⟩, rfl, rfl⟩
  obtain ⟨first, hfirst, heq⟩ := hlead
  exact ⟨first, hfirst, by rw [tokensIn_append, heq]; rfl⟩

theorem IsRowOf.isNested {last : Bool} {line : Line} {row : Row} (h : IsRowOf d last line row) :
    row.IsNested := by
  have hback : tokensIn 0 (separatorPieces last) = [] ∨
      ∃ comma : Token, comma.kind = .comma ∧ tokensIn 0 (separatorPieces last) = [comma] := by
    cases last with
    | true => exact .inl rfl
    | false => exact .inr ⟨⟨.comma, _, _⟩, rfl, rfl⟩
  cases h with
  | @column c ps htype =>
    obtain ⟨first, -, heq⟩ := tokensIn_columnPieces c ps
    exact ⟨(enclosed_columnPieces htype).1, by rw [heq]; simp, hback⟩
  | @commented c ps x line hcomment =>
    obtain ⟨first, hfirst, heq⟩ := tokensIn_leadPieces 0 c.name (ps ++ [commentPiece c last x line])
    refine ⟨?_, by rw [heq]; simp, .inl rfl⟩
    rw [heq, nested_cons_of_isOrdinary (isOrdinary_of_nameKind hfirst), nested_tokensIn]
    have hnone : tokensIn 0 (ps ++ [commentPiece c last x line]) = tokensIn 0 ps := by
      simp [tokensIn_append, commentPiece, Piece.tokenAt?, Piece.token?]
    rw [hnone]
    rcases hcomment.tokens with ⟨-, t, word, tail, htokens, ht, htail⟩ | ⟨rfl, -⟩
    · rw [htokens, nested_cons_of_isOrdinary (isOrdinary_of_word ht)]
      exact htail
    · trivial
  | key hline => exact ⟨hline.enclosed.1, hline.nonempty, hback⟩

theorem IsRowOf.isBare_first {last : Bool} {line : Line} {row : Row} (h : IsRowOf d last line row)
    {word : String} {kinds : List TokenKind}
    (hword : row.pieces.filterMap Piece.token? = .word word :: kinds) : isBare word.toList := by
  have hname {name : String} {kind : TokenKind} (hkind : nameKind name = kind) (heq : kind = .word word) :
      isBare word.toList := by
    unfold nameKind at hkind
    split at hkind
    · obtain rfl := TokenKind.word.inj (hkind.trans heq)
      assumption
    · rw [heq] at hkind
      cases hkind
  cases h with
  | @column c ps htype =>
    obtain ⟨hkind, -⟩ := List.cons.inj hword
    exact hname rfl hkind
  | @commented c ps x line hcomment =>
    obtain ⟨hkind, -⟩ := List.cons.inj hword
    exact hname rfl hkind
  | key hline hkey =>
    obtain ⟨keyword, rest, hkeyword, heq⟩ := hkey.opens
    rw [Row.pieces, List.filterMap_append, heq, List.cons_append] at hword
    obtain rfl := TokenKind.word.inj (List.cons.inj hword).1
    rcases hkeyword with rfl | rfl <;> decide

/-- Lines with the rows that they are cut into where they stand in a table. -/
def AreRows (d : Dialect) : List (Line × Row) → Prop
  | [] => True
  | [r] => IsRowOf d true r.1 r.2
  | r :: next :: rs => IsRowOf d false r.1 r.2 ∧ AreRows d (next :: rs)

theorem exists_areRows {ls : List Line} (h : ∀ line ∈ ls, ∀ last, ∃ row, IsRowOf d last line row) :
    ∃ rs, rs.map (·.1) = ls ∧ AreRows d rs := by
  induction ls with
  | nil => exact ⟨[], rfl, trivial⟩
  | cons line ls ih =>
    obtain ⟨rs, rfl, hrows⟩ := ih fun l hl => h l (by simp [hl])
    cases rs with
    | nil =>
      obtain ⟨row, hrow⟩ := h line (by simp) true
      exact ⟨[(line, row)], rfl, hrow⟩
    | cons next rs =>
      obtain ⟨row, hrow⟩ := h line (by simp) false
      exact ⟨(line, row) :: next :: rs, rfl, hrow, hrows⟩

theorem AreRows.exists_isRowOf {before after : List (Line × Row)} {r : Line × Row}
    (h : AreRows d (before ++ r :: after)) :
    ∃ last, IsRowOf d last r.1 r.2 ∧ (last = true → after = []) := by
  induction before with
  | nil =>
    cases after with
    | nil => exact ⟨true, h, fun _ => rfl⟩
    | cons next after => exact ⟨false, h.1, by simp⟩
  | cons q before ih =>
    cases before with
    | nil => exact ih h.2
    | cons next before => exact ih h.2

theorem AreRows.isRowOf {rs : List (Line × Row)} (h : AreRows d rs) :
    ∀ r ∈ rs, ∃ last, IsRowOf d last r.1 r.2 := by
  intro r hr
  obtain ⟨before, after, rfl⟩ := List.append_of_mem hr
  obtain ⟨last, hrow, -⟩ := h.exists_isRowOf
  exact ⟨last, hrow⟩

theorem AreRows.isSelfContained {rs : List (Line × Row)} (h : AreRows d rs) :
    ∀ row ∈ rs.map (·.2.pieces), IsSelfContained d row := by
  intro row hrow
  obtain ⟨r, hr, rfl⟩ := List.mem_map.1 hrow
  obtain ⟨last, hrow⟩ := h.isRowOf r hr
  exact hrow.isSelfContained

theorem AreRows.rawText_pieces {rs : List (Line × Row)} (h : AreRows d rs) :
    (rs.map (·.2.pieces)).map rawText = (withCommas (rs.map (·.1.text))).map (· ++ ['\n']) := by
  induction rs with
  | nil => rfl
  | cons r rs ih =>
    cases rs with
    | nil => simp [withCommas, IsRowOf.rawText_pieces h, separator]
    | cons next rs =>
      have hrest := ih h.2
      simp only [List.map_cons] at hrest ⊢
      rw [withCommas, List.map_cons, ← hrest, h.1.rawText_pieces]
      simp [separator]

/-- The pieces of a table whose lines are cut into the given rows. -/
def rowTablePieces (name : String) (rs : List (Line × Row)) : List Piece :=
  tablePieces name (rs.map (·.2.pieces))

theorem rawText_rowTablePieces {t : Table} {rs : List (Line × Row)} (h : AreRows d rs)
    (hlines : rs.map (·.1) = lines t) : rawText (rowTablePieces t.name rs) = compact t := by
  refine rawText_tablePieces ?_
  rw [h.rawText_pieces, ← text_lines, ← hlines, List.map_map]
  rfl

end Rows

end SqlSchema.Ddl
