import SqlSchema.Proofs.Items
import SqlSchema.Proofs.TableTokens
/-!
# The lines of exported tables

A line that reads as an element on its own reads as the same element inside its table.
-/
namespace SqlSchema.Ddl

/-- The pieces of a line that reads as an element, with `next` behind it. -/
structure IsLine (d : Dialect) (next : Char) (ps : List Piece) (e : TableElement) : Prop where
  lexemes : Lexemes d ps (some next)
  enclosed : Enclosed (tokensIn 0 ps)
  nonempty : tokensIn 0 ps ≠ []
  read : readElement? (String.ofList (rawText ps)) (tokensIn 0 ps) = some e

/-- Lines of which each reads as its element where it stands in the body of a table. -/
def IsBody (d : Dialect) : List (List Piece × TableElement) → Prop
  | [] => True
  | [line] => IsLine d '\n' line.1 line.2
  | line :: next :: lines => IsLine d ',' line.1 line.2 ∧ IsBody d (next :: lines)

theorem IsBody.isLine {d : Dialect} {lines : List (List Piece × TableElement)} (h : IsBody d lines) :
    ∀ line ∈ lines, ∃ next, IsLine d next line.1 line.2 := by
  induction lines with
  | nil => simp
  | cons line lines ih =>
    cases lines with
    | nil => simpa using ⟨_, h⟩
    | cons next lines =>
      intro l hl
      rcases List.mem_cons.1 hl with rfl | hl
      · exact ⟨_, h.1⟩
      · exact ih h.2 l hl

theorem isBody_of_isLine {d : Dialect} {lines : List (List Piece × TableElement)}
    (h : ∀ line ∈ lines, ∀ next, isSeam next → IsLine d next line.1 line.2) : IsBody d lines := by
  induction lines with
  | nil => trivial
  | cons line lines ih =>
    cases lines with
    | nil => exact h line (by simp) '\n' rfl
    | cons next lines => exact ⟨h line (by simp) ',' rfl, ih fun l hl => h l (by simp [hl])⟩

/-- The pieces of the lines with a comma behind each but the last. -/
def rowPieces : List (List Piece) → List (List Piece)
  | [] => []
  | [ps] => [ps ++ [blankPiece '\n']]
  | ps :: qs :: pss => (ps ++ [signPiece ',' .comma, blankPiece '\n']) :: rowPieces (qs :: pss)

theorem rawText_rowPieces (pss : List (List Piece)) :
    (rowPieces pss).map rawText = (withCommas (pss.map rawText)).map (· ++ ['\n']) := by
  induction pss with
  | nil => rfl
  | cons ps pss ih =>
    cases pss with
    | nil => simp [rowPieces, withCommas, blankPiece]
    | cons qs pss =>
      simp only [List.map_cons] at ih
      simp [rowPieces, withCommas, ih, blankPiece, signPiece]

theorem isSelfContained_rowPieces {d : Dialect} {lines : List (List Piece × TableElement)}
    (h : IsBody d lines) : ∀ row ∈ rowPieces (lines.map (·.1)), IsSelfContained d row := by
  have hbreak : IsSelfContained d [blankPiece '\n'] := isSelfContained_blankPiece d rfl
  have hcomma : IsSelfContained d [signPiece ',' .comma] :=
    isSelfContained_signPiece d rfl (by decide)
  induction lines with
  | nil => simp [rowPieces]
  | cons line lines ih =>
    cases lines with
    | nil =>
      simp only [List.map_cons, List.map_nil, rowPieces, List.mem_singleton, forall_eq]
      exact fun after => lexemes_append.2 ⟨IsLine.lexemes h, hbreak after⟩
    | cons next lines =>
      intro row hrow
      simp only [List.map_cons, rowPieces] at hrow
      rcases List.mem_cons.1 hrow with rfl | hrow
      · exact fun after => lexemes_append.2 ⟨h.1.lexemes, hcomma.append hbreak after⟩
      · exact ih h.2 row hrow

private theorem exists_flatten_rowPieces (pss : List (List Piece)) :
    ∃ tail, (rowPieces pss).flatten =
        [signPiece ',' .comma, blankPiece '\n'].intercalate pss ++ tail ∧
      tail.filterMap Piece.token? = [] := by
  induction pss with
  | nil => exact ⟨[], rfl, rfl⟩
  | cons ps pss ih =>
    cases pss with
    | nil => exact ⟨[blankPiece '\n'], by simp [rowPieces], rfl⟩
    | cons qs pss =>
      obtain ⟨tail, heq, htail⟩ := ih
      refine ⟨tail, ?_, htail⟩
      rw [rowPieces, List.flatten_cons, heq, List.intercalate_cons_cons]
      simp

theorem readElements_rowPieces {d : Dialect} {lines : List (List Piece × TableElement)}
    (h : ∀ line ∈ lines, ∃ next, IsLine d next line.1 line.2) (before after : List Char) {closing : Token}
    (hclosing : closing.kind = .rightParen) (rest : List Token) :
    splitBody true 0 (tokensIn (Text.byteSize before) (rowPieces (lines.map (·.1))).flatten ++
        closing :: rest) =
      (tokensIn (Text.byteSize before) (rowPieces (lines.map (·.1))).flatten, closing :: rest) ∧
    ((splitCommas 0 (tokensIn (Text.byteSize before) (rowPieces (lines.map (·.1))).flatten)).filter
        fun item => !item.isEmpty).filterMap
      (readElement? (String.ofList
        (before ++ rawText (rowPieces (lines.map (·.1))).flatten ++ after))) =
      lines.map (·.2) := by
  have henclosed : ∀ ps ∈ lines.map (·.1), Enclosed (tokensIn 0 ps) := by
    intro ps hps
    obtain ⟨line, hline, rfl⟩ := List.mem_map.1 hps
    obtain ⟨next, hisLine⟩ := h line hline
    exact hisLine.enclosed
  have helements : (lines.map (·.1)).filterMap elementOf? = lines.map (·.2) := by
    rw [List.filterMap_map, ← List.filterMap_eq_map]
    refine List.filterMap_congr fun line hline => ?_
    obtain ⟨next, hisLine⟩ := h line hline
    exact hisLine.read
  obtain ⟨tail, hrows, htail⟩ := exists_flatten_rowPieces (lines.map (·.1))
  obtain ⟨items, hitems, hread⟩ :=
    exists_elements [signPiece ',' .comma, blankPiece '\n'] rfl henclosed before
  rw [← kind_tokensIn, List.map_eq_nil_iff] at htail
  rw [hrows, tokensIn_append, htail, List.append_nil, rawText_append, ← List.append_assoc before,
    List.append_assoc _ (rawText tail), splitCommas_of_separated hitems,
    filterMap_filter_isEmpty (readElement?_nil _), hread, helements]
  exact ⟨splitBody_of_separated hitems hclosing rest, rfl⟩

/-- A table whose lines read as elements reads as the statement of these elements. -/
theorem readStatements_compact {d : Dialect} {t : Table} {lines : List (List Piece × TableElement)}
    (h : IsBody d lines)
    (htext : lines.map (fun line => rawText line.1) = (bodyLines t).map String.toList) :
    ∃ ts, tokenize d (String.ofList (compact t)) = .ok ts ∧
      IsClosed d (String.ofList (compact t)) ts ∧
      readStatements (String.ofList (compact t)) ts = [.create ⟨t.name, lines.map (·.2)⟩] := by
  have hself := isSelfContained_rowPieces h
  have hraw : rawText (tablePieces t.name (rowPieces (lines.map (·.1)))) = compact t := by
    refine rawText_tablePieces ?_
    rw [rawText_rowPieces, List.map_map, ← htext]
    rfl
  obtain ⟨closing, hclosing, htokens⟩ := exists_closing t.name (rowPieces (lines.map (·.1)))
  obtain ⟨hbody, hitems⟩ := readElements_rowPieces h.isLine (rawText (headPieces t.name)) (rawText closePieces)
    hclosing []
  have hend : ∀ u ∈ bodyTokens t.name (rowPieces (lines.map (·.1))), u.endsStatement = false := by
    intro u hu
    rw [htokens] at hu
    rcases List.mem_append.1 hu with hu | hu
    · exact endsStatement_of_mem_splitBody (by rwa [hbody])
    · obtain rfl := List.mem_singleton.1 hu
      simp [Token.endsStatement, hclosing]
  have hstatements := readStatements_tablePieces t.name hself hend
  rw [hraw] at hstatements
  obtain ⟨ts, hts, hclosed, hread⟩ := hstatements
  refine ⟨ts, hts, hclosed, hread.trans ?_⟩
  have hstarts : startsWith .rightParen [closing] := by simp [startsWith, hclosing]
  rw [bodyStatement?, htokens, splitTopLevel, hbody, if_pos hstarts]
  rw [← rawText_append, ← rawText_append, ← tablePieces, hraw] at hitems
  rw [hitems]
  rfl

end SqlSchema.Ddl
