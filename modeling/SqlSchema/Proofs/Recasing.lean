import SqlSchema.Proofs.Roles
import SqlSchema.Proofs.Spans
/-!
# Scanning other letters

Scanning tells characters apart by their classes and by the signs that it looks for. So it commutes
with every change of characters that keeps both, except in the values of literals, where a letter
behind a backslash can stand for something else.
-/
namespace SqlSchema

/-- The characters that scanning looks for. -/
def scanSigns : List Char :=
  ['\n', '\'', '"', '\x60', '\\', '[', ']', '(', ')', ',', ';', '.', '-', '#', '/', '*', '_', '$']

/-- A change of characters that scanning does not notice. -/
structure KeepsClass (f : Char → Char) : Prop where
  isBlank : ∀ c, Text.isBlank (f c) = Text.isBlank c
  isLetter : ∀ c, Text.isLetter (f c) = Text.isLetter c
  isNumber : ∀ c, Text.isNumber (f c) = Text.isNumber c
  isDigit : ∀ c, (f c).isDigit = c.isDigit
  utf8Size : ∀ c, (f c).utf8Size = c.utf8Size
  eq_iff : ∀ x ∈ scanSigns, ∀ c, f c = x ↔ c = x
  toLower_eq : ∀ c, (f c).toLower = 'e' ↔ c.toLower = 'e'

/-- The kind with every character of its name changed and without the value of a literal. -/
def TokenKind.mapChars (f : Char → Char) : TokenKind → TokenKind
  | .word text => .word (String.ofList (text.toList.map f))
  | .quoted name => .quoted (String.ofList (name.toList.map f))
  | .literal _ => .literal ""
  | .number _ => .number ""
  | kind => kind

def PieceKind.mapChars (f : Char → Char) : PieceKind → PieceKind
  | .token kind => .token (kind.mapChars f)
  | .cutLiteral _ => .cutLiteral ""
  | kind => kind

/-- The piece with every character changed and without the value of a literal. -/
def Piece.mapChars (f : Char → Char) (p : Piece) : Piece := ⟨p.kind.mapChars f, p.raw.map f⟩

theorem TokenKind.mapChars_of_isSign {kind : TokenKind} (h : kind.isSign) (f : Char → Char) :
    kind.mapChars f = kind := by
  cases kind <;> simp_all [isSign, mapChars]

theorem Piece.isSign_of_punctuation? {c : Char} {kind : TokenKind} (h : punctuation? c = some kind) :
    kind.isSign := by
  cases kind <;> first | rfl | grind [punctuation?]

section Classes

variable {f : Char → Char} (hf : KeepsClass f)

include hf

theorem KeepsClass.fix {x : Char} (hx : x ∈ scanSigns) : f x = x := (hf.eq_iff x hx x).2 rfl

theorem KeepsClass.beq_eq {x : Char} (hx : x ∈ scanSigns) (c : Char) : (f c == x) = (c == x) := by
  rw [Bool.eq_iff_iff, beq_iff_eq, beq_iff_eq, hf.eq_iff x hx]

theorem KeepsClass.head?_eq_iff {x : Char} (hx : x ∈ scanSigns) (cs : List Char) :
    (cs.map f).head? = some x ↔ cs.head? = some x := by
  cases cs <;> simp [hf.eq_iff x hx]

namespace Piece

theorem splitQuoted_map {close : Char} (hclose : close ∈ scanSigns) (cs : List Char) :
    splitQuoted close (cs.map f) = (splitQuoted close cs).map (Prod.map (List.map f) (List.map f)) := by
  fun_induction splitQuoted close cs <;>
    simp_all [splitQuoted, hf.eq_iff close hclose, Function.comp_def]

theorem splitLiteral_map (escapes : Bool) (cs : List Char) :
    splitLiteral escapes (cs.map f) =
      (splitLiteral escapes cs).map (Prod.map (List.map f) (List.map f)) := by
  have hquote := hf.eq_iff '\'' (by decide)
  have hslash := hf.eq_iff '\\' (by decide)
  fun_induction splitLiteral escapes cs <;>
    simp_all [splitLiteral, Function.comp_def]

theorem splitComment_map (cs : List Char) :
    splitComment (cs.map f) = (splitComment cs).map (Prod.map (List.map f) (List.map f)) := by
  have hstar := hf.eq_iff '*' (by decide)
  have hslash := hf.eq_iff '/' (by decide)
  fun_induction splitComment cs <;> simp_all [splitComment, Function.comp_def]

theorem continuesWord_map (d : Dialect) (c : Char) : continuesWord d (f c) = continuesWord d c := by
  simp only [continuesWord, Text.isLetterOrNumber, hf.isLetter, hf.isNumber,
    hf.eq_iff '_' (by decide), hf.eq_iff '$' (by decide), hf.eq_iff '#' (by decide)]

theorem continuesNumber_map (c : Char) : continuesNumber (f c) = continuesNumber c := by
  simp only [continuesNumber, hf.isDigit, hf.eq_iff '.' (by decide)]

theorem cutsLiteral_map (c : Char) : cutsLiteral (f c) = cutsLiteral c := by
  simp only [cutsLiteral, hf.eq_iff '\n' (by decide), hf.eq_iff ';' (by decide)]

theorem opensWord_map (c : Char) : opensWord (f c) = opensWord c := by
  simp only [opensWord, hf.isLetter, hf.eq_iff '_' (by decide), hf.eq_iff '#' (by decide)]

theorem punctuation?_map (c : Char) : punctuation? (f c) = punctuation? c := by
  simp only [punctuation?, hf.eq_iff '(' (by decide), hf.eq_iff ')' (by decide),
    hf.eq_iff ',' (by decide), hf.eq_iff ';' (by decide), hf.eq_iff '.' (by decide),
    hf.eq_iff '[' (by decide), hf.eq_iff ']' (by decide)]

theorem hashOpensComment_map (d : Dialect) (cs : List Char) :
    hashOpensComment d (cs.map f) = hashOpensComment d cs := by
  cases cs <;> simp [hashOpensComment, hf.isBlank]

theorem styleOpening?_map (d : Dialect) (c : Char) : d.styleOpening? (f c) = d.styleOpening? c := by
  have hopening (q : QuoteStyle) : (q.opening == f c) = (q.opening == c) := by
    rw [Bool.eq_iff_iff, beq_iff_eq, beq_iff_eq, eq_comm, hf.eq_iff _ (by cases q <;> decide), eq_comm]
  simp only [Dialect.styleOpening?, hopening]

theorem undouble_map {close : Char} (hclose : close ∈ scanSigns) (cs : List Char) :
    QuoteStyle.undouble close (cs.map f) = (QuoteStyle.undouble close cs).map f := by
  fun_induction QuoteStyle.undouble close cs <;>
    simp_all [QuoteStyle.undouble, hf.eq_iff close hclose, hf.fix hclose]

theorem readLiteral_map (escapes : Bool) (lead cs : List Char) :
    Prod.map (mapChars id) id (readLiteral escapes (lead.map f) (cs.map f)) =
      Prod.map (mapChars f) (List.map f) (readLiteral escapes lead cs) := by
  have hcuts : (fun c => !cutsLiteral c) ∘ f = fun c => !cutsLiteral c := by
    funext c
    simp only [Function.comp_apply, cutsLiteral_map hf]
  unfold readLiteral
  rw [splitLiteral_map hf]
  cases splitLiteral escapes cs with
  | none =>
    simp [mapChars, PieceKind.mapChars, List.takeWhile_map, List.dropWhile_map, hcuts]
  | some r =>
    simp [mapChars, PieceKind.mapChars, TokenKind.mapChars, hf.fix (x := '\'') (by decide)]

theorem readNumber_map (c : Char) (cs : List Char) :
    Prod.map (mapChars id) id (readNumber (f c) (cs.map f)) =
      Prod.map (mapChars f) (List.map f) (readNumber c cs) := by
  have hnumber : continuesNumber ∘ f = continuesNumber := by
    funext c
    exact continuesNumber_map hf c
  simp [readNumber, mapChars, PieceKind.mapChars, TokenKind.mapChars, List.takeWhile_map,
    List.dropWhile_map, hnumber]

theorem readLineComment_map (c : Char) (cs : List Char) :
    Prod.map (mapChars id) id (readLineComment (f c) (cs.map f)) =
      Prod.map (mapChars f) (List.map f) (readLineComment c cs) := by
  have hline : (fun c => c != '\n') ∘ f = fun c => c != '\n' := by
    funext c
    simp only [Function.comp_apply, bne, hf.beq_eq (x := '\n') (by decide)]
  simp [readLineComment, mapChars, PieceKind.mapChars, List.takeWhile_map, List.dropWhile_map, hline,
    List.map_take]

theorem readBlockComment_map (cs : List Char) :
    Prod.map (mapChars id) id (readBlockComment (cs.map f)) =
      Prod.map (mapChars f) (List.map f) (readBlockComment cs) := by
  have hstar : f '*' = '*' := hf.fix (by decide)
  have hslash : f '/' = '/' := hf.fix (by decide)
  unfold readBlockComment
  rw [splitComment_map hf]
  cases splitComment cs <;> simp [mapChars, PieceKind.mapChars, hstar, hslash]

theorem readWord_map (d : Dialect) (c : Char) (cs : List Char) :
    Prod.map (mapChars id) id (readWord d (f c) (cs.map f)) =
      Prod.map (mapChars f) (List.map f) (readWord d c cs) := by
  have hword : continuesWord d ∘ f = continuesWord d := by
    funext c
    exact continuesWord_map hf d c
  have hquote : f '\'' = '\'' := hf.fix (by decide)
  have hkind (text : List Char) (rest : List Char) :
      Prod.map (mapChars id) id (⟨.token (.word (String.ofList (text.map f))), text.map f⟩, rest.map f) =
        Prod.map (mapChars f) (List.map f) (⟨.token (.word (String.ofList text)), text⟩, rest) := by
    simp [mapChars, PieceKind.mapChars, TokenKind.mapChars]
  unfold readWord
  simp only [List.takeWhile_map, List.dropWhile_map, hword]
  cases cs.takeWhile (continuesWord d) with
  | cons x xs => exact hkind (c :: x :: xs) _
  | nil =>
    cases cs.dropWhile (continuesWord d) with
    | nil => exact hkind [c] []
    | cons x rest =>
      by_cases hx : x = '\''
      · subst hx
        simp only [List.map_cons, List.map_nil, hquote, hf.toLower_eq]
        split
        · have hread := readLiteral_map hf true [c, '\''] rest
          rwa [List.map_cons, List.map_cons, List.map_nil, hquote] at hread
        · have hread := hkind [c] ('\'' :: rest)
          rwa [List.map_cons, List.map_nil, List.map_cons, hquote] at hread
      · have hx' : f x ≠ '\'' := fun h => hx ((hf.eq_iff '\'' (by decide) x).1 h)
        have hread := hkind [c] (x :: rest)
        simp only [List.map_cons, List.map_nil] at hread ⊢
        split <;> split <;> simp_all

theorem readQuoted_map (q : QuoteStyle) (cs : List Char) :
    (readQuoted q (cs.map f)).map (Prod.map (mapChars id) id) =
      (readQuoted q cs).map (Prod.map (mapChars f) (List.map f)) := by
  have hclosing : q.closing ∈ scanSigns := by cases q <;> decide
  have hopening : q.opening ∈ scanSigns := by cases q <;> decide
  unfold readQuoted
  rw [splitQuoted_map hf hclosing]
  cases splitQuoted q.closing cs with
  | none => rfl
  | some r =>
    simp [mapChars, PieceKind.mapChars, TokenKind.mapChars, hf.fix hclosing, hf.fix hopening,
      QuoteStyle.strip?, undouble_map hf hclosing]

theorem readPlain_map (d : Dialect) (c : Char) (cs : List Char) :
    Prod.map (mapChars id) id (readPlain d (f c) (cs.map f)) =
      Prod.map (mapChars f) (List.map f) (readPlain d c cs) := by
  have hsingle (kind : PieceKind) (h : kind.mapChars id = kind.mapChars f) :
      Prod.map (mapChars id) id ((⟨kind, [f c]⟩ : Piece), cs.map f) =
        Prod.map (mapChars f) (List.map f) (⟨kind, [c]⟩, cs) := by
    simp [mapChars, h]
  unfold readPlain
  simp only [hf.isBlank, hf.eq_iff '-' (by decide), hf.head?_eq_iff (x := '-') (by decide),
    hf.eq_iff '#' (by decide), hashOpensComment_map hf, hf.eq_iff '/' (by decide),
    hf.head?_eq_iff (x := '*') (by decide), punctuation?_map hf, hf.eq_iff '\'' (by decide),
    hf.isDigit, opensWord_map hf]
  split
  · exact hsingle .blank rfl
  split
  · exact readLineComment_map hf c cs
  split
  · exact readLineComment_map hf c cs
  split
  · rw [← List.map_tail]
    exact readBlockComment_map hf cs.tail
  split
  · next kind hkind =>
    refine hsingle (.token kind) ?_
    have hsign := isSign_of_punctuation? hkind
    simp only [PieceKind.mapChars, TokenKind.mapChars_of_isSign hsign]
  split
  · exact readLiteral_map hf _ [c] cs
  split
  · exact readNumber_map hf c cs
  split
  · exact readWord_map hf d c cs
  · exact hsingle .stray rfl

theorem read?_map (d : Dialect) (c : Char) (cs : List Char) :
    (read? d (f c) (cs.map f)).map (Prod.map (mapChars id) id) =
      (read? d c cs).map (Prod.map (mapChars f) (List.map f)) := by
  have hstyle : openedStyle? d (f c) (cs.map f) = openedStyle? d c cs := by
    simp only [openedStyle?, hf.eq_iff '[' (by decide), hf.head?_eq_iff (x := ']') (by decide),
      styleOpening?_map hf]
  unfold read?
  rw [hstyle]
  cases openedStyle? d c cs with
  | none => exact congrArg some (readPlain_map hf d c cs)
  | some q => exact readQuoted_map hf q cs

end Piece

theorem scan_map (d : Dialect) (cs : List Char) :
    Prod.map (List.map (Piece.mapChars id)) id (scan d (cs.map f)) =
      Prod.map (List.map (Piece.mapChars f)) (List.map f) (scan d cs) := by
  fun_induction scan d cs with
  | case1 => simp [scan_nil]
  | case2 c cs h =>
    have hread := Piece.read?_map hf d c cs
    rw [h, Option.map_none, Option.map_eq_none_iff] at hread
    rw [List.map_cons, scan_cons_of_none hread]
    simp
  | case3 c cs p rest h ps left hs ih =>
    have hread := Piece.read?_map hf d c cs
    rw [h, Option.map_some, Option.map_eq_some_iff] at hread
    obtain ⟨⟨p', rest'⟩, hread', heq⟩ := hread
    obtain ⟨hp, rfl⟩ : p'.mapChars id = p.mapChars f ∧ rest' = rest.map f := by simpa using heq
    rw [hs] at ih
    obtain ⟨hps, hleft⟩ := Prod.ext_iff.1 ih
    simp only [Prod.map_fst, Prod.map_snd, id] at hps hleft
    rw [List.map_cons, scan_cons_of_read? hread']
    simp [hp, hps, hleft]

theorem advance_map (p : Text.Position) (cs : List Char) : p.advance (cs.map f) = p.advance cs := by
  have hstep (p : Text.Position) (c : Char) : p.step (f c) = p.step c := by
    simp only [Text.Position.step, hf.eq_iff '\n' (by decide)]
  simp only [Text.Position.advance, List.foldl_map, hstep]

end Classes

section Tokens

variable (f : Char → Char)

def Token.mapChars (t : Token) : Token := { t with kind := t.kind.mapChars f }

@[simp] theorem Piece.token?_mapChars (p : Piece) :
    (p.mapChars f).token? = p.token?.map (TokenKind.mapChars f) := by
  obtain ⟨kind, raw⟩ := p
  cases kind <;> rfl

theorem rawText_mapChars (ps : List Piece) :
    rawText (ps.map (Piece.mapChars f)) = (rawText ps).map f := by
  simp [rawText, List.flatMap_map, List.map_flatMap, Piece.mapChars]

theorem isRun_mapChars {ps : List Piece} (h : IsRun ps) : IsRun (ps.map (Piece.mapChars f)) := by
  simpa [IsRun, Option.any_map, Function.comp_def] using h

variable {f} (hf : ∀ c, (f c).utf8Size = c.utf8Size)

include hf

theorem byteSize_map (cs : List Char) : Text.byteSize (cs.map f) = Text.byteSize cs := by
  induction cs with
  | nil => rfl
  | cons c cs ih => rw [List.map_cons, Text.byteSize_cons, Text.byteSize_cons, hf, ih]

theorem tokensIn_mapChars (offset : Nat) (ps : List Piece) :
    tokensIn offset (ps.map (Piece.mapChars f)) = (tokensIn offset ps).map (Token.mapChars f) := by
  induction ps generalizing offset with
  | nil => rfl
  | cons p ps ih =>
    have hsize : (p.mapChars f).size = p.size := byteSize_map hf p.raw
    rw [List.map_cons, tokensIn_cons, tokensIn_cons, hsize, ih, List.map_append]
    cases h : p.token? <;> simp [Piece.tokenAt?, h, hsize, Token.mapChars]

theorem tokensOf_mapChars (offset : Nat) (ps : List Piece) :
    tokensOf offset (ps.map (Piece.mapChars f)) = (tokensOf offset ps).map (Token.mapChars f) := by
  rw [tokensOf_eq, tokensOf_eq, tokensIn_mapChars hf, rawText_mapChars, byteSize_map hf,
    List.map_append]
  rfl

theorem sourceText_mapChars {ps : List Piece} {us : List Token} (h : us <:+: tokensIn 0 ps) :
    sourceText (String.ofList ((rawText ps).map f)) (us.map (Token.mapChars f)) =
      String.ofList ((sourceText (String.ofList (rawText ps)) us).toList.map f) := by
  cases us with
  | nil => rfl
  | cons t us =>
    obtain ⟨xs, zs, hsplit⟩ := h
    obtain ⟨qs, run, rs, rfl, hrun, -, htokens⟩ := exists_run_of_tokensIn hsplit.symm (by simp)
    have hplain := sourceText_tokensIn hrun (rawText qs) (rawText rs)
    have hmapped := sourceText_tokensIn (isRun_mapChars f hrun)
      (rawText (qs.map (Piece.mapChars f))) (rawText (rs.map (Piece.mapChars f)))
    rw [Nat.zero_add] at htokens
    simp only [rawText_mapChars, byteSize_map hf, tokensIn_mapChars hf, htokens] at hplain hmapped
    simp only [rawText_append, List.map_append, hplain, hmapped, String.toList_ofList]

end Tokens

end SqlSchema
