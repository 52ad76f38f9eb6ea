import SqlSchema.Proofs.Composition
import SqlSchema.Proofs.Groups
import SqlSchema.Proofs.TableText
/-!
# The tokens of exported tables

An exported table is a closed script of a single CREATE TABLE statement, as long as each of its lines is
cut into pieces that do not reach beyond the line.
-/
namespace SqlSchema

theorem Lexemes.isCut {d : Dialect} {ps : List Piece} {next : Option Char} (h : Lexemes d ps next) :
    ∀ p ∈ ps, p.isCut = false := by
  intro p hp
  obtain ⟨after, hlexeme, -⟩ := h.exists_lexeme p hp
  exact hlexeme.isCut

theorem Lexemes.kind_ne {d : Dialect} {ps : List Piece} {next : Char} (h : Lexemes d ps (some next)) :
    ∀ p ∈ ps, p.kind ≠ .blockComment false := by
  intro p hp hkind
  obtain ⟨after, hlexeme, hnone⟩ := h.exists_lexeme p hp
  cases hlexeme with
  | openComment => cases hnone rfl
  | _ => simp at hkind

namespace Ddl

def blankPiece (c : Char) : Piece := ⟨.blank, [c]⟩

def signPiece (c : Char) (kind : TokenKind) : Piece := ⟨.token kind, [c]⟩

def wordPiece (word : String) : Piece := ⟨.token (.word word), word.toList⟩

theorem isSelfContained_blankPiece (d : Dialect) {c : Char} (h : Text.isBlank c) :
    IsSelfContained d [blankPiece c] :=
  fun _ => ⟨.blank h, trivial⟩

theorem isSelfContained_signPiece (d : Dialect) {c : Char} {kind : TokenKind}
    (h : Piece.punctuation? c = some kind) (hc : c ≠ '[') : IsSelfContained d [signPiece c kind] :=
  fun _ => ⟨.punctuation h fun hb => absurd hb hc, trivial⟩

theorem isSelfContained_cons {d : Dialect} {p : Piece} {ps : List Piece} {c : Char}
    (hp : ∀ next, isSeam next → Piece.Lexeme d p (some next)) (hc : isSeam c)
    (hhead : (rawText ps).head? = some c) (hps : IsSelfContained d ps) : IsSelfContained d (p :: ps) :=
  fun next => ⟨by rw [hhead]; exact hp c hc, hps next⟩

theorem isSelfContained_space (d : Dialect) : IsSelfContained d [blankPiece ' '] :=
  isSelfContained_blankPiece d rfl

theorem isSelfContained_keyword (d : Dialect) {word : String} (h : isBare word.toList) :
    IsSelfContained d [wordPiece word, blankPiece ' '] :=
  isSelfContained_cons (c := ' ') (fun _ hn => lexeme_word d h hn) rfl rfl (isSelfContained_space d)

/-- Two keywords with a space behind each. -/
def phrasePieces (first second : String) : List Piece :=
  [wordPiece first, blankPiece ' ', wordPiece second, blankPiece ' ']

theorem isSelfContained_phrasePieces (d : Dialect) {first second : String} (hfirst : isBare first.toList)
    (hsecond : isBare second.toList) : IsSelfContained d (phrasePieces first second) :=
  (isSelfContained_keyword d hfirst).append (isSelfContained_keyword d hsecond)

/-- The pieces of the line that opens a table. -/
def headPieces (name : String) : List Piece :=
  [wordPiece "CREATE", blankPiece ' ', wordPiece "TABLE", blankPiece ' ', namePiece name, blankPiece ' ',
    signPiece '(' .leftParen, blankPiece '\n']

def closePieces : List Piece := [signPiece ')' .rightParen, signPiece ';' .semicolon]

/-- The pieces of a table with the given lines. -/
def tablePieces (name : String) (rows : List (List Piece)) : List Piece :=
  headPieces name ++ rows.flatten ++ closePieces

theorem rawText_headPieces (name : String) :
    rawText (headPieces name) = heading name ++ ['\n'] := by
  simp [headPieces, heading, wordPiece, blankPiece, signPiece, String.toList_append]

theorem isSelfContained_headPieces (d : Dialect) (name : String) :
    IsSelfContained d (headPieces name) := by
  have hopen : IsSelfContained d [signPiece '(' .leftParen] :=
    isSelfContained_signPiece d rfl (by decide)
  have hend := hopen.append (isSelfContained_blankPiece d (c := '\n') rfl)
  apply (isSelfContained_phrasePieces d rfl rfl).append
  exact isSelfContained_cons (c := ' ') (fun _ hn => lexeme_namePiece d name hn) rfl rfl
    ((isSelfContained_space d).append hend)

theorem isSelfContained_closePieces (d : Dialect) : IsSelfContained d closePieces :=
  (isSelfContained_signPiece d rfl (by decide)).append (isSelfContained_signPiece d rfl (by decide))

theorem isSelfContained_flatten {d : Dialect} {rows : List (List Piece)}
    (h : ∀ row ∈ rows, IsSelfContained d row) : IsSelfContained d rows.flatten := by
  induction rows with
  | nil => exact fun _ => trivial
  | cons row rows ih => exact (h row (by simp)).append (ih fun r hr => h r (by simp [hr]))

theorem isSelfContained_tablePieces {d : Dialect} {rows : List (List Piece)} (name : String)
    (h : ∀ row ∈ rows, IsSelfContained d row) : IsSelfContained d (tablePieces name rows) :=
  ((isSelfContained_headPieces d name).append (isSelfContained_flatten h)).append
    (isSelfContained_closePieces d)

theorem rawText_flatten (rows : List (List Piece)) : rawText rows.flatten = (rows.map rawText).flatten := by
  induction rows with
  | nil => rfl
  | cons row rows ih => simp [ih]

/-- The lines of a table are the texts of the pieces that they are cut into. -/
theorem rawText_tablePieces {t : Table} {rows : List (List Piece)}
    (h : rows.map rawText = (withCommas ((bodyLines t).map String.toList)).map (· ++ ['\n'])) :
    rawText (tablePieces t.name rows) = compact t := by
  rw [tablePieces, rawText_append, rawText_append, rawText_headPieces, rawText_flatten, h, compact, parts,
    ← List.cons_append, Text.intercalate_concat, List.flatMap_cons, List.flatMap_def]
  rfl

/-- The statement with the given tokens behind its opening parenthesis, if they are closed. -/
def bodyStatement? (source name : String) (ts : List Token) : Option Statement :=
  if startsWith .rightParen (splitTopLevel true ts).2 then
    some (.create ⟨name, (splitTopLevel true ts).1.filterMap (readElement? source)⟩)
  else none

theorem readStatement?_table (source : String) {name : String} {create table first opening : Token}
    (hcreate : create.kind = .word "CREATE") (htable : table.kind = .word "TABLE")
    (hname : first.kind = nameKind name) (hopen : opening.kind = .leftParen) (ts : List Token) :
    readStatement? source (create :: table :: first :: opening :: ts) =
      bodyStatement? source name ts := by
  have hkeep : skipTableOptions (table :: first :: opening :: ts) = table :: first :: opening :: ts := by
    simp [skipTableOptions, skipPhrase, skipOneOf, behindOneOf?, behind?, Token.isWord, htable,
      Text.isKeyword]
  have hskip : skipPhrase ["IF", "NOT", "EXISTS"] (first :: opening :: ts) = first :: opening :: ts := by
    simp only [skipPhrase, behind?]
    split
    · simp [Token.isWord, hopen]
    · rfl
  have hfirst : first.name? = some name := by
    rw [← name?_nameKind name first.start first.stop, ← hname]
  have hdotted : readDottedName (first :: opening :: ts) = (some name, opening :: ts) := by
    simp [readDottedName, hfirst, hopen]
  have houtline : readOutline? (create :: table :: first :: opening :: ts) =
      some (outlineOf name (opening :: ts)) := by
    rw [readOutline?_eq]
    simp [behind?, Token.isWord, hcreate, htable, Text.isKeyword, hkeep, hskip, hdotted]
  have halter : readAlter? (create :: table :: first :: opening :: ts) = none := by
    rw [readAlter?_eq]
    simp [behind?, Token.isWord, hcreate, Text.isKeyword]
  have hstarts : startsWith .leftParen (opening :: ts) := by simp [startsWith, hopen]
  rw [readStatement?, readCreate?, houtline, halter, outlineOf, if_pos hstarts, bodyStatement?,
    List.tail_cons]
  by_cases hclosed : startsWith .rightParen (splitTopLevel true ts).2
  · simp [hclosed]
  · simp [hclosed]

theorem splitStatements_append {us : List Token} (h : ∀ t ∈ us, t.endsStatement = false)
    {semicolon : Token} (hs : semicolon.kind = .semicolon) (ts : List Token) :
    splitStatements (us ++ semicolon :: ts) = us :: splitStatements ts := by
  induction us with
  | nil => simp [splitStatements, hs]
  | cons u us ih =>
    have hu := h u (by simp)
    simp only [Token.endsStatement, Bool.or_eq_false_iff, beq_eq_false_iff_ne] at hu
    rw [List.cons_append, splitStatements, if_neg hu.2, if_neg hu.1, ih fun t ht => h t (by simp [ht])]

/-- The tokens behind the opening parenthesis of a table. -/
def bodyTokens (name : String) (rows : List (List Piece)) : List Token :=
  tokensIn (Text.byteSize (rawText (headPieces name))) (rows.flatten ++ [signPiece ')' .rightParen])

theorem exists_closing (name : String) (rows : List (List Piece)) :
    ∃ closing : Token, closing.kind = .rightParen ∧ bodyTokens name rows =
      tokensIn (Text.byteSize (rawText (headPieces name))) rows.flatten ++ [closing] :=
  ⟨_, rfl, tokensIn_append _ rows.flatten [signPiece ')' .rightParen]⟩

theorem exists_tokens_tablePieces (name : String) (rows : List (List Piece)) :
    ∃ create table first opening semicolon finish : Token,
      create.kind = .word "CREATE" ∧ table.kind = .word "TABLE" ∧ first.kind = nameKind name ∧
      opening.kind = .leftParen ∧ semicolon.kind = .semicolon ∧ finish.kind = .endOfText ∧
      tokensOf 0 (tablePieces name rows) =
        (create :: table :: first :: opening :: bodyTokens name rows) ++ [semicolon, finish] := by
  have hkinds : (tokensIn 0 (headPieces name)).map (·.kind) =
      [.word "CREATE", .word "TABLE", nameKind name, .leftParen] := by
    rw [kind_tokensIn]
    rfl
  obtain ⟨create, hs, heq, hcreate, hs'⟩ := List.map_eq_cons_iff.1 hkinds
  obtain ⟨table, hs, rfl, htable, hs'⟩ := List.map_eq_cons_iff.1 hs'
  obtain ⟨first, hs, rfl, hfirst, hs'⟩ := List.map_eq_cons_iff.1 hs'
  obtain ⟨opening, hs, rfl, hopen, hs'⟩ := List.map_eq_cons_iff.1 hs'
  obtain rfl := List.map_eq_nil_iff.1 hs'
  have hpieces : tablePieces name rows =
      headPieces name ++ (rows.flatten ++ [signPiece ')' .rightParen]) ++ [signPiece ';' .semicolon] := by
    simp [tablePieces, closePieces]
  have htokens := tokensOf_append 0
    (headPieces name ++ (rows.flatten ++ [signPiece ')' .rightParen])) [signPiece ';' .semicolon]
  rw [← hpieces, tokensIn_append, heq, Nat.zero_add, ← bodyTokens] at htokens
  exact ⟨create, table, first, opening, _, _, hcreate, htable, hfirst, hopen, rfl, rfl, htokens⟩

theorem readStatements_tablePieces {d : Dialect} (name : String) {rows : List (List Piece)}
    (hself : ∀ row ∈ rows, IsSelfContained d row)
    (hend : ∀ t ∈ bodyTokens name rows, t.endsStatement = false) :
    ∃ ts, tokenize d (String.ofList (rawText (tablePieces name rows))) = .ok ts ∧
      IsClosed d (String.ofList (rawText (tablePieces name rows))) ts ∧
      readStatements (String.ofList (rawText (tablePieces name rows))) ts =
        (bodyStatement? (String.ofList (rawText (tablePieces name rows))) name
          (bodyTokens name rows)).toList := by
  have hpieces := isSelfContained_tablePieces name hself
  have hscan : scan d (String.ofList (rawText (tablePieces name rows))).toList =
      (tablePieces name rows, []) := by
    rw [String.toList_ofList]
    exact scan_rawText (hpieces none)
  obtain ⟨create, table, first, opening, semicolon, finish, hcreate, htable, hfirst, hopen, hsemi,
    hfinish, htokens⟩ := exists_tokens_tablePieces name rows
  have hstatement : ∀ t ∈ create :: table :: first :: opening :: bodyTokens name rows,
      t.endsStatement = false := by
    intro t ht
    simp only [List.mem_cons] at ht
    rcases ht with rfl | rfl | rfl | rfl | ht
    · simp [Token.endsStatement, hcreate]
    · simp [Token.endsStatement, htable]
    · rw [Token.endsStatement, hfirst, nameKind]
      split <;> rfl
    · simp [Token.endsStatement, hopen]
    · exact hend t ht
  refine ⟨_, tokenize_eq_ok_iff.2 ⟨by rw [hscan], rfl⟩, ⟨?_, ?_, ?_⟩, ?_⟩
  · rw [hscan]
    exact (hpieces none).isCut
  · rw [hscan]
    exact (hpieces (some ' ')).kind_ne
  · rw [hscan, htokens]
    intro t ht
    rw [List.dropLast_append_of_ne_nil (by simp), List.dropLast_cons_cons, List.dropLast_singleton,
      List.getLast?_concat, Option.some.injEq] at ht
    rw [← ht, hsemi]
  · have hempty : splitStatements [finish] = [[]] := by simp [splitStatements, hfinish]
    rw [hscan, htokens, readStatements, splitStatements_append hstatement hsemi, hempty,
      List.filterMap_cons, List.filterMap_cons_none (readStatement?_nil _), List.filterMap_nil,
      readStatement?_table _ hcreate htable hfirst hopen]
    cases bodyStatement? (String.ofList (rawText (tablePieces name rows))) name (bodyTokens name rows) <;>
      rfl

end Ddl

end SqlSchema
