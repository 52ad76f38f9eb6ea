import SqlSchema.Proofs.CutLiterals
import SqlSchema.Proofs.Quoting
import SqlSchema.Proofs.Spans
/-!
# Encoded names and values

Any name can be written as a quoted identifier and any value as a literal, and each is read back as one
token from what was written, in front of any text that does not go on with a delimiter. A quote that is
never closed opens a literal as well, which ends with its line or its statement.
-/
namespace SqlSchema

section Leading

/-- In front of the rest, the text is a token: both together have tokens if the rest has, and these are
that token and those of the rest, moved behind it. -/
def IsTokenBefore (d : Dialect) (rest text : String) (kind : TokenKind) : Prop :=
  ∀ us, tokenize d (text ++ rest) = .ok us ↔
    ∃ ts, tokenize d rest = .ok ts ∧
      us = ⟨kind, 0, text.utf8ByteSize⟩ :: ts.map (Token.shift text.utf8ByteSize)

variable {d : Dialect} {rest text : String} {kind : TokenKind}

theorem isTokenBefore_of_scan {p : Piece} (hp : p.token? = some kind) (hraw : p.raw = text.toList)
    (hscan : scan d (text.toList ++ rest.toList) =
      (p :: (scan d rest.toList).1, (scan d rest.toList).2)) : IsTokenBefore d rest text kind := by
  intro us
  have hsize : p.size = text.utf8ByteSize := by
    rw [Piece.size, hraw, Text.byteSize_toList]
  simp only [tokenize_eq_ok_iff, String.toList_append, hscan]
  rw [tokensOf, hp, hsize, Nat.zero_add, tokensOf_eq_shift]
  constructor
  · rintro ⟨hleft, rfl⟩
    exact ⟨_, ⟨hleft, rfl⟩, rfl⟩
  · rintro ⟨ts, ⟨hleft, rfl⟩, rfl⟩
    exact ⟨hleft, rfl⟩

theorem isTokenBefore_of_lexeme (h : Piece.Lexeme d ⟨.token kind, text.toList⟩ rest.toList.head?) :
    IsTokenBefore d rest text kind :=
  isTokenBefore_of_scan rfl rfl (scan_lexeme h)

end Leading

section Names

theorem QuoteStyle.head?_doubled (close : Char) (cs : List Char) : (doubled close cs).head? = cs.head? := by
  cases cs with
  | nil => rfl
  | cons c cs =>
    rw [doubled, List.flatMap_cons]
    split <;> rfl

variable {d : Dialect} {name rest : String}

theorem QuoteStyle.isTokenBefore_enclose {q : QuoteStyle} (hq : q ∈ d.quoteStyles)
    (hbracket : q = .bracket → name ≠ "" ∧ name.toList.head? ≠ some ']')
    (hrest : rest.toList.head? ≠ some q.closing) :
    IsTokenBefore d rest (String.ofList (q.enclose name.toList)) (.quoted name) := by
  apply isTokenBefore_of_lexeme
  -- brackets around nothing, or around what starts with the closing one, are an array suffix
  have hopens : q = .bracket → (doubled q.closing name.toList ++ [']']).head? ≠ some ']' := by
    intro hb
    obtain ⟨hne, hhead⟩ := hbracket hb
    obtain ⟨c, cs, hname⟩ := List.exists_cons_of_ne_nil fun hnil => hne (String.toList_eq_nil_iff.1 hnil)
    rw [List.head?_append, head?_doubled, hname, List.head?_cons, Option.some_or]
    rwa [hname] at hhead
  have hlex := Piece.Lexeme.quoted hq (doubled_isDoubled q.closing name.toList) hopens hrest
  rw [undouble_doubled, String.ofList_toList] at hlex
  rwa [String.toList_ofList, enclose]

theorem Ddl.isTokenBefore_quote (hrest : ∀ c, rest.toList.head? = some c → c ∈ [' ', ',', '(', ')']) :
    IsTokenBefore d rest (quote name) (nameKind name) := by
  apply isTokenBefore_of_lexeme
  cases hnext : rest.toList.head? with
  | none =>
    -- the end of the text is no other than a blank
    have hblank := @lexeme_namePiece d name ' ' rfl
    exact hblank.before (.inr ⟨rfl, rfl⟩) (by simp [namePiece]) (by simp [namePiece])
  | some c =>
    have hseam : ∀ x ∈ [' ', ',', '(', ')'], isSeam x := List.all_eq_true.1 (by decide)
    exact lexeme_namePiece d name (hseam c (hrest c hnext))

/-- A name is read back from its quoted form in every style of the dialect, but for the brackets that are
an array suffix, and from the form that it has in exported SQL. -/
theorem isTokenBefore_name (d : Dialect) (name rest : String) :
    (∀ q ∈ d.quoteStyles, (q = .bracket → name ≠ "" ∧ name.toList.head? ≠ some ']') →
      rest.toList.head? ≠ some q.closing →
      IsTokenBefore d rest (String.ofList (q.enclose name.toList)) (.quoted name)) ∧
    ((∀ c, rest.toList.head? = some c → c ∈ [' ', ',', '(', ')']) →
      ∃ kind, (kind = .word name ∨ kind = .quoted name) ∧ IsTokenBefore d rest (Ddl.quote name) kind) := by
  constructor
  · intro q hq hbracket hrest
    exact q.isTokenBefore_enclose hq hbracket hrest
  · intro hrest
    refine ⟨Ddl.nameKind name, ?_, Ddl.isTokenBefore_quote hrest⟩
    unfold Ddl.nameKind
    split <;> simp

theorem isTokenBefore_name_runs :
    .bracket ∈ Dialect.sqlServer.quoteStyles ∧ ("é]]" ≠ "" ∧ "é]]".toList.head? ≠ some ']') ∧
      " x".toList.head? ≠ some ']' ∧
      tokenize .sqlServer (String.ofList (QuoteStyle.bracket.enclose "é]]".toList) ++ " x") =
        .ok [⟨.quoted "é]]", 0, 8⟩, ⟨.word "x", 9, 10⟩, ⟨.endOfText, 10, 10⟩] ∧
      ∃ kind, (kind = .word "" ∨ kind = .quoted "") ∧
        tokenize .sqlServer (Ddl.quote "" ++ "") = .ok [⟨kind, 0, 2⟩, ⟨.endOfText, 2, 2⟩] := by
  have hname := (isTokenBefore_name .sqlServer "é]]" " x").1 .bracket (by decide) (by decide) (by decide)
  obtain ⟨kind, hkind, hquote⟩ := (isTokenBefore_name .sqlServer "" "").2 (by simp)
  have hx : tokenize .sqlServer " x" = .ok [⟨.word "x", 1, 2⟩, ⟨.endOfText, 2, 2⟩] :=
    tokenize_ofList (by with_unfolding_all decide) (by with_unfolding_all decide)
  have hnone : tokenize .sqlServer "" = .ok [⟨.endOfText, 0, 0⟩] :=
    tokenize_ofList (by with_unfolding_all decide) (by with_unfolding_all decide)
  exact ⟨by decide, by decide, by decide,
    (hname _).2 ⟨[⟨.word "x", 1, 2⟩, ⟨.endOfText, 2, 2⟩], hx, by decide⟩, kind, hkind,
    (hquote _).2 ⟨[⟨.endOfText, 0, 0⟩], hnone, rfl⟩⟩

end Names

section Literals

/-- The text of a literal between its quotes. -/
def escapeLiteral (escapes : Bool) (value : List Char) : List Char :=
  value.flatMap fun c => if c = '\'' ∨ (c = '\\' ∧ escapes) then [c, c] else [c]

/-- A literal of this value: quotes stand twice in it, and so do backslashes where they are escapes. -/
def encodeLiteral (escapes : Bool) (value : String) : String :=
  String.ofList ('\'' :: escapeLiteral escapes value.toList ++ ['\''])

variable {escapes : Bool}

theorem literal_escapeLiteral (value : List Char) : Piece.Literal escapes (escapeLiteral escapes value) := by
  induction value with
  | nil => exact .nil
  | cons c value ih =>
    rw [escapeLiteral, List.flatMap_cons]
    split
    · next h =>
      rcases h with rfl | ⟨rfl, he⟩
      · exact .quotes ih
      · exact .escape he ih
    · next h => exact .plain (fun hc => h (.inl hc)) (fun hc => h (.inr hc)) ih

private theorem literalValue_cons {c : Char} (hc : c ≠ '\'') (he : ¬(c = '\\' ∧ escapes)) (cs : List Char) :
    Piece.literalValue escapes (c :: cs) = c :: Piece.literalValue escapes cs := by
  cases cs with
  | nil => rfl
  | cons d cs => rw [Piece.literalValue, if_neg fun h => hc h.1, if_neg he]

theorem literalValue_escapeLiteral (value : List Char) :
    Piece.literalValue escapes (escapeLiteral escapes value) = value := by
  induction value with
  | nil => rfl
  | cons c value ih =>
    rw [escapeLiteral, List.flatMap_cons, ← escapeLiteral]
    split
    · next h =>
      rcases h with rfl | ⟨rfl, he⟩
      · simp [Piece.literalValue, ih]
      · subst he
        simp [Piece.literalValue, ih, Piece.unescaped]
    · next h =>
      rw [List.singleton_append,
        literalValue_cons (fun hc => h (.inl hc)) (fun hc => h (.inr hc)), ih]

private theorem splitLiteral_eq_none {cs : List Char} (h : '\'' ∉ cs) :
    Piece.splitLiteral escapes cs = none := by
  cases hs : Piece.splitLiteral escapes cs with
  | none => rfl
  | some r => simp [← Piece.splitLiteral_append hs] at h

variable {d : Dialect}

private theorem exists_cut (s : String) :
    ∃ text behind : String, s = text ++ behind ∧ (∀ c ∈ text.toList, Piece.cutsLiteral c = false) ∧
      ∀ c, behind.toList.head? = some c → Piece.cutsLiteral c := by
  refine ⟨String.ofList (s.toList.takeWhile fun c => !Piece.cutsLiteral c),
    String.ofList (s.toList.dropWhile fun c => !Piece.cutsLiteral c), ?_, fun c hc => ?_, fun c hc => ?_⟩
  · rw [← String.ofList_append, List.takeWhile_append_dropWhile, String.ofList_toList]
  · rw [String.toList_ofList] at hc
    simpa using List.all_eq_true.1 List.all_takeWhile c hc
  · have hnot := List.head?_dropWhile_not (fun c => !Piece.cutsLiteral c) s.toList
    rw [String.toList_ofList] at hc
    rw [hc] at hnot
    simpa using hnot

theorem isTokenBefore_cut {text behind : String} (hquote : '\'' ∉ (text ++ behind).toList)
    (htext : ∀ c ∈ text.toList, Piece.cutsLiteral c = false)
    (hbehind : ∀ c, behind.toList.head? = some c → Piece.cutsLiteral c) :
    IsTokenBefore d behind ("'" ++ text) (.literal text) := by
  have hkeep : ∀ c ∈ text.toList, !Piece.cutsLiteral c := by simpa using htext
  have hstop : behind.toList.takeWhile (fun c => !Piece.cutsLiteral c) = [] ∧
      behind.toList.dropWhile (fun c => !Piece.cutsLiteral c) = behind.toList := by
    cases hcs : behind.toList with
    | nil => simp
    | cons c cs =>
      have hc := hbehind c (by rw [hcs, List.head?_cons])
      simp [hc]
  have hread : Piece.read? d '\'' (text.toList ++ behind.toList) =
      some (⟨.cutLiteral text, '\'' :: text.toList⟩, behind.toList) := by
    rw [String.toList_append] at hquote
    rw [Piece.read?_quote, Piece.readLiteral, splitLiteral_eq_none hquote, List.takeWhile_append_of_pos hkeep,
      List.dropWhile_append_of_pos hkeep, hstop.1, hstop.2, List.append_nil]
    simp
  have htoList : ("'" ++ text).toList = '\'' :: text.toList := by simp [String.toList_append]
  apply isTokenBefore_of_scan (p := ⟨.cutLiteral text, '\'' :: text.toList⟩) rfl htoList.symm
  rw [htoList]
  exact scan_cons_of_read? hread

theorem isTokenBefore_encodeLiteral {value rest : String} (hrest : rest.toList.head? ≠ some '\'') :
    IsTokenBefore d rest (encodeLiteral (d == .mysql) value) (.literal value) := by
  apply isTokenBefore_of_lexeme
  have hlex := Piece.Lexeme.literal (d := d) (literal_escapeLiteral value.toList) hrest
  rw [literalValue_escapeLiteral, String.ofList_toList] at hlex
  rwa [encodeLiteral, String.toList_ofList]

/-- A literal with a letter in front, which makes backslashes escapes in every dialect. -/
theorem isTokenBefore_escapedLiteral {value rest : String} {letter : Char} (hletter : letter.toLower = 'e')
    (hrest : rest.toList.head? ≠ some '\'') :
    IsTokenBefore d rest (String.singleton letter ++ encodeLiteral true value) (.literal value) := by
  apply isTokenBefore_of_lexeme
  have hlex := Piece.Lexeme.escapedLiteral (d := d) hletter (literal_escapeLiteral value.toList) hrest
  rw [literalValue_escapeLiteral, String.ofList_toList] at hlex
  rwa [String.toList_append, encodeLiteral, String.toList_ofList, String.toList_singleton]

/-- A value is read back from its literal, and so it is where a letter in front makes backslashes escapes.
A quote that no other one closes makes a literal of the text behind it, up to the end of the line or of the
statement. -/
theorem isTokenBefore_literal (d : Dialect) :
    (∀ value rest : String, rest.toList.head? ≠ some '\'' →
      IsTokenBefore d rest (encodeLiteral (d == .mysql) value) (.literal value) ∧
        ∀ e ∈ ["E", "e"], IsTokenBefore d rest (e ++ encodeLiteral true value) (.literal value)) ∧
    ∀ s : String, '\'' ∉ s.toList →
      ∃ text behind : String, s = text ++ behind ∧ '\n' ∉ text.toList ∧ ';' ∉ text.toList ∧
        (∀ c, behind.toList.head? = some c → c = '\n' ∨ c = ';') ∧
        IsTokenBefore d behind ("'" ++ text) (.literal text) := by
  refine ⟨fun value rest hrest => ⟨isTokenBefore_encodeLiteral hrest, fun e he => ?_⟩, fun s hs => ?_⟩
  · obtain ⟨letter, hletter, rfl⟩ : ∃ letter : Char, letter.toLower = 'e' ∧ e = String.singleton letter := by
      simp only [List.mem_cons, List.not_mem_nil, or_false] at he
      rcases he with rfl | rfl
      · exact ⟨'E', rfl, rfl⟩
      · exact ⟨'e', rfl, rfl⟩
    exact isTokenBefore_escapedLiteral hletter hrest
  · obtain ⟨text, behind, rfl, htext, hbehind⟩ := exists_cut s
    have hcut := isTokenBefore_cut (d := d) hs htext hbehind
    refine ⟨text, behind, rfl, fun hc => ?_, fun hc => ?_, fun c hc => ?_, hcut⟩
    · exact absurd (htext _ hc) (by decide)
    · exact absurd (htext _ hc) (by decide)
    · simpa [Piece.cutsLiteral] using hbehind c hc

theorem isTokenBefore_literal_runs :
    ", x".toList.head? ≠ some '\'' ∧ '\'' ∉ "a\\; b".toList ∧
      tokenize .postgres (encodeLiteral false "a\\" ++ ", x") =
        .ok [⟨.literal "a\\", 0, 4⟩, ⟨.comma, 4, 5⟩, ⟨.word "x", 6, 7⟩, ⟨.endOfText, 7, 7⟩] ∧
      tokenize .postgres ("E" ++ encodeLiteral true "';\\" ++ ", x") =
        .ok [⟨.literal "';\\", 0, 8⟩, ⟨.comma, 8, 9⟩, ⟨.word "x", 10, 11⟩, ⟨.endOfText, 11, 11⟩] ∧
      ∃ text behind : String, "a\\; b" = text ++ behind ∧ '\n' ∉ text.toList ∧ ';' ∉ text.toList ∧
        (∀ c, behind.toList.head? = some c → c = '\n' ∨ c = ';') ∧
        IsTokenBefore .mysql behind ("'" ++ text) (.literal text) := by
  have hrest : tokenize .postgres ", x" = .ok [⟨.comma, 0, 1⟩, ⟨.word "x", 2, 3⟩, ⟨.endOfText, 3, 3⟩] :=
    tokenize_ofList (by with_unfolding_all decide) (by with_unfolding_all decide)
  obtain ⟨hplain, -⟩ := (isTokenBefore_literal .postgres).1 "a\\" ", x" (by decide)
  obtain ⟨-, hescaped⟩ := (isTokenBefore_literal .postgres).1 "';\\" ", x" (by decide)
  exact ⟨by decide, by decide, (hplain _).2 ⟨_, hrest, by decide⟩,
    (hescaped "E" (by decide) _).2 ⟨_, hrest, by decide⟩,
    (isTokenBefore_literal .mysql).2 "a\\; b" (by decide)⟩

end Literals

end SqlSchema
