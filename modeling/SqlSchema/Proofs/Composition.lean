import SqlSchema.Proofs.Relocation
/-!
# Composition of scripts

A script that ends behind a semicolon can be followed by another one: the statements of the joined
text are those of the first script and then those of the second, whatever white space and comments
stand between them.
-/
namespace SqlSchema

/-- Blanks, closed block comments and lines behind `--`. -/
inductive Gap : List Char → Prop
  | nil : Gap []
  | blank {c : Char} {cs : List Char} : Text.isBlank c → Gap cs → Gap (c :: cs)
  | blockComment {body cs : List Char} :
      Piece.Comment body → Gap cs → Gap ('/' :: '*' :: body ++ '*' :: '/' :: cs)
  | lineComment {line cs : List Char} :
      '\n' ∉ line → Gap cs → Gap ('-' :: '-' :: line ++ '\n' :: cs)

/-- A script is closed if no literal in it is cut short, no block comment is open at its end, and a
semicolon is its last token. -/
structure IsClosed (d : Dialect) (text : String) (ts : List Token) : Prop where
  uncut : ∀ p ∈ (scan d text.toList).1, p.isCut = false
  unopened : ∀ p ∈ (scan d text.toList).1, p.kind ≠ .blockComment false
  ended : ∀ t, ts.dropLast.getLast? = some t → t.kind = .semicolon

/-- Pieces that stay what they are in front of any text. -/
def IsSelfContained (d : Dialect) (ps : List Piece) : Prop := ∀ next, Lexemes d ps next

theorem IsSelfContained.append {d : Dialect} {ps qs : List Piece} (hp : IsSelfContained d ps)
    (hq : IsSelfContained d qs) : IsSelfContained d (ps ++ qs) :=
  fun next => lexemes_append.2 ⟨hp _, hq next⟩

private theorem isSelfContained_singleton {d : Dialect} {p : Piece}
    (h : ∀ next, Piece.Lexeme d p next) : IsSelfContained d [p] :=
  fun next => ⟨h next, trivial⟩

private theorem isSelfContained_blank (d : Dialect) {c : Char} (h : Text.isBlank c) :
    IsSelfContained d [⟨.blank, [c]⟩] :=
  isSelfContained_singleton fun _ => .blank h

theorem Gap.exists_pieces {gap : List Char} (h : Gap gap) (d : Dialect) :
    ∃ ps, rawText ps = gap ∧ ps.filterMap Piece.token? = [] ∧ IsSelfContained d ps := by
  induction h with
  | nil => exact ⟨[], rfl, rfl, fun _ => trivial⟩
  | @blank c cs hc h ih =>
    obtain ⟨ps, hraw, htokens, hself⟩ := ih
    exact ⟨⟨.blank, [c]⟩ :: ps, by simp [hraw], by simpa [Piece.token?] using htokens,
      (isSelfContained_blank d hc).append hself⟩
  | @blockComment body cs hbody h ih =>
    obtain ⟨ps, hraw, htokens, hself⟩ := ih
    refine ⟨⟨.blockComment true, '/' :: '*' :: body ++ ['*', '/']⟩ :: ps, by simp [hraw],
      by simpa [Piece.token?] using htokens, ?_⟩
    exact (isSelfContained_singleton fun _ => .blockComment hbody).append hself
  | @lineComment line cs hline h ih =>
    obtain ⟨ps, hraw, htokens, hself⟩ := ih
    refine ⟨⟨.lineComment, '-' :: ('-' :: line) ++ ['\n']⟩ :: ps, by simp [hraw],
      by simpa [Piece.token?] using htokens, ?_⟩
    refine (isSelfContained_singleton fun _ => .lineComment ?_ ?_ (.inl rfl)).append hself
    · simpa using hline
    · exact .inl ⟨rfl, rfl⟩

/-- A line break behind pieces makes them independent of what follows. A comment up to the end of the
text takes the line break in. -/
theorem exists_line_of_lexemes {d : Dialect} {ps : List Piece} (h : Lexemes d ps none)
    (hopen : ∀ p ∈ ps, p.kind ≠ .blockComment false) :
    ∃ qs, rawText qs = rawText ps ++ ['\n'] ∧ tokensIn 0 qs = tokensIn 0 ps ∧
      IsSelfContained d qs := by
  have hbreak : Text.isBlank '\n' := by rfl
  have hself (hps : IsSelfContained d ps) : ∃ qs, rawText qs = rawText ps ++ ['\n'] ∧
      tokensIn 0 qs = tokensIn 0 ps ∧ IsSelfContained d qs := by
    refine ⟨ps ++ [⟨.blank, ['\n']⟩], by simp, ?_, hps.append (isSelfContained_blank d hbreak)⟩
    simp [tokensIn_append, Piece.tokenAt?, Piece.token?]
  rcases List.eq_nil_or_concat ps with rfl | ⟨front, p, rfl⟩
  · exact hself fun _ => trivial
  rw [List.concat_eq_append] at *
  obtain ⟨hfront, hp⟩ := lexemes_concat.1 h
  by_cases hl : p.kind = .lineComment
  · cases hp with
    | @lineComment c line ending _ hline hopens hend =>
      rcases hend with rfl | ⟨rfl, -⟩
      · exact hself fun next => lexemes_concat.2 ⟨hfront, .lineComment hline hopens (.inl rfl)⟩
      · refine ⟨front ++ [⟨.lineComment, c :: line ++ ['\n']⟩], by simp, ?_, fun next => ?_⟩
        · simp [tokensIn_append, Piece.tokenAt?, Piece.token?]
        · refine lexemes_concat.2 ⟨by simpa using hfront, .lineComment hline ?_ (.inl rfl)⟩
          cases line <;> simpa [Piece.opensLineComment, Piece.hashOpensComment, hbreak] using hopens
    | _ => simp at hl
  · refine ⟨front ++ [p] ++ [⟨.blank, ['\n']⟩], by simp, ?_, fun next => ?_⟩
    · simp [tokensIn_append, Piece.tokenAt?, Piece.token?]
    · refine lexemes_concat.2 ⟨h.before (.inr ⟨rfl, rfl⟩) fun q hq => ?_, .blank hbreak⟩
      obtain rfl : p = q := by simpa using hq
      simp only [Piece.isComplete, Bool.and_eq_true, bne_iff_ne, Bool.not_eq_true']
      exact ⟨⟨hl, hopen p (by simp)⟩, hp.isCut⟩

theorem exists_statements {us : List Token} {semicolon : Token} (hs : semicolon.kind = .semicolon)
    (hu : ∀ t ∈ us, t.kind ≠ .endOfText) :
    ∃ statements, (∀ statement ∈ statements, statement ⊆ us) ∧
      ∀ ts, splitStatements (us ++ semicolon :: ts) = statements ++ splitStatements ts := by
  suffices key : ∃ first rest, (∀ statement ∈ first :: rest, statement ⊆ us) ∧
      ∀ ts, splitStatements (us ++ semicolon :: ts) = first :: rest ++ splitStatements ts by
    obtain ⟨first, rest, hall, heq⟩ := key
    exact ⟨first :: rest, hall, heq⟩
  induction us with
  | nil => exact ⟨[], [], by simp, fun ts => by simp [splitStatements, hs]⟩
  | cons t us ih =>
    obtain ⟨first, rest, hall, heq⟩ := ih fun u hm => hu u (by simp [hm])
    have ht : t.kind ≠ .endOfText := hu t (by simp)
    have hmono (statement : List Token) (h : statement ∈ first :: rest) : statement ⊆ t :: us :=
      fun u hm => List.mem_cons_of_mem _ (hall statement h hm)
    by_cases hsemi : t.kind = .semicolon
    · refine ⟨[], first :: rest, fun statement h => ?_, fun ts => ?_⟩
      · rcases List.mem_cons.1 h with rfl | h
        · simp
        · exact hmono statement h
      · simp [splitStatements, hsemi, heq]
    · refine ⟨t :: first, rest, fun statement h => ?_, fun ts => ?_⟩
      · rcases List.mem_cons.1 h with rfl | h
        · exact List.cons_subset_cons t (hall first (by simp))
        · exact hmono statement (by simp [h])
      · simp [splitStatements, ht, hsemi, heq]

theorem readStatement?_nil (source : String) : readStatement? source [] = none := by
  simp [readStatement?, readCreate?, readOutline?_eq, readAlter?_eq, behind?]

theorem readStatements_behind (before source : List Char) {ts : List Token}
    (hts : ∀ t ∈ ts, t.stop ≤ Text.byteSize source) :
    readStatements (String.ofList (before ++ source)) (ts.map (Token.shift (Text.byteSize before))) =
      readStatements (String.ofList source) ts := by
  unfold readStatements
  rw [splitStatements_map (keepsRole_shift _), List.filterMap_map]
  refine List.filterMap_congr fun statement h => ?_
  have key := readStatement?_shift before source [] fun t ht => hts t ((splitStatements_isInfix h).subset ht)
  rwa [List.append_nil] at key

/-- The statements of a closed script come first in any text that starts with it. -/
theorem readStatements_closed (source after : List Char) {us : List Token}
    (hstop : ∀ t ∈ us, t.stop ≤ Text.byteSize source) (hend : ∀ t ∈ us, t.kind ≠ .endOfText)
    (hsemi : ∀ t, us.getLast? = some t → t.kind = .semicolon) (place : Nat) (ts : List Token) :
    readStatements (String.ofList (source ++ after)) (us ++ ts) =
      readStatements (String.ofList source) (us ++ [⟨.endOfText, place, place⟩]) ++
        readStatements (String.ofList (source ++ after)) ts := by
  rcases List.eq_nil_or_concat us with rfl | ⟨front, semicolon, rfl⟩
  · simp [readStatements, splitStatements, readStatement?_nil]
  rw [List.concat_eq_append] at *
  obtain ⟨statements, hsub, heq⟩ := exists_statements (hsemi semicolon (by simp))
    fun t (ht : t ∈ front) => hend t (by simp [ht])
  simp only [readStatements, List.append_assoc, List.singleton_append, heq, List.filterMap_append]
  have hempty : splitStatements [⟨.endOfText, place, place⟩] = [[]] := by simp [splitStatements]
  rw [hempty, List.filterMap_cons_none (readStatement?_nil _), List.filterMap_nil, List.nil_append]
  refine congrArg (· ++ _) (List.filterMap_congr fun statement h => ?_)
  have key := readStatement?_shift [] source after fun t (ht : t ∈ statement) =>
    hstop t (by simp [hsub statement h ht])
  have hid : statement.map (Token.shift 0) = statement := by
    conv_rhs => rw [← List.map_id statement]
    exact List.map_congr_left fun t _ => by simp [Token.shift]
  rwa [Text.byteSize_nil, hid, List.nil_append] at key

theorem IsClosed.exists_front {d : Dialect} {a : String} {gap : List Char} {ts : List Token}
    (hclosed : IsClosed d a ts) (hleft : (scan d a.toList).2 = []) (hgap : Gap gap) :
    ∃ front, rawText front = a.toList ++ '\n' :: gap ∧
      tokensIn 0 front = tokensIn 0 (scan d a.toList).1 ∧ IsSelfContained d front := by
  have hlex := lexemes_scan hclosed.uncut
  have hraw := rawText_scan d a.toList
  rw [hleft] at hlex hraw
  rw [List.append_nil] at hraw
  obtain ⟨ps, hps, htokens, hself⟩ := exists_line_of_lexemes hlex hclosed.unopened
  obtain ⟨qs, hqs, hnone, hgapSelf⟩ := hgap.exists_pieces d
  refine ⟨ps ++ qs, by simp [hps, hqs, hraw], ?_, hself.append hgapSelf⟩
  have hkinds := kind_tokensIn (0 + Text.byteSize (rawText ps)) qs
  rw [hnone, List.map_eq_nil_iff] at hkinds
  rw [tokensIn_append, hkinds, List.append_nil, htokens]

private theorem scan_join {d : Dialect} {a b : String} {gap : List Char} {front : List Piece}
    (hfront : rawText front = a.toList ++ '\n' :: gap) (hself : IsSelfContained d front) :
    scan d (a ++ String.ofList ('\n' :: gap) ++ b).toList =
      (front ++ (scan d b.toList).1, (scan d b.toList).2) := by
  rw [String.toList_append, String.toList_append, String.toList_ofList, ← hfront]
  exact scan_append _ (hself _)

theorem IsClosed.exists_join {d : Dialect} {a b : String} {gap : List Char} {ts us : List Token}
    (hclosed : IsClosed d a ts) (ha : tokenize d a = .ok ts) (hgap : Gap gap)
    (hb : tokenize d b = .ok us) :
    ∃ vs, tokenize d (a ++ String.ofList ('\n' :: gap) ++ b) = .ok vs ∧
      readStatements (a ++ String.ofList ('\n' :: gap) ++ b) vs =
        readStatements a ts ++ readStatements b us := by
  obtain ⟨hleft, rfl⟩ := tokenize_eq_ok_iff.1 ha
  obtain ⟨hbleft, rfl⟩ := tokenize_eq_ok_iff.1 hb
  obtain ⟨front, hfront, htokens, hself⟩ := hclosed.exists_front hleft hgap
  have hscan := scan_join (b := b) hfront hself
  refine ⟨_, tokenize_eq_ok_iff.2 ⟨by rw [hscan, hbleft], rfl⟩, ?_⟩
  have hlex := lexemes_scan hclosed.uncut
  have hraw := rawText_scan d a.toList
  have hbraw := rawText_scan d b.toList
  rw [hleft, List.append_nil] at hraw
  rw [hbleft, List.append_nil] at hbraw
  have htext : a ++ String.ofList ('\n' :: gap) ++ b =
      String.ofList (a.toList ++ ('\n' :: gap ++ b.toList)) := by
    rw [String.ofList_append, String.ofList_append, String.ofList_toList, String.ofList_toList,
      String.append_assoc]
  have hvs : tokensOf 0 (scan d (a ++ String.ofList ('\n' :: gap) ++ b).toList).1 =
      tokensIn 0 (scan d a.toList).1 ++
        (tokensOf 0 (scan d b.toList).1).map (Token.shift (Text.byteSize (rawText front))) := by
    rw [hscan, tokensOf_append, htokens, Nat.zero_add, tokensOf_eq_shift]
  have hsecond := readStatements_behind (rawText front) b.toList
    fun t (ht : t ∈ tokensOf 0 (scan d b.toList).1) => by
      rw [← hbraw]
      exact stop_of_mem_tokensOf ht
  have hfirst := readStatements_closed a.toList ('\n' :: gap ++ b.toList)
    (fun t (ht : t ∈ tokensIn 0 (scan d a.toList).1) => by
      rw [← hraw]
      simpa using stop_of_mem_tokensIn ht)
    (fun t ht => kind_ne_of_mem_tokensIn hlex ht)
    (fun t ht => hclosed.ended t (by simpa [tokensOf_eq] using ht))
    (Text.byteSize (rawText (scan d a.toList).1))
  rw [hfront, List.append_assoc] at hsecond
  rw [hvs, htext, hfirst, hfront, hsecond, String.ofList_toList, String.ofList_toList,
    tokensOf_eq 0 (scan d a.toList).1, Nat.zero_add]

/-- A closed script, a line break, a gap and another script read as the two scripts one after the
other. If the second one cannot be cut into tokens, neither can the joined text. -/
theorem readStatements_join {d : Dialect} {a b : String} {gap : List Char} {ts : List Token}
    (ha : tokenize d a = .ok ts) (hclosed : IsClosed d a ts) (hgap : Gap gap) :
    (∀ us, tokenize d b = .ok us →
      ∃ vs, tokenize d (a ++ String.ofList ('\n' :: gap) ++ b) = .ok vs ∧
        readStatements (a ++ String.ofList ('\n' :: gap) ++ b) vs =
          readStatements a ts ++ readStatements b us) ∧
    ((∃ place, tokenize d b = .error place) →
      ∃ place, tokenize d (a ++ String.ofList ('\n' :: gap) ++ b) = .error place) := by
  refine ⟨fun us hus => hclosed.exists_join ha hgap hus, fun hb => ?_⟩
  obtain ⟨front, hfront, -, hself⟩ := hclosed.exists_front (tokenize_eq_ok_iff.1 ha).1 hgap
  rw [tokenize_eq_error_iff] at hb ⊢
  rwa [scan_join hfront hself]

theorem readStatements_join_two_tables :
    ∃ ts us vs, tokenize .generic "CREATE TABLE a (x INT); -- first" = .ok ts ∧
      IsClosed .generic "CREATE TABLE a (x INT); -- first" ts ∧ Gap "--\n/* next */ ".toList ∧
      tokenize .generic "CREATE TABLE b (y INT)" = .ok us ∧
      tokenize .generic ("CREATE TABLE a (x INT); -- first" ++
        String.ofList ('\n' :: "--\n/* next */ ".toList) ++ "CREATE TABLE b (y INT)") = .ok vs ∧
      readStatements ("CREATE TABLE a (x INT); -- first" ++
          String.ofList ('\n' :: "--\n/* next */ ".toList) ++ "CREATE TABLE b (y INT)") vs =
        readStatements "CREATE TABLE a (x INT); -- first" ts ++
          readStatements "CREATE TABLE b (y INT)" us := by
  have ha : tokenize .generic "CREATE TABLE a (x INT); -- first" =
      .ok (tokensOf 0 (scan .generic "CREATE TABLE a (x INT); -- first".toList).1) :=
    tokenize_eq_ok_iff.2 ⟨by with_unfolding_all decide, rfl⟩
  have hb : tokenize .generic "CREATE TABLE b (y INT)" =
      .ok (tokensOf 0 (scan .generic "CREATE TABLE b (y INT)".toList).1) :=
    tokenize_eq_ok_iff.2 ⟨by with_unfolding_all decide, rfl⟩
  have hlast : ((tokensOf 0 (scan .generic "CREATE TABLE a (x INT); -- first".toList).1).dropLast
      ).getLast? = some ⟨.semicolon, 22, 23⟩ := by with_unfolding_all decide
  have hclosed : IsClosed .generic "CREATE TABLE a (x INT); -- first"
      (tokensOf 0 (scan .generic "CREATE TABLE a (x INT); -- first".toList).1) :=
    ⟨by with_unfolding_all decide, by with_unfolding_all decide, fun t ht => by
      rw [hlast, Option.some.injEq] at ht
      rw [← ht]⟩
  have hcomment : Piece.Comment " next ".toList :=
    Piece.comment_of_splitComment
      (show Piece.splitComment " next */".toList = some (" next ".toList, []) by decide)
  have hgap : Gap "--\n/* next */ ".toList :=
    show Gap ('-' :: '-' :: [] ++ '\n' :: ('/' :: '*' :: " next ".toList ++ '*' :: '/' :: [' '])) from
      .lineComment (by simp) (.blockComment hcomment (.blank rfl .nil))
  obtain ⟨vs, hvs, hread⟩ := (readStatements_join ha hclosed hgap).1 _ hb
  exact ⟨_, _, vs, ha, hclosed, hgap, hb, hvs, hread⟩

theorem readStatements_intercalate {α : Type} {d : Dialect} {xs : List α} {text : α → List Char}
    {statements : α → List Statement}
    (h : ∀ x ∈ xs, ∃ ts, tokenize d (String.ofList (text x)) = .ok ts ∧
      IsClosed d (String.ofList (text x)) ts ∧ readStatements (String.ofList (text x)) ts = statements x) :
    ∃ ts, tokenize d (String.ofList (['\n'].intercalate (xs.map text))) = .ok ts ∧
      readStatements (String.ofList (['\n'].intercalate (xs.map text))) ts = xs.flatMap statements := by
  induction xs with
  | nil =>
    refine ⟨_, tokenize_eq_ok_iff.2 ⟨by simp [scan_nil], rfl⟩, ?_⟩
    simp [scan_nil, tokensOf, readStatements, splitStatements, readStatement?_nil]
  | cons x xs ih =>
    obtain ⟨ts, hts, hclosed, hread⟩ := h x (by simp)
    cases xs with
    | nil => exact ⟨ts, by simpa using hts, by simpa using hread⟩
    | cons y xs =>
      obtain ⟨us, hus, hrest⟩ := ih fun z hz => h z (by simp [hz])
      obtain ⟨vs, hvs, heq⟩ := hclosed.exists_join hts .nil hus
      have htext : String.ofList (['\n'].intercalate ((x :: y :: xs).map text)) =
          String.ofList (text x) ++ String.ofList ('\n' :: []) ++
            String.ofList (['\n'].intercalate ((y :: xs).map text)) := by
        rw [List.map_cons, List.map_cons, List.intercalate_cons_cons, String.ofList_append,
          String.ofList_append]
      refine ⟨vs, by rwa [htext], ?_⟩
      rw [htext, heq, hread, hrest]
      rfl

end SqlSchema
