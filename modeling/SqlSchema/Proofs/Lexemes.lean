import SqlSchema.Proofs.CharClasses
import SqlSchema.Token.Scan
/-!
# Lexemes

The lexical grammar: which pieces a text can start with, given the first character behind them. A piece
is cut off if and only if it is a lexeme there; a cut literal is the only piece that depends on more of
the text behind it.
-/
namespace SqlSchema

namespace Piece

/-- The text of a quoted identifier between its delimiters: each closing delimiter stands twice. -/
inductive Doubled (close : Char) : List Char → Prop
  | nil : Doubled close []
  | pair {cs : List Char} : Doubled close cs → Doubled close (close :: close :: cs)
  | plain {c : Char} {cs : List Char} : c ≠ close → Doubled close cs → Doubled close (c :: cs)

/-- The text of a literal between its quotes: each quote stands twice or is escaped. -/
inductive Literal (escapes : Bool) : List Char → Prop
  | nil : Literal escapes []
  | quotes {cs : List Char} : Literal escapes cs → Literal escapes ('\'' :: '\'' :: cs)
  | escape {c : Char} {cs : List Char} :
      escapes → Literal escapes cs → Literal escapes ('\\' :: c :: cs)
  | plain {c : Char} {cs : List Char} :
      c ≠ '\'' → ¬(c = '\\' ∧ escapes) → Literal escapes cs → Literal escapes (c :: cs)

/-- The text of a closed comment: the end sign does not occur in it. -/
inductive Comment : List Char → Prop
  | nil : Comment []
  | cons {c : Char} {cs : List Char} :
      ¬(c = '*' ∧ cs.head? = some '/') → Comment cs → Comment (c :: cs)

theorem splitQuoted_eq_some {close : Char} {body rest : List Char} (h : Doubled close body)
    (hr : rest.head? ≠ some close) : splitQuoted close (body ++ close :: rest) = some (body, rest) := by
  induction h with
  | nil =>
    cases rest with
    | nil => simp [splitQuoted]
    | cons d rest =>
      have hd : d ≠ close := by simpa using hr
      simp [splitQuoted, hd]
  | pair h ih => simp [splitQuoted, ih]
  | @plain c cs hc h ih =>
    obtain ⟨d, more, hd⟩ : ∃ d more, cs ++ close :: rest = d :: more := by cases cs <;> simp
    rw [List.cons_append, hd, splitQuoted, if_neg hc, ← hd, ih]
    rfl

theorem doubled_of_splitQuoted {close : Char} {cs body rest : List Char}
    (h : splitQuoted close cs = some (body, rest)) : Doubled close body ∧ rest.head? ≠ some close := by
  fun_induction splitQuoted close cs generalizing body with
  | case1 => simp at h
  | case2 =>
    simp only [Option.some.injEq, Prod.mk.injEq] at h
    obtain ⟨rfl, rfl⟩ := h
    exact ⟨.nil, by simp⟩
  | case3 => simp at h
  | case4 more ih =>
    simp only [Option.map_eq_some_iff, Prod.mk.injEq, Prod.exists] at h
    obtain ⟨b, r, hb, rfl, rfl⟩ := h
    exact ⟨.pair (ih hb).1, (ih hb).2⟩
  | case5 d more hd =>
    simp only [Option.some.injEq, Prod.mk.injEq] at h
    obtain ⟨rfl, rfl⟩ := h
    exact ⟨.nil, by simpa using hd⟩
  | case6 c d more hc ih =>
    simp only [Option.map_eq_some_iff, Prod.mk.injEq, Prod.exists] at h
    obtain ⟨b, r, hb, rfl, rfl⟩ := h
    exact ⟨.plain hc (ih hb).1, (ih hb).2⟩

theorem splitLiteral_eq_some {escapes : Bool} {body rest : List Char} (h : Literal escapes body)
    (hr : rest.head? ≠ some '\'') :
    splitLiteral escapes (body ++ '\'' :: rest) = some (body, rest) := by
  induction h with
  | nil =>
    cases rest with
    | nil => simp [splitLiteral]
    | cons d rest =>
      have hd : d ≠ '\'' := by simpa using hr
      simp [splitLiteral, hd]
  | quotes h ih => simp [splitLiteral, ih]
  | escape he h ih => simpa [splitLiteral, he] using ih
  | @plain c cs hq he h ih =>
    obtain ⟨d, more, hd⟩ : ∃ d more, cs ++ '\'' :: rest = d :: more := by cases cs <;> simp
    rw [List.cons_append, hd, splitLiteral, if_neg (by simp [hq, he]), if_neg hq, ← hd, ih]
    rfl

theorem literal_of_splitLiteral {escapes : Bool} {cs body rest : List Char}
    (h : splitLiteral escapes cs = some (body, rest)) :
    Literal escapes body ∧ rest.head? ≠ some '\'' := by
  fun_induction splitLiteral escapes cs generalizing body with
  | case1 => simp at h
  | case2 =>
    simp only [Option.some.injEq, Prod.mk.injEq] at h
    obtain ⟨rfl, rfl⟩ := h
    exact ⟨.nil, by simp⟩
  | case3 => simp at h
  | case4 c d more hc ih =>
    simp only [Option.map_eq_some_iff, Prod.mk.injEq, Prod.exists] at h
    obtain ⟨b, r, hb, rfl, rfl⟩ := h
    rcases hc with ⟨rfl, rfl⟩ | ⟨rfl, he⟩
    · exact ⟨.quotes (ih hb).1, (ih hb).2⟩
    · exact ⟨.escape he (ih hb).1, (ih hb).2⟩
  | case5 d more hd =>
    simp only [Option.some.injEq, Prod.mk.injEq] at h
    obtain ⟨rfl, rfl⟩ := h
    exact ⟨.nil, by simpa using hd⟩
  | case6 c d more hc hq ih =>
    simp only [Option.map_eq_some_iff, Prod.mk.injEq, Prod.exists] at h
    obtain ⟨b, r, hb, rfl, rfl⟩ := h
    exact ⟨.plain hq (fun he => hc (.inr he)) (ih hb).1, (ih hb).2⟩

theorem splitComment_eq_some {body : List Char} (h : Comment body) (rest : List Char) :
    splitComment (body ++ '*' :: '/' :: rest) = some (body, rest) := by
  induction h with
  | nil => simp [splitComment]
  | @cons c cs hc h ih =>
    obtain ⟨d, more, hd⟩ : ∃ d more, cs ++ '*' :: '/' :: rest = d :: more := by cases cs <;> simp
    have hcd : ¬(c = '*' ∧ d = '/') := by
      cases cs with
      | nil =>
        obtain ⟨rfl, -⟩ := List.cons.inj hd
        simp
      | cons e cs =>
        obtain ⟨rfl, -⟩ := List.cons.inj hd
        simpa using hc
    rw [List.cons_append, hd, splitComment, if_neg hcd, ← hd, ih]
    rfl

theorem comment_of_splitComment {cs body rest : List Char}
    (h : splitComment cs = some (body, rest)) : Comment body := by
  fun_induction splitComment cs generalizing body with
  | case1 => simp at h
  | case2 => simp at h
  | case3 =>
    simp only [Option.some.injEq, Prod.mk.injEq] at h
    rw [← h.1]
    exact .nil
  | case4 c d more hc ih =>
    simp only [Option.map_eq_some_iff, Prod.mk.injEq, Prod.exists] at h
    obtain ⟨b, r, hb, rfl, rfl⟩ := h
    refine .cons (fun hcd => hc ⟨hcd.1, ?_⟩) (ih hb)
    have happ := splitComment_append hb
    cases b with
    | nil => simp at hcd
    | cons e b =>
      simp only [List.cons_append, List.cons.injEq] at happ
      simpa [← happ.1] using hcd.2

/-- The two signs that open a comment up to the end of the line. -/
def opensLineComment (d : Dialect) (c : Char) (behind : List Char) : Prop :=
  (c = '-' ∧ behind.head? = some '-') ∨ (c = '#' ∧ hashOpensComment d behind)

/-- The lexical grammar: `Lexeme d p next` says that `p` is cut off whole where `next` follows. -/
inductive Lexeme (d : Dialect) : Piece → Option Char → Prop
  | blank {c : Char} {next : Option Char} : Text.isBlank c → Lexeme d ⟨.blank, [c]⟩ next
  | quoted {q : QuoteStyle} {body : List Char} {next : Option Char} :
      q ∈ d.quoteStyles → Doubled q.closing body →
      (q = .bracket → (body ++ [']']).head? ≠ some ']') → next ≠ some q.closing →
      Lexeme d ⟨.token (.quoted (String.ofList (QuoteStyle.undouble q.closing body))),
        q.opening :: body ++ [q.closing]⟩ next
  | lineComment {c : Char} {line ending : List Char} {next : Option Char} :
      '\n' ∉ line → opensLineComment d c (line ++ ending) →
      ending = ['\n'] ∨ ending = [] ∧ next = none →
      Lexeme d ⟨.lineComment, c :: line ++ ending⟩ next
  | blockComment {body : List Char} {next : Option Char} :
      Comment body → Lexeme d ⟨.blockComment true, '/' :: '*' :: body ++ ['*', '/']⟩ next
  | openComment {cs : List Char} :
      splitComment cs = none → Lexeme d ⟨.blockComment false, '/' :: '*' :: cs⟩ none
  | punctuation {c : Char} {kind : TokenKind} {next : Option Char} :
      punctuation? c = some kind → (c = '[' → next = some ']' ∨ .bracket ∉ d.quoteStyles) →
      Lexeme d ⟨.token kind, [c]⟩ next
  | literal {body : List Char} {next : Option Char} :
      Literal (d == .mysql) body → next ≠ some '\'' →
      Lexeme d ⟨.token (.literal (String.ofList (literalValue (d == .mysql) body))),
        '\'' :: body ++ ['\'']⟩ next
  | escapedLiteral {e : Char} {body : List Char} {next : Option Char} :
      e.toLower = 'e' → Literal true body → next ≠ some '\'' →
      Lexeme d ⟨.token (.literal (String.ofList (literalValue true body))),
        e :: '\'' :: body ++ ['\'']⟩ next
  | number {c : Char} {cs : List Char} {next : Option Char} :
      c.isDigit → (∀ x ∈ cs, continuesNumber x) → next.all (fun x => !continuesNumber x) →
      Lexeme d ⟨.token (.number (String.ofList (c :: cs))), c :: cs⟩ next
  | word {c : Char} {cs : List Char} {next : Option Char} :
      opensWord c → (∀ x ∈ cs, continuesWord d x) → next.all (fun x => !continuesWord d x) →
      (cs = [] → c.toLower = 'e' → next ≠ some '\'') →
      ¬(c = '#' ∧ hashOpensComment d (cs ++ next.toList)) →
      Lexeme d ⟨.token (.word (String.ofList (c :: cs))), c :: cs⟩ next
  | stray {c : Char} {next : Option Char} :
      d.styleOpening? c = none → Text.isBlank c = false → ¬(c = '-' ∧ next = some '-') →
      ¬(c = '/' ∧ next = some '*') → punctuation? c = none → c ≠ '\'' → c.isDigit = false →
      opensWord c = false → Lexeme d ⟨.stray, [c]⟩ next

theorem eq_of_toLower {e : Char} (h : e.toLower = 'e') : e = 'e' ∨ e = 'E' := by
  unfold Char.toLower at h
  split at h
  · right
    have hv : e.val + 32 = 101 := congrArg Char.val h
    exact Char.ext (by grind)
  · exact .inl h

private theorem read?_eq_readPlain {d : Dialect} {c : Char} (cs : List Char) (hb : c ≠ '\x60')
    (hk : c ≠ '[') (hq : c ≠ '"') : read? d c cs = some (readPlain d c cs) := by
  simp [read?, openedStyle?, hk, Dialect.styleOpening?_eq_none hb hk hq]

theorem openedStyle?_eq_some_iff {d : Dialect} {c : Char} {cs : List Char} {q : QuoteStyle} :
    openedStyle? d c cs = some q ↔
      q ∈ d.quoteStyles ∧ q.opening = c ∧ ¬(c = '[' ∧ cs.head? = some ']') := by
  unfold openedStyle?
  constructor
  · intro h
    split at h
    · simp at h
    · next hsuffix =>
      exact ⟨List.mem_of_find?_eq_some h, by simpa using List.find?_some h, hsuffix⟩
  · rintro ⟨hq, rfl, hsuffix⟩
    rw [if_neg hsuffix, Dialect.styleOpening?_opening hq]

theorem openedStyle?_bracket_eq_none_iff {d : Dialect} {cs : List Char} :
    openedStyle? d '[' cs = none ↔ cs.head? = some ']' ∨ .bracket ∉ d.quoteStyles := by
  rw [Option.eq_none_iff_forall_ne_some]
  simp only [ne_eq, openedStyle?_eq_some_iff, true_and]
  constructor
  · intro h
    by_cases hsuffix : cs.head? = some ']'
    · exact .inl hsuffix
    · exact .inr fun hq => h .bracket ⟨hq, rfl, hsuffix⟩
  · rintro h q ⟨hq, hopening, hsuffix⟩
    cases q with
    | bracket => exact (h.resolve_left hsuffix) hq
    | backtick => simp [QuoteStyle.opening] at hopening
    | double => simp [QuoteStyle.opening] at hopening

private theorem read?_bracket {d : Dialect} {cs : List Char}
    (h : cs.head? = some ']' ∨ .bracket ∉ d.quoteStyles) :
    read? d '[' cs = some (readPlain d '[' cs) := by
  rw [read?, openedStyle?_bracket_eq_none_iff.2 h]

/-- An identifier opens as an array suffix only in brackets, where nothing or another bracket is quoted first. -/
private theorem not_suffix_iff {q : QuoteStyle} {body rest : List Char} :
    ¬(q.opening = '[' ∧ (body ++ q.closing :: rest).head? = some ']') ↔
      (q = .bracket → (body ++ [']']).head? ≠ some ']') := by
  cases q with
  | backtick => simp [QuoteStyle.opening]
  | double => simp [QuoteStyle.opening]
  | bracket => cases body <;> simp [QuoteStyle.opening, QuoteStyle.closing]

theorem strip?_delimited (q : QuoteStyle) (body : List Char) :
    q.strip? (q.opening :: (body ++ [q.closing])) = some (QuoteStyle.undouble q.closing body) := by
  simp [QuoteStyle.strip?]

private theorem takeWhile_append {p : Char → Bool} {cs rest : List Char} (h : ∀ x ∈ cs, p x)
    (hr : rest.head?.all (fun x => !p x)) :
    (cs ++ rest).takeWhile p = cs ∧ (cs ++ rest).dropWhile p = rest := by
  rw [List.takeWhile_append_of_pos h, List.dropWhile_append_of_pos h]
  cases rest with
  | nil => simp
  | cons x rest =>
    have hx : p x = false := by simpa using hr
    simp [hx]

private theorem readWord_eq {d : Dialect} {c : Char} {cs rest : List Char}
    (hcs : ∀ x ∈ cs, continuesWord d x) (hr : rest.head?.all (fun x => !continuesWord d x))
    (he : cs = [] → c.toLower = 'e' → rest.head? ≠ some '\'') :
    readWord d c (cs ++ rest) = (⟨.token (.word (String.ofList (c :: cs))), c :: cs⟩, rest) := by
  obtain ⟨ht, hd⟩ := takeWhile_append hcs hr
  unfold readWord
  simp only [ht, hd]
  split
  · next e more hc =>
    simp only [List.cons.injEq] at hc
    obtain ⟨rfl, rfl⟩ := hc
    rw [if_neg (fun hl => he rfl hl (by simp))]
  · rfl

private theorem readLiteral_eq {escapes : Bool} {body rest : List Char} (lead : List Char)
    (hbody : Literal escapes body) (hr : rest.head? ≠ some '\'') :
    readLiteral escapes lead (body ++ '\'' :: rest) =
      (⟨.token (.literal (String.ofList (literalValue escapes body))), lead ++ body ++ ['\'']⟩,
        rest) := by
  simp [readLiteral, splitLiteral_eq_some hbody hr]

private theorem readLineComment_eq (c : Char) {line ending : List Char} (rest : List Char)
    (hline : '\n' ∉ line) (hend : ending = ['\n'] ∨ ending = [] ∧ rest = []) :
    readLineComment c (line ++ ending ++ rest) = (⟨.lineComment, c :: line ++ ending⟩, rest) := by
  have hall : ∀ x ∈ line, (x != '\n') = true := by
    intro x hx
    simpa using fun (h : x = '\n') => hline (h ▸ hx)
  rw [List.append_assoc]
  have hr : (ending ++ rest).head?.all (fun x => !(x != '\n')) := by
    rcases hend with rfl | ⟨rfl, rfl⟩ <;> simp
  obtain ⟨ht, hd⟩ := takeWhile_append hall hr
  rw [readLineComment, ht, hd]
  rcases hend with rfl | ⟨rfl, rfl⟩ <;> simp

private theorem readPlain_eq {d : Dialect} {c : Char} {cs : List Char} (hb : Text.isBlank c = false)
    (hminus : ¬(c = '-' ∧ cs.head? = some '-')) (hhash : ¬(c = '#' ∧ hashOpensComment d cs))
    (hslash : ¬(c = '/' ∧ cs.head? = some '*')) :
    readPlain d c cs =
      match punctuation? c with
      | some kind => (⟨.token kind, [c]⟩, cs)
      | none =>
        if c = '\'' then readLiteral (d == .mysql) [c] cs
        else if c.isDigit then readNumber c cs
        else if opensWord c then readWord d c cs
        else (⟨.stray, [c]⟩, cs) := by
  rewrite [readPlain, if_neg (by simp [hb]), if_neg hminus, if_neg hhash, if_neg hslash]
  cases punctuation? c <;> rfl

private theorem readPlain_lineComment {d : Dialect} {c : Char} {cs : List Char}
    (h : opensLineComment d c cs) : readPlain d c cs = readLineComment c cs := by
  rcases h with ⟨rfl, h⟩ | ⟨rfl, h⟩
  · rw [readPlain, if_neg (by decide), if_pos ⟨rfl, h⟩]
  · rw [readPlain, if_neg (by decide), if_neg (by simp), if_pos ⟨rfl, h⟩]

private theorem read?_blockComment (d : Dialect) (cs : List Char) :
    read? d '/' ('*' :: cs) = some (readBlockComment cs) := by
  rw [read?_eq_readPlain _ (by decide) (by decide) (by decide), readPlain, if_neg (by decide),
    if_neg (by simp), if_neg (by simp), if_pos (by simp), List.tail_cons]

private theorem opensLineComment_append {d : Dialect} {c : Char} {line ending rest : List Char}
    (h : opensLineComment d c (line ++ ending)) (hend : ending = ['\n'] ∨ ending = [] ∧ rest = []) :
    opensLineComment d c (line ++ ending ++ rest) := by
  rcases hend with rfl | ⟨rfl, rfl⟩
  · cases line <;> simpa [opensLineComment, hashOpensComment] using h
  · simpa using h

private theorem hashOpensComment_append (d : Dialect) (cs rest : List Char) :
    hashOpensComment d (cs ++ rest) = hashOpensComment d (cs ++ rest.head?.toList) := by
  cases cs <;> cases rest <;> simp [hashOpensComment]

theorem read?_quote (d : Dialect) (cs : List Char) :
    read? d '\'' cs = some (readLiteral (d == .mysql) ['\''] cs) := by
  rw [read?_eq_readPlain _ (by decide) (by decide) (by decide),
    readPlain_eq (by decide) (by simp) (by simp) (by simp)]
  simp [punctuation?]

theorem read?_escape (d : Dialect) {e : Char} (he : e.toLower = 'e') (cs : List Char) :
    read? d e ('\'' :: cs) = some (readLiteral true [e, '\''] cs) := by
  have hstop : continuesWord d '\'' = false := by cases d <;> rfl
  have hword : readWord d e ('\'' :: cs) = readLiteral true [e, '\''] cs := by
    simp [readWord, hstop, he]
  rw [← hword]
  rcases eq_of_toLower he with rfl | rfl <;>
  · rw [read?_eq_readPlain _ (by decide) (by decide) (by decide),
      readPlain_eq (by decide) (by simp) (by simp) (by simp)]
    rfl

section Cuts

variable {d : Dialect} {c : Char} {cs rest : List Char}

private theorem read?_blank (hc : Text.isBlank c) : read? d c rest = some (⟨.blank, [c]⟩, rest) := by
  rw [read?_eq_readPlain _ (Text.ne_of_class hc (by rfl)) (Text.ne_of_class hc (by rfl))
    (Text.ne_of_class hc (by rfl))]
  simp [readPlain, hc]

private theorem read?_quoted {q : QuoteStyle} {body : List Char} (hq : q ∈ d.quoteStyles)
    (hbody : Doubled q.closing body) (hk : q = .bracket → (body ++ [']']).head? ≠ some ']')
    (hrest : rest.head? ≠ some q.closing) :
    read? d q.opening (body ++ [q.closing] ++ rest) =
      some (⟨.token (.quoted (String.ofList (QuoteStyle.undouble q.closing body))),
        q.opening :: body ++ [q.closing]⟩, rest) := by
  rw [List.append_assoc, List.singleton_append, read?,
    openedStyle?_eq_some_iff.2 ⟨hq, rfl, not_suffix_iff.2 hk⟩]
  simp only [readQuoted, splitQuoted_eq_some hbody hrest, Option.map_some, List.cons_append,
    strip?_delimited, Option.getD_some]

private theorem read?_lineComment {line ending : List Char} (hline : '\n' ∉ line)
    (hopens : opensLineComment d c (line ++ ending))
    (hend : ending = ['\n'] ∨ ending = [] ∧ rest = []) :
    read? d c (line ++ ending ++ rest) = some (⟨.lineComment, c :: line ++ ending⟩, rest) := by
  have hc : c = '-' ∨ c = '#' := by
    rcases hopens with ⟨hc, -⟩ | ⟨hc, -⟩ <;> simp [hc]
  have hplain : read? d c (line ++ ending ++ rest) = some (readPlain d c (line ++ ending ++ rest)) := by
    rcases hc with rfl | rfl <;> exact read?_eq_readPlain _ (by decide) (by decide) (by decide)
  rw [hplain, readPlain_lineComment (opensLineComment_append hopens hend),
    readLineComment_eq _ _ hline hend]

private theorem read?_punctuation {kind : TokenKind} (hkind : punctuation? c = some kind)
    (hk : c = '[' → rest.head? = some ']' ∨ .bracket ∉ d.quoteStyles) :
    read? d c rest = some (⟨.token kind, [c]⟩, rest) := by
  have hne (x : Char) (hx : punctuation? x = none) : c ≠ x := by
    rintro rfl
    simp [hx] at hkind
  have hb : Text.isBlank c = false :=
    Bool.eq_false_iff.2 fun hb => by simp [punctuation?_of_isBlank hb] at hkind
  have hplain : read? d c rest = some (readPlain d c rest) := by
    by_cases hc : c = '['
    · subst hc
      exact read?_bracket (hk rfl)
    · exact read?_eq_readPlain _ (hne _ rfl) hc (hne _ rfl)
  rw [hplain, readPlain_eq hb (by simp [hne '-' rfl]) (by simp [hne '#' rfl])
    (by simp [hne '/' rfl]), hkind]

private theorem read?_number (hc : c.isDigit) (hcs : ∀ x ∈ cs, continuesNumber x)
    (hrest : rest.head?.all (fun x => !continuesNumber x)) :
    read? d c (cs ++ rest) = some (⟨.token (.number (String.ofList (c :: cs))), c :: cs⟩, rest) := by
  have hne (x : Char) (hx : x.isDigit = false) : c ≠ x := Text.ne_of_class hc hx
  obtain ⟨ht, hd⟩ := takeWhile_append hcs hrest
  rw [read?_eq_readPlain _ (hne _ (by rfl)) (hne _ (by rfl)) (hne _ (by rfl)),
    readPlain_eq (Text.isBlank_of_isDigit hc) (by simp [hne '-' (by rfl)])
      (by simp [hne '#' (by rfl)]) (by simp [hne '/' (by rfl)])]
  simp [punctuation?_of_isDigit hc, hne '\'' (by rfl), hc, readNumber, ht, hd]

private theorem read?_word (hc : opensWord c) (hcs : ∀ x ∈ cs, continuesWord d x)
    (hrest : rest.head?.all (fun x => !continuesWord d x))
    (he : cs = [] → c.toLower = 'e' → rest.head? ≠ some '\'')
    (hhash : ¬(c = '#' ∧ hashOpensComment d (cs ++ rest.head?.toList))) :
    read? d c (cs ++ rest) = some (⟨.token (.word (String.ofList (c :: cs))), c :: cs⟩, rest) := by
  have hne (x : Char) (hx : opensWord x = false) : c ≠ x := Text.ne_of_class hc hx
  rw [read?_eq_readPlain _ (hne _ (by rfl)) (hne _ (by rfl)) (hne _ (by rfl)),
    readPlain_eq (isBlank_of_opensWord hc) (by simp [hne '-' (by rfl)])
      (by rwa [hashOpensComment_append]) (by simp [hne '/' (by rfl)])]
  simp [punctuation?_of_opensWord hc, hne '\'' (by rfl), isDigit_of_opensWord hc, hc,
    readWord_eq hcs hrest he]

private theorem read?_stray (hs : d.styleOpening? c = none) (hb : Text.isBlank c = false)
    (hminus : ¬(c = '-' ∧ rest.head? = some '-')) (hslash : ¬(c = '/' ∧ rest.head? = some '*'))
    (hp : punctuation? c = none) (hquote : c ≠ '\'') (hd : c.isDigit = false)
    (hw : opensWord c = false) : read? d c rest = some (⟨.stray, [c]⟩, rest) := by
  have hhash : c ≠ '#' := by
    rintro rfl
    simp [opensWord] at hw
  have hopen : openedStyle? d c rest = none := by simp [openedStyle?, hs]
  rw [read?, hopen]
  simp [readPlain_eq hb hminus (by simp [hhash]) hslash, hp, hquote, hd, hw]

end Cuts

/-- A lexeme is cut off whole, whatever stands behind the character that follows it. -/
theorem Lexeme.read? {d : Dialect} {p : Piece} {rest : List Char} (h : Lexeme d p rest.head?) :
    ∃ c cs, p.raw = c :: cs ∧ Piece.read? d c (cs ++ rest) = some (p, rest) := by
  generalize hn : rest.head? = next at h
  cases h with
  | blank hc => exact ⟨_, [], rfl, read?_blank hc⟩
  | quoted hq hbody hk hnext => exact ⟨_, _, rfl, read?_quoted hq hbody hk (hn ▸ hnext)⟩
  | lineComment hline hopens hend =>
    refine ⟨_, _, rfl, read?_lineComment hline hopens (hend.imp_right fun h => ⟨h.1, ?_⟩)⟩
    simpa [h.2] using hn
  | @blockComment body _ hbody =>
    refine ⟨'/', '*' :: body ++ ['*', '/'], rfl, ?_⟩
    simp only [List.cons_append, List.append_assoc, List.nil_append, read?_blockComment]
    simp [readBlockComment, splitComment_eq_some hbody]
  | @openComment cs hcs =>
    refine ⟨'/', '*' :: cs, rfl, ?_⟩
    obtain rfl : rest = [] := by simpa using hn
    simp [read?_blockComment, readBlockComment, hcs]
  | punctuation hkind hk => exact ⟨_, [], rfl, read?_punctuation hkind (hn ▸ hk)⟩
  | @literal body _ hbody hnext =>
    refine ⟨'\'', body ++ ['\''], rfl, ?_⟩
    subst hn
    simp [read?_quote, readLiteral_eq _ hbody hnext]
  | @escapedLiteral e body _ he hbody hnext =>
    refine ⟨e, '\'' :: body ++ ['\''], rfl, ?_⟩
    subst hn
    simp only [List.cons_append, List.append_assoc, List.nil_append, read?_escape _ he,
      readLiteral_eq _ hbody hnext]
  | number hc hcs hnext => exact ⟨_, _, rfl, read?_number hc hcs (hn ▸ hnext)⟩
  | word hc hcs hnext he hhash =>
    subst hn
    exact ⟨_, _, rfl, read?_word hc hcs hnext he hhash⟩
  | stray hs hb hminus hslash hp hquote hd hw =>
    subst hn
    exact ⟨_, [], rfl, read?_stray hs hb hminus hslash hp hquote hd hw⟩

private theorem head?_dropWhile (p : Char → Bool) (cs : List Char) :
    (cs.dropWhile p).head?.all (fun x => !p x) := by
  have h := List.head?_dropWhile_not p cs
  cases hd : (cs.dropWhile p).head? with
  | none => rfl
  | some x => simpa [hd] using h

private theorem mem_takeWhile {p : Char → Bool} {cs : List Char} {x : Char}
    (h : x ∈ cs.takeWhile p) : p x :=
  List.all_eq_true.1 List.all_takeWhile x h

private theorem exists_line (cs : List Char) :
    ∃ line tail, '\n' ∉ line ∧ (tail = [] ∨ ∃ more, tail = '\n' :: more) ∧ cs = line ++ tail := by
  refine ⟨cs.takeWhile (· != '\n'), cs.dropWhile (· != '\n'), ?_, ?_, by simp⟩
  · intro h
    simpa using mem_takeWhile h
  · have h := head?_dropWhile (· != '\n') cs
    cases hd : cs.dropWhile (· != '\n') with
    | nil => exact .inl rfl
    | cons x more => simp_all

private theorem lexeme_readLineComment {d : Dialect} {c : Char} {cs : List Char}
    (h : opensLineComment d c cs) :
    Lexeme d (readLineComment c cs).1 (readLineComment c cs).2.head? := by
  obtain ⟨line, tail, hline, htail, rfl⟩ := exists_line cs
  rcases htail with rfl | ⟨more, rfl⟩
  · have heq := readLineComment_eq c [] hline (.inr ⟨rfl, rfl⟩)
    rw [List.append_nil] at heq
    rw [heq]
    exact .lineComment hline h (.inr ⟨rfl, rfl⟩)
  · have heq := readLineComment_eq c more hline (.inl rfl)
    rw [List.append_assoc, List.singleton_append] at heq
    rw [heq]
    refine .lineComment hline ?_ (.inl rfl)
    cases line <;> simpa [opensLineComment, hashOpensComment] using h

private theorem exists_literal {escapes : Bool} {lead cs : List Char}
    (h : (readLiteral escapes lead cs).1.isCut = false) :
    ∃ body rest, Literal escapes body ∧ rest.head? ≠ some '\'' ∧ cs = body ++ '\'' :: rest := by
  unfold readLiteral at h
  split at h
  · next body rest hs =>
    obtain ⟨hbody, hrest⟩ := literal_of_splitLiteral hs
    exact ⟨body, rest, hbody, hrest, (splitLiteral_append hs).symm⟩
  · simp [isCut] at h

private theorem lexeme_readWord {d : Dialect} {c : Char} {cs : List Char} (hc : opensWord c)
    (hhash : ¬(c = '#' ∧ hashOpensComment d cs)) (hcut : (readWord d c cs).1.isCut = false) :
    Lexeme d (readWord d c cs).1 (readWord d c cs).2.head? := by
  have htake : ∀ x ∈ cs.takeWhile (continuesWord d), continuesWord d x := fun _ => mem_takeWhile
  have hnext := head?_dropWhile (continuesWord d) cs
  have happ : cs.takeWhile (continuesWord d) ++ cs.dropWhile (continuesWord d) = cs :=
    List.takeWhile_append_dropWhile
  rw [← happ, hashOpensComment_append] at hhash
  unfold readWord at hcut ⊢
  simp only at hcut ⊢
  split at hcut
  · next e rest ht hd =>
    split at hcut
    · next he =>
      rw [if_pos he]
      obtain ⟨body, more, hbody, hmore, rfl⟩ := exists_literal hcut
      rw [readLiteral_eq _ hbody hmore]
      exact .escapedLiteral he hbody hmore
    · next he =>
      rw [if_neg he]
      simp only [List.cons.injEq] at ht
      obtain ⟨rfl, ht⟩ := ht
      rw [ht, hd] at hhash
      rw [hd] at hnext
      rw [ht]
      exact .word hc (by simp) hnext (fun _ h => absurd h he) hhash
  · next hne =>
    refine .word hc htake hnext (fun hnil he hquote => ?_) hhash
    cases hd : cs.dropWhile (continuesWord d) with
    | nil => simp [hd] at hquote
    | cons x rest =>
      obtain rfl : x = '\'' := by simpa [hd] using hquote
      exact hne c rest (by rw [hnil]) hd

private theorem lexeme_readPlain {d : Dialect} {c : Char} {cs : List Char}
    (hs : openedStyle? d c cs = none) (hcut : (readPlain d c cs).1.isCut = false) :
    Lexeme d (readPlain d c cs).1 (readPlain d c cs).2.head? := by
  by_cases hb : Text.isBlank c
  · simp only [readPlain, hb, if_true]
    exact .blank hb
  by_cases hline : opensLineComment d c cs
  · rw [readPlain_lineComment hline]
    exact lexeme_readLineComment hline
  by_cases hblock : c = '/' ∧ cs.head? = some '*'
  · obtain ⟨rfl, hstar⟩ := hblock
    obtain ⟨more, rfl⟩ : ∃ more, cs = '*' :: more := by cases cs <;> simp_all
    have hread := read?_blockComment d more
    rw [read?_eq_readPlain _ (by decide) (by decide) (by decide), Option.some.injEq] at hread
    rw [hread, readBlockComment]
    cases hsplit : splitComment more with
    | none => exact .openComment hsplit
    | some split => exact .blockComment (comment_of_splitComment hsplit)
  have hminus : ¬(c = '-' ∧ cs.head? = some '-') := fun h => hline (.inl h)
  have hhash : ¬(c = '#' ∧ hashOpensComment d cs) := fun h => hline (.inr h)
  rw [readPlain_eq (by simpa using hb) hminus hhash hblock] at hcut ⊢
  cases hp : punctuation? c with
  | some kind =>
    refine .punctuation hp (fun hc => ?_)
    subst hc
    exact openedStyle?_bracket_eq_none_iff.1 hs
  | none =>
    simp only [hp] at hcut ⊢
    by_cases hq : c = '\''
    · subst hq
      simp only [if_true] at hcut ⊢
      obtain ⟨body, more, hbody, hmore, rfl⟩ := exists_literal hcut
      rw [readLiteral_eq _ hbody hmore]
      exact .literal hbody hmore
    by_cases hd : c.isDigit
    · simp only [hq, hd, if_false, if_true]
      exact .number hd (fun _ h => mem_takeWhile h) (head?_dropWhile _ _)
    by_cases hw : opensWord c
    · simp only [hq, hd, hw, if_false, if_true] at hcut ⊢
      exact lexeme_readWord hw hhash hcut
    · simp only [hq, hd, hw, if_false]
      refine .stray ?_ (by simpa using hb) hminus hblock hp hq (by simpa using hd) (by simpa using hw)
      have hk : c ≠ '[' := by
        rintro rfl
        simp [punctuation?] at hp
      simpa [openedStyle?, hk] using hs

/-- What is cut off is a lexeme, except for a cut literal. -/
theorem lexeme_of_read? {d : Dialect} {c : Char} {cs rest : List Char} {p : Piece}
    (h : read? d c cs = some (p, rest)) (hcut : p.isCut = false) : Lexeme d p rest.head? := by
  unfold read? at h
  split at h
  · next q hq =>
    simp only [readQuoted, Option.map_eq_some_iff, Prod.mk.injEq, Prod.exists] at h
    obtain ⟨body, more, hs, rfl, rfl⟩ := h
    obtain ⟨hbody, hmore⟩ := doubled_of_splitQuoted hs
    obtain ⟨hmem, rfl, hsuffix⟩ := openedStyle?_eq_some_iff.1 hq
    rw [← splitQuoted_append hs] at hsuffix
    rw [List.cons_append, strip?_delimited, Option.getD_some, ← List.cons_append]
    exact .quoted hmem hbody (not_suffix_iff.1 hsuffix) hmore
  · next hs =>
    simp only [Option.some.injEq] at h
    have key := lexeme_readPlain hs (by rwa [h])
    rwa [h] at key

end Piece

end SqlSchema
