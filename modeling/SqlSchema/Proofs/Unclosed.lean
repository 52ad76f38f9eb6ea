import Mathlib.Data.List.DropRight
import SqlSchema.Proofs.CutLiterals
import SqlSchema.Proofs.Spans
/-!
# Identifiers that never close

A text that cannot be scanned has an opening delimiter behind which the closing ones stand in pairs up to
the end. What stands in front of it can be scanned on its own, and the error gives its line and column.
-/
namespace SqlSchema

namespace Text.Position

variable (p : Position)

theorem advance_append (xs ys : List Char) : p.advance (xs ++ ys) = (p.advance xs).advance ys :=
  List.foldl_append

theorem line_advance (cs : List Char) : (p.advance cs).line = p.line + cs.count '\n' := by
  induction cs generalizing p with
  | nil => rfl
  | cons c cs ih =>
    have hstep : p.advance (c :: cs) = (p.step c).advance cs := rfl
    rw [hstep, ih, List.count_cons]
    by_cases hc : c = '\n'
    · subst hc
      simp only [step, if_true, beq_self_eq_true]
      omega
    · simp [step, hc]

theorem column_advance (cs : List Char) :
    (start.advance cs).column = (cs.rtakeWhile (· ≠ '\n')).length + 1 := by
  induction cs using List.reverseRecOn with
  | nil => rfl
  | append_singleton cs c ih =>
    have hstep : start.advance (cs ++ [c]) = (start.advance cs).step c := advance_append _ _ _
    rw [hstep, List.rtakeWhile_concat]
    by_cases hc : c = '\n'
    · simp [step, hc]
    · simp [step, hc, ih]

end Text.Position

namespace Piece

/-- A quoted identifier is not closed if and only if the closing delimiters stand in pairs. -/
theorem splitQuoted_eq_none_iff {close : Char} {cs : List Char} :
    splitQuoted close cs = none ↔ Doubled close cs := by
  constructor
  · intro h
    fun_induction splitQuoted close cs with
    | case1 => exact .nil
    | case2 => simp at h
    | case3 c hc => exact .plain hc .nil
    | case4 more ih => exact .pair (ih (by simpa using h))
    | case5 => simp at h
    | case6 c d more hc ih => exact .plain hc (ih (by simpa using h))
  · intro h
    induction h with
    | nil => rfl
    | pair _ ih => simp [splitQuoted, ih]
    | @plain c cs hc _ ih =>
      cases cs with
      | nil => simp [splitQuoted, hc]
      | cons d cs => simp [splitQuoted, hc, ih]

theorem read?_eq_none_iff {d : Dialect} {c : Char} {cs : List Char} :
    read? d c cs = none ↔ ∃ q ∈ d.quoteStyles, q.opening = c ∧ ¬(c = '[' ∧ cs.head? = some ']') ∧
      Doubled q.closing cs := by
  constructor
  · intro h
    unfold read? at h
    split at h
    · next q hq =>
      obtain ⟨hmem, hopening, hsuffix⟩ := openedStyle?_eq_some_iff.1 hq
      have hsplit : splitQuoted q.closing cs = none := by simpa [readQuoted] using h
      exact ⟨q, hmem, hopening, hsuffix, splitQuoted_eq_none_iff.1 hsplit⟩
    · simp at h
  · rintro ⟨q, hq, hopening, hsuffix, hdoubled⟩
    rw [read?, openedStyle?_eq_some_iff.2 ⟨hq, hopening, hsuffix⟩]
    simp [readQuoted, splitQuoted_eq_none_iff.2 hdoubled]

section Front

variable {d : Dialect} {x : Char} {more : List Char}

private theorem splitLiteral_front {escapes : Bool} {cs : List Char} (hx : x ≠ '\'')
    (h : splitLiteral escapes (cs ++ x :: more) = none) : splitLiteral escapes cs = none := by
  fun_induction splitLiteral escapes cs with
  | case1 => rfl
  | case2 =>
    rw [List.singleton_append, splitLiteral, if_neg (by simp [hx])] at h
    simp at h
  | case3 => rfl
  | case4 c d rest hpair ih =>
    rw [List.cons_append, List.cons_append, splitLiteral, if_pos hpair] at h
    rw [ih (by simpa using h), Option.map_none]
  | case5 d rest hpair =>
    rw [List.cons_append, List.cons_append, splitLiteral, if_neg hpair] at h
    simp at h
  | case6 c d rest hpair hquote ih =>
    rw [List.cons_append, List.cons_append, splitLiteral, if_neg hpair, if_neg hquote] at h
    rw [ih (by simpa using h), Option.map_none]

private theorem readLiteral_front {escapes : Bool} {lead cs rest : List Char} {p : Piece} (hx : x ≠ '\'')
    (hcuts : cutsLiteral x = false) (hcut : p.isCut)
    (h : readLiteral escapes lead (cs ++ x :: more) = (p, rest ++ x :: more)) :
    (readLiteral escapes lead cs).2 = rest := by
  unfold readLiteral at h
  split at h
  · obtain ⟨rfl, -⟩ := Prod.mk.inj h
    simp [isCut] at hcut
  · next hsplit =>
    have hrest := (Prod.mk.inj h).2
    rw [readLiteral, splitLiteral_front hx hsplit]
    rw [List.dropWhile_append] at hrest
    split at hrest
    · -- the cut would go on behind the character, which is not left then
      have hshort := (List.dropWhile_suffix (l := more) fun c => !cutsLiteral c).length_le
      have hlength := congrArg List.length hrest
      simp only [List.dropWhile_cons, hcuts, Bool.not_false, if_true, List.length_append,
        List.length_cons] at hlength
      omega
    · exact List.append_cancel_right hrest

/-- A lexeme is one at the end of the text as well. Only a lone number sign opens a comment there. -/
private theorem Lexeme.exists_atEnd {p : Piece} (hx : x ≠ ']') (h : Lexeme d p (some x)) :
    ∃ p', p'.raw = p.raw ∧ Lexeme d p' none := by
  cases h with
  | blank hc => exact ⟨_, rfl, .blank hc⟩
  | quoted hq hbody hk _ => exact ⟨_, rfl, .quoted hq hbody hk (by simp)⟩
  | lineComment hline hopens hend =>
    exact ⟨_, rfl, .lineComment hline hopens (hend.imp_right fun hnone => absurd hnone.2 (by simp))⟩
  | blockComment hbody => exact ⟨_, rfl, .blockComment hbody⟩
  | punctuation hkind hk =>
    refine ⟨_, rfl, .punctuation hkind fun hc => ?_⟩
    exact .inr ((hk hc).resolve_left (by simpa using hx))
  | literal hbody _ => exact ⟨_, rfl, .literal hbody (by simp)⟩
  | escapedLiteral he hbody _ => exact ⟨_, rfl, .escapedLiteral he hbody (by simp)⟩
  | number hc hcs _ => exact ⟨_, rfl, .number hc hcs rfl⟩
  | @word c cs _ hc hcs _ _ _ =>
    by_cases hhash : c = '#' ∧ hashOpensComment d cs
    · refine ⟨⟨.lineComment, c :: cs⟩, rfl, ?_⟩
      have hline : '\n' ∉ cs := by
        intro hmem
        exact absurd (hcs _ hmem) (by cases d <;> decide)
      have hlex : Lexeme d ⟨.lineComment, c :: cs ++ []⟩ none :=
        .lineComment hline (.inr (by simpa using hhash)) (.inr ⟨rfl, rfl⟩)
      rwa [List.append_nil] at hlex
    · exact ⟨_, rfl, .word hc hcs rfl (by simp) (by simpa using hhash)⟩
  | stray hs hb _ _ hp hquote hd hw => exact ⟨_, rfl, .stray hs hb (by simp) (by simp) hp hquote hd hw⟩

/-- What is cut off in front of a delimiter is cut off as well where the text ends in its place. -/
theorem exists_read?_front {c : Char} {cs rest : List Char} {p : Piece} {q : QuoteStyle}
    (h : read? d c (cs ++ q.opening :: more) = some (p, rest ++ q.opening :: more)) :
    ∃ p', read? d c cs = some (p', rest) := by
  have hopening : q.opening ≠ ']' ∧ q.opening ≠ '\'' ∧ cutsLiteral q.opening = false := by
    cases q <;> decide
  obtain ⟨hbracket, hquote, hcuts⟩ := hopening
  cases hcut : p.isCut with
  | false =>
    have hraw : p.raw ++ rest = c :: cs := by
      have happ := read?_append h
      rw [← List.append_assoc, ← List.cons_append] at happ
      exact List.append_cancel_right happ
    have hlex : ∃ p', p'.raw = p.raw ∧ Lexeme d p' rest.head? := by
      have hp := lexeme_of_read? h hcut
      cases rest with
      | nil => exact hp.exists_atEnd hbracket
      | cons y rest => exact ⟨p, rfl, hp⟩
    obtain ⟨p', hp', hlex⟩ := hlex
    obtain ⟨y, ys, hys, hread⟩ := hlex.read?
    rw [← hp', hys] at hraw
    obtain ⟨rfl, rfl⟩ := List.cons.inj hraw
    exact ⟨p', hread⟩
  | true =>
    rcases read?_of_isCut h hcut with ⟨rfl, hlit⟩ | ⟨text, he, htext, hlit⟩
    · refine ⟨(readLiteral (d == .mysql) ['\''] cs).1, ?_⟩
      rw [read?_quote, ← readLiteral_front hquote hcuts hcut hlit]
    · cases cs with
      | nil =>
        obtain ⟨heq, -⟩ := List.cons.inj htext
        exact absurd heq hquote
      | cons y cs =>
        obtain ⟨rfl, rfl⟩ := List.cons.inj htext
        refine ⟨(readLiteral true [c, '\''] cs).1, ?_⟩
        rw [read?_escape d he, ← readLiteral_front hquote hcuts hcut hlit]

end Front

end Piece

section Scanning

variable {d : Dialect} {cs more : List Char} {c : Char}

theorem read?_of_scan (h : (scan d cs).2 = c :: more) : Piece.read? d c more = none := by
  fun_induction scan d cs with
  | case1 => simp at h
  | case2 x xs hread =>
    obtain ⟨rfl, rfl⟩ := List.cons.inj h
    exact hread
  | case3 x xs p rest hread ps left hs ih =>
    rw [hs] at ih
    exact ih h

/-- The text in front of an identifier that never closes is scanned whole. -/
theorem scan_front {ps : List Piece} {q : QuoteStyle} (h : scan d cs = (ps, q.opening :: more)) :
    (scan d (rawText ps)).2 = [] := by
  induction ps generalizing cs with
  | nil => rw [rawText_nil, scan_nil]
  | cons p ps ih =>
    obtain ⟨c, text, rest, rfl, hread, hrest⟩ := exists_read?_of_scan (congrArg Prod.fst h)
    replace hrest : scan d rest = (ps, q.opening :: more) := by rw [hrest, h]
    have hleft : rawText ps ++ q.opening :: more = rest := by
      have hraw := rawText_scan d rest
      rwa [hrest] at hraw
    -- the piece ends in front of the delimiter, so it is cut off too where the text ends there
    have happ := Piece.read?_append hread
    obtain ⟨y, ys, hys⟩ := List.exists_cons_of_ne_nil (Piece.read?_raw_ne_nil hread)
    rw [hys, ← hleft, List.cons_append, ← List.append_assoc] at happ
    obtain ⟨rfl, rfl⟩ := List.cons.inj happ
    rw [← hleft] at hread
    obtain ⟨p', hfront⟩ := Piece.exists_read?_front hread
    rw [rawText_cons, hys, List.cons_append, scan_cons_of_read? hfront]
    exact ih hrest

end Scanning

/-- At this byte of the text, between two other texts, stands the opening delimiter of an identifier that
never closes. -/
structure NeverCloses (d : Dialect) (text : String) (q : QuoteStyle) (offset : Nat) (before after : String) :
    Prop where
  style : q ∈ d.quoteStyles
  text_eq : text = before ++ String.singleton q.opening ++ after
  offset_eq : before.utf8ByteSize = offset
  not_suffix : ¬(q.opening = '[' ∧ after.toList.head? = some ']')
  /-- Every closing delimiter behind it is one of two that stand side by side. -/
  doubled : Piece.Doubled q.closing after.toList

/-- If a text has no tokens, the error points at an identifier that never closes. The text in front of that
identifier has tokens. -/
theorem tokenize_error {d : Dialect} {text : String} {position : Text.Position}
    (h : tokenize d text = .error position) :
    ∃ q offset before after, NeverCloses d text q offset before after ∧
      position.line = before.toList.count '\n' + 1 ∧
      position.column = (before.toList.rtakeWhile (· ≠ '\n')).length + 1 ∧
      ∃ ts, tokenize d before = .ok ts := by
  unfold tokenize at h
  split at h
  · simp at h
  · next ps c more hscan =>
    obtain rfl := Except.error.inj h
    have hraw := rawText_scan d text.toList
    rw [hscan] at hraw
    have hread := read?_of_scan (congrArg Prod.snd hscan)
    obtain ⟨q, hq, rfl, hsuffix, hdoubled⟩ := Piece.read?_eq_none_iff.1 hread
    have hfront := scan_front hscan
    refine ⟨q, _, String.ofList (rawText ps), String.ofList more, ⟨hq, ?_, rfl, ?_, ?_⟩, ?_, ?_, ?_⟩
    · rw [← String.toList_inj, ← hraw]
      simp
    · rwa [String.toList_ofList]
    · rwa [String.toList_ofList]
    · rw [endPosition, ← rawText, String.toList_ofList, Text.Position.line_advance, Nat.add_comm]
      rfl
    · rw [endPosition, ← rawText, String.toList_ofList, Text.Position.column_advance]
    · have htokens : (scan d (String.ofList (rawText ps)).toList).2 = [] := by
        rwa [String.toList_ofList]
      exact ⟨_, tokenize_eq_ok_iff.2 ⟨htokens, rfl⟩⟩

theorem tokenize_error_brackets :
    tokenize .generic "é 'x;\n \"a\"\"b\"[] [c]]\n#" = .error ⟨2, 11⟩ ∧
      ∃ q offset before after, NeverCloses .generic "é 'x;\n \"a\"\"b\"[] [c]]\n#" q offset before after ∧
        2 = before.toList.count '\n' + 1 ∧ 11 = (before.toList.rtakeWhile (· ≠ '\n')).length + 1 ∧
        ∃ ts, tokenize .generic before = .ok ts := by
  have hread : tokenize .generic "é 'x;\n \"a\"\"b\"[] [c]]\n#" = .error ⟨2, 11⟩ := by with_unfolding_all decide
  exact ⟨hread, tokenize_error hread⟩

end SqlSchema
