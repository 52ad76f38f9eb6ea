import SqlSchema.Proofs.Bounds
/-!
# Tokens tile the text

The tokens of a text stand side by side in it, each on the characters that it was read from, and the last
one at the end. What no token stands on is blank, belongs to a comment, or is a character that starts no
token.
-/
namespace SqlSchema

/-- What stands in the text for a token with a name or with digits. -/
def TokenKind.Spells (d : Dialect) (part : String) : TokenKind → Prop
  | .word text => text = part
  | .number text => text = part
  | .quoted name => ∃ q ∈ d.quoteStyles, q.strip? part.toList = some name.toList
  | _ => True

/-- No token stands on the text between two places. -/
def IsUncovered (ts : List Token) (start stop : Nat) : Prop := ∀ t ∈ ts, t.stop ≤ start ∨ stop ≤ t.start

def PieceKind.isComment : PieceKind → Bool
  | .lineComment => true
  | .blockComment _ => true
  | _ => false

/-- A comment of the text, from one place to another. -/
def IsCommentIn (d : Dialect) (text : String) (start stop : Nat) : Prop :=
  ∃ before comment after kind, text.toList = before ++ comment ++ after ∧ Text.byteSize before = start ∧
    start + Text.byteSize comment = stop ∧ kind.isComment ∧ Piece.Lexeme d ⟨kind, comment⟩ after.head?

/-- The signs that stand for themselves, and the quote of literals. -/
def signs : List Char := ['(', ')', ',', ';', '.', '[', ']', '\'']

/-- Whether a token of the dialect can start with this character. -/
def startsToken (d : Dialect) (c : Char) : Bool :=
  Text.isLetter c || c = '_' || c.isDigit || signs.contains c || d.quoteStyles.any (·.opening = c)

/-- The tokens stand in order on separate parts of the text, and all else is without meaning. -/
structure Tiles (d : Dialect) (text : String) (ts : List Token) : Prop where
  ordered : ts.Pairwise fun t u => t.start < u.start ∧ t.stop ≤ u.start
  part : ∀ t ∈ ts, ∃ part, Text.IsPart text t.start t.stop part ∧ t.kind.Spells d part
  last : ts.getLast? = some ⟨.endOfText, text.utf8ByteSize, text.utf8ByteSize⟩
  nonempty : ∀ t ∈ ts.dropLast, t.kind ≠ .endOfText ∧ t.start < t.stop
  between : ∀ start stop c, Text.IsPart text start stop (String.singleton c) → IsUncovered ts start stop →
    Text.isBlank c ∨ startsToken d c = false ∨
      ∃ first last, first ≤ start ∧ stop ≤ last ∧ IsCommentIn d text first last ∧ IsUncovered ts first last

section Pieces

variable {d : Dialect} {p : Piece} {next : Option Char}

private theorem not_mem_signs {c : Char} (hp : Piece.punctuation? c = none) (hquote : c ≠ '\'') :
    c ∉ signs := by
  have key : ∀ x ∈ signs, x = '\'' ∨ (Piece.punctuation? x).isSome := by
    simp [signs, Piece.punctuation?]
  intro hc
  simpa [hp, hquote] using key c hc

theorem Piece.Lexeme.of_token?_eq_none (h : Lexeme d p next) (hp : p.token? = none) :
    (∃ c, p.raw = [c] ∧ (Text.isBlank c ∨ startsToken d c = false)) ∨ p.kind.isComment := by
  cases h with
  | @blank c _ hc => exact .inl ⟨c, rfl, .inl hc⟩
  | lineComment => exact .inr rfl
  | blockComment => exact .inr rfl
  | openComment => exact .inr rfl
  | @stray c _ hs hb hminus hslash hkind hquote hd hw =>
    have hsign := not_mem_signs hkind hquote
    have hopening := Dialect.styleOpening?_eq_none_iff.1 hs
    simp only [opensWord, Bool.or_eq_false_iff, decide_eq_false_iff_not] at hw
    exact .inl ⟨c, rfl, .inr (by simp_all [startsToken])⟩
  | _ => simp [token?] at hp

theorem Piece.Lexeme.spells (h : Lexeme d p next) {kind : TokenKind} (hp : p.token? = some kind) :
    kind.Spells d (String.ofList p.raw) := by
  cases h with
  | @quoted q body _ hq =>
    obtain rfl := Option.some.inj hp
    exact ⟨q, hq, by rw [String.toList_ofList, String.toList_ofList]; exact strip?_delimited q body⟩
  | @punctuation c k _ hkind =>
    obtain rfl : k = kind := Option.some.inj hp
    grind [punctuation?, TokenKind.Spells]
  | literal =>
    obtain rfl := Option.some.inj hp
    trivial
  | escapedLiteral =>
    obtain rfl := Option.some.inj hp
    trivial
  | number =>
    obtain rfl := Option.some.inj hp
    rfl
  | word =>
    obtain rfl := Option.some.inj hp
    rfl
  | _ => simp [token?] at hp

/-- A piece that is cut off is not empty, and its token is not the end of the text. -/
structure Piece.IsSolid (d : Dialect) (p : Piece) (next : Option Char) : Prop where
  raw_ne_nil : p.raw ≠ []
  kind_ne : p.token? ≠ some .endOfText
  spells : ∀ kind, p.token? = some kind → kind.Spells d (String.ofList p.raw)
  lexeme : p.token? = none → Lexeme d p next

theorem Piece.isSolid_of_read? {c : Char} {cs rest : List Char} (h : read? d c cs = some (p, rest)) :
    p.IsSolid d rest.head? := by
  have hne := read?_raw_ne_nil h
  cases hcut : p.isCut with
  | false =>
    have hlex := lexeme_of_read? h hcut
    exact ⟨hne, hlex.token?_ne, fun kind hkind => hlex.spells hkind, fun _ => hlex⟩
  | true =>
    obtain ⟨kind, raw⟩ := p
    cases kind with
    | cutLiteral value =>
      refine ⟨hne, by simp [token?], fun kind hkind => ?_, by simp [token?]⟩
      obtain rfl := Option.some.inj hkind
      trivial
    | _ => simp [isCut] at hcut

theorem rawText_of_scan {cs : List Char} {ps : List Piece} (h : scan d cs = (ps, [])) : rawText ps = cs := by
  have hraw := rawText_scan d cs
  rwa [h, List.append_nil] at hraw

theorem isSolid_of_scan {cs : List Char} {qs rs : List Piece} (h : scan d cs = (qs ++ p :: rs, [])) :
    p.IsSolid d (rawText rs).head? := by
  have hscan := scan_rawText_of_scan (congrArg Prod.fst h)
  obtain ⟨c, more, rest, -, hread, hrest⟩ := exists_read?_of_scan (congrArg Prod.fst hscan)
  rw [hscan, h] at hrest
  rw [rawText_of_scan hrest]
  exact Piece.isSolid_of_read? hread

end Pieces

section Places

variable {ps : List Piece}

private theorem exists_piece_of_rawText {before after : List Char} {c : Char}
    (h : rawText ps = before ++ c :: after) :
    ∃ qs p rs front back, ps = qs ++ p :: rs ∧ before = rawText qs ++ front ∧ p.raw = front ++ c :: back := by
  induction ps generalizing before with
  | nil => simp at h
  | cons p ps ih =>
    rw [rawText_cons, List.append_eq_append_iff] at h
    rcases h with ⟨front, rfl, h⟩ | ⟨back, hraw, h⟩
    · obtain ⟨qs, q, rs, front, back, rfl, rfl, hq⟩ := ih h
      exact ⟨p :: qs, q, rs, front, back, rfl, by simp, hq⟩
    · cases back with
      | nil =>
        obtain ⟨qs, q, rs, front, back, rfl, hnil, hq⟩ := ih (show rawText ps = [] ++ c :: after from h.symm)
        obtain ⟨hqs, rfl⟩ := List.nil_eq_append_iff.1 hnil
        exact ⟨p :: qs, q, rs, [], back, rfl, by simp [hraw, hqs], hq⟩
      | cons x back =>
        obtain ⟨rfl, rfl⟩ := List.cons.inj h
        exact ⟨[], p, ps, before, back, rfl, rfl, hraw⟩

/-- A character of the text belongs to one of the pieces, with all of its bytes. -/
theorem exists_piece_of_isPart {text : String} (hraw : rawText ps = text.toList) {start stop : Nat} {c : Char}
    (h : Text.IsPart text start stop (String.singleton c)) :
    ∃ qs p rs, ps = qs ++ p :: rs ∧ c ∈ p.raw ∧ Text.byteSize (rawText qs) ≤ start ∧ start < stop ∧
      stop ≤ Text.byteSize (rawText qs) + p.size := by
  obtain ⟨before, after, htext, rfl, rfl⟩ := h
  have hchars : rawText ps = before.toList ++ c :: after.toList := by
    rw [hraw, htext]
    simp [String.toList_append]
  obtain ⟨qs, p, rs, front, back, rfl, hbefore, hp⟩ := exists_piece_of_rawText hchars
  have hstart : before.utf8ByteSize = Text.byteSize (rawText qs) + Text.byteSize front := by
    rw [← Text.byteSize_append, ← hbefore, Text.byteSize_toList]
  have hsize : p.size = Text.byteSize front + (c.utf8Size + Text.byteSize back) := by
    rw [Piece.size, hp, Text.byteSize_append, Text.byteSize_cons]
  have hc := c.utf8Size_pos
  rw [String.utf8ByteSize_singleton]
  refine ⟨qs, p, rs, rfl, by simp [hp], ?_, ?_, ?_⟩ <;> omega

theorem exists_piece_of_mem_tokensIn {offset : Nat} {t : Token} (h : t ∈ tokensIn offset ps) :
    ∃ qs p rs, ps = qs ++ p :: rs ∧ p.tokenAt? (offset + Text.byteSize (rawText qs)) = some t := by
  induction ps generalizing offset with
  | nil => simp at h
  | cons p ps ih =>
    rw [tokensIn_cons, List.mem_append, Option.mem_toList] at h
    rcases h with h | h
    · exact ⟨[], p, ps, rfl, h⟩
    · obtain ⟨qs, q, rs, rfl, hq⟩ := ih h
      exact ⟨p :: qs, q, rs, rfl, by simpa [Piece.size, Nat.add_assoc] using hq⟩

theorem start_of_mem_tokensOf {offset : Nat} {t : Token} (h : t ∈ tokensOf offset ps) : offset ≤ t.start := by
  induction ps generalizing offset with
  | nil =>
    obtain rfl : t = ⟨.endOfText, offset, offset⟩ := by simpa [tokensOf] using h
    exact Nat.le_refl _
  | cons p ps ih =>
    have hrest (h : t ∈ tokensOf (offset + p.size) ps) : offset ≤ t.start :=
      Nat.le_trans (Nat.le_add_right _ _) (ih h)
    rw [tokensOf] at h
    split at h
    · rcases List.mem_cons.1 h with rfl | h
      · exact Nat.le_refl _
      · exact hrest h
    · exact hrest h

theorem Text.byteSize_pos {cs : List Char} (h : cs ≠ []) : 0 < byteSize cs := by
  cases cs with
  | nil => exact absurd rfl h
  | cons c cs =>
    have hc := c.utf8Size_pos
    rw [byteSize_cons]
    omega

theorem pairwise_tokensOf (offset : Nat) (h : ∀ p ∈ ps, p.raw ≠ []) :
    (tokensOf offset ps).Pairwise fun t u => t.start < u.start ∧ t.stop ≤ u.start := by
  induction ps generalizing offset with
  | nil => simp [tokensOf]
  | cons p ps ih =>
    have hrest := ih (offset + p.size) fun q hq => h q (List.mem_cons_of_mem p hq)
    have hsize : 0 < p.size := Text.byteSize_pos (h p List.mem_cons_self)
    rw [tokensOf]
    split
    · refine List.pairwise_cons.2 ⟨fun u hu => ?_, hrest⟩
      have hu := start_of_mem_tokensOf hu
      exact ⟨Nat.lt_of_lt_of_le (Nat.lt_add_of_pos_right hsize) hu, hu⟩
    · exact hrest

theorem isUncovered_piece {qs rs : List Piece} {p : Piece} (hp : p.token? = none) :
    IsUncovered (tokensOf 0 (qs ++ p :: rs)) (Text.byteSize (rawText qs))
      (Text.byteSize (rawText qs) + p.size) := by
  intro t ht
  rw [tokensOf_append, List.mem_append] at ht
  rcases ht with ht | ht
  · exact .inl (by simpa using stop_of_mem_tokensIn ht)
  · rw [tokensOf, hp] at ht
    exact .inr (by simpa using start_of_mem_tokensOf ht)

end Places

section Tokens

variable {d : Dialect} {text : String} {ps : List Piece}

private theorem exists_part_of_mem_tokensIn (hscan : scan d text.toList = (ps, [])) {t : Token}
    (ht : t ∈ tokensIn 0 ps) :
    t.kind ≠ .endOfText ∧ t.start < t.stop ∧
      ∃ part, Text.IsPart text t.start t.stop part ∧ t.kind.Spells d part := by
  obtain ⟨qs, p, rs, rfl, hp⟩ := exists_piece_of_mem_tokensIn ht
  obtain ⟨kind, hkind, rfl⟩ := Option.map_eq_some_iff.1 hp
  have hraw := rawText_of_scan hscan
  have hsolid := isSolid_of_scan hscan
  have hsize : 0 < p.size := Text.byteSize_pos hsolid.raw_ne_nil
  have hpart := Text.isPart_of_append (rawText qs) p.raw (rawText rs) (by simpa using hraw)
  rw [Nat.zero_add]
  refine ⟨fun hend => hsolid.kind_ne (hkind.trans (congrArg some hend)), Nat.lt_add_of_pos_right hsize,
    String.ofList p.raw, hpart, hsolid.spells kind hkind⟩

/-- What no token stands on is blank, in a comment, or stray. -/
private theorem gap_of_isUncovered (hscan : scan d text.toList = (ps, [])) {start stop : Nat} {c : Char}
    (hpart : Text.IsPart text start stop (String.singleton c))
    (hfree : IsUncovered (tokensOf 0 ps) start stop) :
    Text.isBlank c ∨ startsToken d c = false ∨
      ∃ first last, first ≤ start ∧ stop ≤ last ∧ IsCommentIn d text first last ∧
        IsUncovered (tokensOf 0 ps) first last := by
  have hraw := rawText_of_scan hscan
  obtain ⟨qs, p, rs, rfl, hc, hfirst, hlt, hlast⟩ := exists_piece_of_isPart hraw hpart
  have hsolid := isSolid_of_scan hscan
  cases hkind : p.token? with
  | some kind =>
    -- the token of the piece would stand on the character
    have hmem : (⟨kind, Text.byteSize (rawText qs), Text.byteSize (rawText qs) + p.size⟩ : Token) ∈
        tokensOf 0 (qs ++ p :: rs) := by
      rw [tokensOf_append, tokensOf, hkind]
      simp
    have hapart : Text.byteSize (rawText qs) + p.size ≤ start ∨ stop ≤ Text.byteSize (rawText qs) :=
      hfree _ hmem
    omega
  | none =>
    rcases (hsolid.lexeme hkind).of_token?_eq_none hkind with ⟨x, hx, hclass⟩ | hcomment
    · obtain rfl : c = x := by simpa [hx] using hc
      exact hclass.imp_right .inl
    · refine .inr (.inr ⟨_, _, hfirst, hlast, ?_, isUncovered_piece hkind⟩)
      exact ⟨rawText qs, p.raw, rawText rs, p.kind, by rw [← hraw]; simp, rfl, rfl, hcomment,
        hsolid.lexeme hkind⟩

/-- The tokens of a text tile it. -/
theorem tokenize_tiles {ts : List Token} (h : tokenize d text = .ok ts) : Tiles d text ts := by
  obtain ⟨hleft, rfl⟩ := tokenize_eq_ok_iff.1 h
  obtain ⟨ps, hscan⟩ : ∃ ps, scan d text.toList = (ps, []) := ⟨_, Prod.ext rfl hleft⟩
  have hraw := rawText_of_scan hscan
  rw [hscan]
  have htokens : tokensOf 0 ps = tokensIn 0 ps ++ [⟨.endOfText, text.utf8ByteSize, text.utf8ByteSize⟩] := by
    rw [tokensOf_eq, Nat.zero_add, hraw, Text.byteSize_toList]
  refine ⟨?_, fun t ht => ?_, ?_, fun t ht => ?_, fun start stop c => gap_of_isUncovered hscan⟩
  · apply pairwise_tokensOf
    intro p hp
    obtain ⟨qs, rs, rfl⟩ := List.append_of_mem hp
    exact (isSolid_of_scan hscan).raw_ne_nil
  · rw [htokens, List.mem_append, List.mem_singleton] at ht
    rcases ht with ht | rfl
    · exact (exists_part_of_mem_tokensIn hscan ht).2.2
    · exact ⟨"", ⟨text, "", by simp, rfl, rfl⟩, trivial⟩
  · rw [htokens, List.getLast?_concat]
  · rw [htokens, List.dropLast_concat] at ht
    have hpart := exists_part_of_mem_tokensIn hscan ht
    exact ⟨hpart.1, hpart.2.1⟩

theorem tokenize_tiles_comments :
    ∃ ts, ts = [⟨.word "é", 0, 2⟩, ⟨.quoted "a]b", 4, 10⟩, ⟨.word "#t", 18, 20⟩, ⟨.number "1.5", 21, 24⟩,
        ⟨.endOfText, 29, 29⟩] ∧
      tokenize .generic "é§[a]]b] -- 'x'\n#t 1.5 /* ;" = .ok ts ∧
      Tiles .generic "é§[a]]b] -- 'x'\n#t 1.5 /* ;" ts := by
  have hread : tokenize .generic "é§[a]]b] -- 'x'\n#t 1.5 /* ;" =
      .ok [⟨.word "é", 0, 2⟩, ⟨.quoted "a]b", 4, 10⟩, ⟨.word "#t", 18, 20⟩, ⟨.number "1.5", 21, 24⟩,
        ⟨.endOfText, 29, 29⟩] :=
    tokenize_ofList (by with_unfolding_all decide) (by with_unfolding_all decide)
  exact ⟨_, rfl, hread, tokenize_tiles hread⟩

end Tokens

end SqlSchema
