import SqlSchema.Proofs.CutLiterals
import SqlSchema.Proofs.ElementLines
/-!
# Types cut out of scripts

The type of a column is a part of its script with the blanks squeezed. Read again it is the same type,
unless a comment in it runs to the end of the line, which takes in what is written behind the type.
-/
namespace SqlSchema.Ddl

/-- The pieces that a type was cut out of a script as. -/
structure IsSlice (d : Dialect) (type : String) (run : List Piece) : Prop where
  scanned : ∃ cs rs, (scan d cs).1 = run ++ rs
  isRun : IsRun run
  tokens : ∃ next word tail, tokensIn 0 run = next :: tail ∧ next.kind = .word word ∧
    readTypeTail tail = (tail, []) ∧ Enclosed tail
  type : type = Text.collapse (String.ofList (rawText run))

/-- A type that is read up to a comment, which takes in the rest of the line behind the type. -/
structure IsCommented (d : Dialect) (next : Char) (type : String) (ps : List Piece) (c : Char)
    (line : List Char) : Prop where
  raw : type.toList = rawText ps ++ c :: line
  oneLine : '\n' ∉ line
  lexemes : Lexemes d ps (some c)
  opens : ∀ more, Piece.opensLineComment d c (line ++ next :: more)
  tokens : ps.head?.any (·.token?.isSome) ∧
      (∃ t word tail, tokensIn 0 ps = t :: tail ∧ t.kind = .word word ∧ Nested 0 tail) ∨
    ps = [] ∧ type = "#"

section Tokens

private theorem map_bare_tokensIn (offset : Nat) (ps : List Piece) :
    (tokensIn offset ps).map Token.bare =
      ((ps.filterMap Piece.token?).map TokenKind.shape).map fun kind => ⟨kind, 0, 0⟩ := by
  rw [← kind_tokensIn offset, List.map_map, List.map_map]
  rfl

theorem readTypeTail_of_bare {ts us : List Token} (h : ts.map Token.bare = us.map Token.bare)
    (hts : readTypeTail ts = (ts, [])) : readTypeTail us = (us, []) := by
  have hus := readTypeTail_map keepsRole_bare us
  rw [← h, readTypeTail_map keepsRole_bare, hts] at hus
  have hnil : (readTypeTail us).2 = [] := by
    have := congrArg Prod.snd hus
    simpa using this.symm
  have happ := readTypeTail_append us
  rw [hnil, List.append_nil] at happ
  exact Prod.ext happ hnil

theorem enclosed_of_bare {ts us : List Token} (h : ts.map Token.bare = us.map Token.bare)
    (hts : Enclosed ts) : Enclosed us := by
  rw [← enclosed_map keepsRole_bare, ← h]
  exact (enclosed_map keepsRole_bare).2 hts

private theorem nested_of_bare {ts us : List Token} (h : ts.map Token.bare = us.map Token.bare)
    (hts : Nested 0 ts) : Nested 0 us := by
  rw [← nested_map keepsRole_bare, ← h]
  exact (nested_map keepsRole_bare).2 hts

private theorem tokens_of_bare {ts us : List Token} (h : ts.map Token.bare = us.map Token.bare)
    {t : Token} {word : String} {tail : List Token} (hts : ts = t :: tail) (ht : t.kind = .word word) :
    ∃ u rest, us = u :: rest ∧ u.kind = .word word ∧ tail.map Token.bare = rest.map Token.bare := by
  subst hts
  obtain ⟨u, rest, rfl, hu, hrest⟩ := List.map_eq_cons_iff.1 h.symm
  refine ⟨u, rest, rfl, ?_, hrest.symm⟩
  have hshape : u.kind.shape = t.kind.shape := congrArg Token.kind hu
  rw [ht] at hshape
  exact TokenKind.shape_eq_word_iff.1 hshape

theorem lexeme_of_closesType {d : Dialect} {p : Piece} {next : Option Char} (h : Piece.Lexeme d p next)
    {kind : TokenKind} (hkind : p.token? = some kind)
    (hcloses : kind = .rightParen ∨ kind = .rightBracket ∨ ∃ text, kind = .word text) {after : Char}
    (hafter : isSeam after) (hhash : kind = .word "#" → Text.isBlank after = false) :
    Piece.Lexeme d p (some after) ∧
      ∀ c ∈ p.raw, Text.isBlank c = false ∧ c ≠ '\'' ∧ c ≠ '\\' := by
  cases h with
  | @punctuation c k _ hk _ =>
    obtain rfl : k = kind := Option.some.inj hkind
    have hne {x : Char} (hx : Piece.punctuation? x = none) : c ≠ x := by
      rintro rfl
      simp [hx] at hk
    refine ⟨.punctuation hk fun hc => ?_, by
      simpa using ⟨Piece.isBlank_of_punctuation? hk, hne rfl, hne rfl⟩⟩
    subst hc
    obtain rfl : TokenKind.leftBracket = k := Option.some.inj hk
    simp at hcloses
  | @word c cs _ hc hcs hnext he hopens =>
    have hblank : ∀ x ∈ c :: cs, Text.isBlank x = false ∧ x ≠ '\'' ∧ x ≠ '\\' := by
      intro x hx
      refine ⟨Piece.isBlank_of_mem_word hc hcs x hx, ?_⟩
      rcases List.mem_cons.1 hx with rfl | hx
      · exact ⟨Text.ne_of_class hc rfl, Text.ne_of_class hc rfl⟩
      · exact ⟨Text.ne_of_class (hcs x hx) (by cases d <;> rfl),
          Text.ne_of_class (hcs x hx) (by cases d <;> rfl)⟩
    refine ⟨.word hc hcs (by simp [continuesWord_of_isSeam d hafter])
      (fun _ _ => ne_of_isSeam hafter rfl) ?_, hblank⟩
    rintro ⟨rfl, hhashed⟩
    refine hopens ⟨rfl, ?_⟩
    cases cs with
    | cons x cs => simpa [Piece.hashOpensComment] using hhashed
    | nil =>
      have hblank' := hhash (Option.some.inj hkind).symm
      simp only [Piece.hashOpensComment, List.nil_append, Option.toList_some, List.head?_cons,
        Option.all_some, hblank', Bool.or_false] at hhashed
      simp [Piece.hashOpensComment, hhashed]
  | _ =>
    simp only [Piece.token?, Option.some.injEq, reduceCtorEq] at hkind
    try subst hkind
    try simp at hcloses

end Tokens

section Ends

variable {d : Dialect} {type : String} {ps : List Piece}

private theorem exists_last_of_isRun (h : IsRun ps) :
    ∃ front last kind, ps = front ++ [last] ∧ last.token? = some kind := by
  obtain ⟨last, hlast, hsome⟩ := (Option.any_eq_true _ _).1 h.2
  obtain ⟨kind, hkind⟩ := Option.isSome_iff_exists.1 hsome
  exact ⟨ps.dropLast, last, kind, (List.dropLast_append_getLast? last hlast).symm, hkind⟩

/-- The last piece of a type ends it: only a type of a single token can be a lone `#`. -/
private theorem closes_last {front : List Piece} {last : Piece} {kind : TokenKind}
    (hrun : IsRun (front ++ [last]))
    (htype : ∃ next word tail, tokensIn 0 (front ++ [last]) = next :: tail ∧ next.kind = .word word ∧
      readTypeTail tail = (tail, []) ∧ Enclosed tail)
    (hkind : last.token? = some kind) :
    (kind = .rightParen ∨ kind = .rightBracket ∨ ∃ text, kind = .word text) ∧
      (kind = .word "#" → front = []) := by
  obtain ⟨next, word, tail, htokens, hnext, htail, henclosed⟩ := htype
  have hlast : tokensIn 0 (front ++ [last]) = tokensIn 0 front ++
      [⟨kind, Text.byteSize (rawText front), Text.byteSize (rawText front) + last.size⟩] := by
    simp [tokensIn_append, Piece.tokenAt?, hkind]
  generalize hplace : Text.byteSize (rawText front) = place at hlast
  rw [htokens] at hlast
  rcases List.eq_nil_or_concat tail with rfl | ⟨init, t, rfl⟩
  · have hfront : tokensIn 0 front = [] ∧ next = ⟨kind, place, place + last.size⟩ := by
      cases hf : tokensIn 0 front with
      | nil => simpa [hf] using hlast
      | cons u us => simp [hf] at hlast
    refine ⟨.inr (.inr ⟨word, ?_⟩), fun _ => ?_⟩
    · rw [← hnext, hfront.2]
    · cases front with
      | nil => rfl
      | cons p front =>
        obtain ⟨k, hk⟩ := Option.isSome_iff_exists.1 (show p.token?.isSome by simpa using hrun.1)
        simp [Piece.tokenAt?, hk] at hfront
  · have ht : t = ⟨kind, place, place + last.size⟩ := by
      have key := congrArg List.getLast? hlast
      rw [List.concat_eq_append, ← List.cons_append, List.getLast?_concat, List.getLast?_concat] at key
      exact Option.some.inj key
    have hcloses : t.closesType := closesType_readTypeTail htail henclosed.2 (by simp)
    rw [ht] at hcloses
    refine ⟨?_, fun hk => ?_⟩
    · rcases hcloses with hk | hk | ⟨text, hk, -⟩
      · exact .inl hk
      · exact .inr (.inl hk)
      · exact .inr (.inr ⟨text, hk⟩)
    · rcases hcloses with hk' | hk' | ⟨text, hk', hne⟩
      · simp [hk] at hk'
      · simp [hk] at hk'
      · rw [hk] at hk'
        exact absurd (TokenKind.word.inj hk').symm hne

/-- A type is read in front of any sign of the grammar, but for a lone `#`, which opens a comment in front
of a blank. -/
theorem IsType.before {next after : Char} (h : IsType d next type ps) (hafter : isSeam after)
    (hhash : type = "#" → Text.isBlank after = false) : IsType d after type ps := by
  obtain ⟨front, last, kind, rfl, hkind⟩ := exists_last_of_isRun h.run
  obtain ⟨hfront, hlast⟩ := lexemes_concat.1 h.lexemes
  obtain ⟨hcloses, hsingle⟩ := closes_last h.run h.tokens hkind
  have hword : kind = .word "#" → Text.isBlank after = false := by
    rintro rfl
    obtain rfl := hsingle rfl
    refine hhash (String.toList_injective ?_)
    rw [← h.raw]
    simpa using hlast.raw_of_word hkind
  have hlexeme := (lexeme_of_closesType hlast hkind hcloses hafter hword).1
  exact ⟨h.raw, lexemes_concat.2 ⟨hfront, hlexeme⟩, h.run, h.tokens, h.collapsed⟩

end Ends

section Slices

variable {d : Dialect} {type : String} {run : List Piece}

private theorem isCut_of_isComplete {p : Piece} (h : p.isComplete) : p.isCut = false := by
  simp only [Piece.isComplete, Bool.and_eq_true, Bool.not_eq_true'] at h
  exact h.2

private theorem not_closes_of_isCut {p : Piece} (hp : p.isCut) {kind : TokenKind}
    (hkind : p.token? = some kind) :
    ¬(kind = .rightParen ∨ kind = .rightBracket ∨ ∃ text, kind = .word text) := by
  unfold Piece.isCut at hp
  unfold Piece.token? at hkind
  split at hp
  · next heq =>
    rw [heq] at hkind
    obtain rfl := Option.some.inj hkind
    simp
  · cases hp

/-- The text of a type has neither a blank nor the sign of a literal at its end. -/
private theorem IsSlice.ends {front : List Piece} {last : Piece} {kind : TokenKind}
    (h : IsSlice d type (front ++ [last])) (hkind : last.token? = some kind) :
    last.raw ≠ [] ∧ ∀ c ∈ last.raw, Text.isBlank c = false ∧ c ≠ '\'' ∧ c ≠ '\\' := by
  obtain ⟨cs, rs, hscan⟩ := h.scanned
  obtain ⟨hcloses, -⟩ := closes_last h.isRun h.tokens hkind
  have hcut : last.isCut = false := by
    unfold Piece.token? at hkind
    unfold Piece.isCut
    split at hkind
    · simp [*]
    · obtain rfl := Option.some.inj hkind
      simp at hcloses
    · simp at hkind
  obtain ⟨_, hlexeme⟩ := exists_lexeme_of_mem_scan (d := d) (p := last)
    (by rw [hscan]; simp) hcut
  exact ⟨hlexeme.raw_ne_nil,
    (lexeme_of_closesType hlexeme hkind hcloses (show isSeam '(' from rfl) fun _ => rfl).2⟩

theorem IsSlice.toList_type (h : IsSlice d type run) :
    type.toList = Text.squeeze true (rawText run) := by
  obtain ⟨front, last, kind, rfl, hkind⟩ := exists_last_of_isRun h.isRun
  obtain ⟨hne, hchars⟩ := h.ends hkind
  have hclosed : Text.endsBlank true (rawText (front ++ [last])) = false := by
    rw [rawText_append, Text.endsBlank_append]
    refine Text.endsBlank_of_not_blank (fun c hc => (hchars c ?_).1) (by simpa using hne) _
    simpa using hc
  rw [h.type, Text.collapse_eq_squeeze (by rwa [String.toList_ofList]), String.toList_ofList,
    String.toList_ofList]

/-- A type without comments that run to the end of a line is read again. -/
theorem IsSlice.isType (h : IsSlice d type run) (hall : ∀ p ∈ run, p.isComplete) {after : Char}
    (hafter : isSeam after) (hhash : type = "#" → Text.isBlank after = false) :
    ∃ ps, IsType d after type ps := by
  obtain ⟨cs, rs, hscan⟩ := h.scanned
  have hlexemes := lexemes_of_scan hscan fun p hp => isCut_of_isComplete (hall p hp)
  have htype := h.toList_type
  obtain ⟨front, last, kind, rfl, hkind⟩ := exists_last_of_isRun h.isRun
  obtain ⟨hfront, hlast⟩ := lexemes_concat.1 hlexemes
  obtain ⟨hcloses, hsingle⟩ := closes_last h.isRun h.tokens hkind
  have hword : kind = .word "#" → Text.isBlank after = false := by
    rintro rfl
    obtain rfl := hsingle rfl
    refine hhash ?_
    rw [h.type]
    simp only [List.nil_append, rawText_cons, hlast.raw_of_word hkind, rawText_nil, List.append_nil]
    decide
  obtain ⟨hlexeme, hchars⟩ := lexeme_of_closesType hlast hkind hcloses hafter hword
  obtain ⟨c, hc⟩ := Option.isSome_iff_exists.1 (List.isSome_head?.2 hlast.raw_ne_nil)
  rw [hc] at hfront
  obtain ⟨qs, hqs, hlexemes', hshape, hhead⟩ :=
    lexemes_squeeze hfront (fun p hp => hall p (by simp [hp])) true
  have hraw : rawText (qs ++ [last]) = type.toList := by
    rw [htype, rawText_append, rawText_append, Text.squeeze_append, hqs]
    simp [Text.squeeze_of_not_blank fun c hc => (hchars c hc).1]
  have hbare : (tokensIn 0 (front ++ [last])).map Token.bare =
      (tokensIn 0 (qs ++ [last])).map Token.bare := by
    simp only [map_bare_tokensIn, List.filterMap_append, List.map_append, hshape]
  obtain ⟨next, word, tail, htokens, hnext, htail, henclosed⟩ := h.tokens
  obtain ⟨u, rest, heq, hu, hrest⟩ := tokens_of_bare hbare htokens hnext
  refine ⟨qs ++ [last], hraw, lexemes_concat.2 ⟨by rwa [hc], hlexeme⟩, ⟨?_, by simp [hkind]⟩,
    ⟨u, word, rest, heq, hu, readTypeTail_of_bare hrest htail, enclosed_of_bare hrest henclosed⟩, ?_⟩
  · cases front with
    | nil =>
      cases qs with
      | nil => simp [hkind]
      | cons q qs =>
        have hnil : q.raw = [] := by
          rw [rawText_nil, rawText_cons, Text.squeeze, List.append_eq_nil_iff] at hqs
          exact hqs.1
        exact absurd hnil hlexemes'.1.raw_ne_nil
    | cons p front =>
      obtain ⟨q, hq, hsome⟩ := (Option.any_eq_true _ _).1 (hhead (by simpa using h.isRun.1))
      rw [List.head?_append, hq]
      exact hsome
  · rw [h.type, Text.collapse_collapse]

private theorem IsSlice.exists_next {xs ys : List Piece} {p : Piece} (h : IsSlice d type (xs ++ p :: ys))
    (hxs : ∀ q ∈ xs, q.isComplete) (hp : p.token? = none) (hcut : p.isCut = false) :
    ∃ next, Lexemes d xs p.raw.head? ∧ Piece.Lexeme d p (some next) := by
  obtain ⟨cs, rs, hscan⟩ := h.scanned
  have hscan' : (scan d cs).1 = (xs ++ [p]) ++ (ys ++ rs) := by
    rw [hscan]
    simp
  have hlexemes := lexemes_of_scan hscan' fun q hq => by
    rcases List.mem_append.1 hq with hq | hq
    · exact isCut_of_isComplete (hxs q hq)
    · rwa [List.mem_singleton.1 hq]
  have hsome : (rawText (ys ++ rs) ++ (scan d cs).2).head? ≠ none := by
    intro hnone
    have hsuffix := scan_rawText_of_scan hscan'
    rw [List.head?_eq_none_iff.1 hnone, scan_nil] at hsuffix
    obtain ⟨rfl, -⟩ := List.append_eq_nil_iff.1 (Prod.mk.inj hsuffix).1.symm
    have hlast := h.isRun.2
    simp [hp] at hlast
  obtain ⟨next, hnext⟩ := Option.ne_none_iff_exists'.1 hsome
  rw [hnext] at hlexemes
  exact ⟨next, lexemes_concat.1 hlexemes⟩

private theorem exists_squeezed {xs : List Piece} {c : Char} (h : Lexemes d xs (some c))
    (hxs : ∀ p ∈ xs, p.isComplete) {rest : List Char} (hrun : type.toList = Text.squeeze true
      (rawText xs ++ c :: rest)) (hc : Text.isBlank c = false) :
    ∃ qs, Lexemes d qs (some c) ∧ type.toList = rawText qs ++ c :: Text.squeeze false rest ∧
      (xs.head?.any (·.token?.isSome) → qs.head?.any (·.token?.isSome)) ∧
      (tokensIn 0 xs).map Token.bare = (tokensIn 0 qs).map Token.bare := by
  obtain ⟨qs, hqs, hlexemes, hshape, hhead⟩ := lexemes_squeeze h hxs true
  refine ⟨qs, hlexemes, ?_, hhead, by simp only [map_bare_tokensIn, hshape]⟩
  rw [hrun, Text.squeeze_append, hqs, Text.squeeze_cons_of_not_blank hc]

private theorem IsSlice.tokens_front {xs ys : List Piece} {p : Piece}
    (h : IsSlice d type (xs ++ p :: ys)) (hp : p.token? = none) :
    xs.head?.any (·.token?.isSome) ∧
      ∃ t word tail, tokensIn 0 xs = t :: tail ∧ t.kind = .word word ∧ Nested 0 tail := by
  obtain ⟨t, word, tail, heq, ht, -, henclosed⟩ := h.tokens
  have hrun := h.isRun.1
  cases xs with
  | nil => simp [hp] at hrun
  | cons q xs =>
    obtain ⟨k, hk⟩ := Option.isSome_iff_exists.1 (show q.token?.isSome by simpa using hrun)
    simp only [tokensIn_append, tokensIn_cons, Piece.tokenAt?, hk, Option.map_some, Option.toList_some,
      List.cons_append, List.nil_append, List.cons.injEq] at heq ⊢
    obtain ⟨rfl, rfl⟩ := heq
    exact ⟨by simpa using hrun, _, word, _, ⟨rfl, rfl⟩, ht, (nested_append.1 henclosed.1).1⟩

/-- A type with a comment that runs to the end of a line takes in what is written behind it. -/
theorem IsSlice.isCommented {xs ys : List Piece} {p : Piece} (h : IsSlice d type (xs ++ p :: ys))
    (hxs : ∀ q ∈ xs, q.isComplete) (hp : p.kind = .lineComment) (after : Char) :
    ∃ qs c line, IsCommented d after type qs c line := by
  have htoken : p.token? = none := by simp [Piece.token?, hp]
  obtain ⟨next, hfront, hcomment⟩ := h.exists_next hxs htoken (by simp [Piece.isCut, hp])
  have htype := h.toList_type
  cases hcomment with
  | @lineComment c line ending _ hline hopens hend =>
    obtain rfl : ending = ['\n'] := hend.resolve_right (by simp)
    have hc : Text.isBlank c = false := by
      rcases hopens with ⟨rfl, -⟩ | ⟨rfl, -⟩ <;> rfl
    have hraw : rawText (xs ++ ⟨.lineComment, c :: line ++ ['\n']⟩ :: ys) =
        rawText xs ++ c :: (line ++ '\n' :: rawText ys) := by simp
    rw [hraw] at htype
    obtain ⟨qs, hlexemes', htext, hhead, hbare⟩ :=
      exists_squeezed (by simpa using hfront) hxs htype hc
    refine ⟨qs, c, _, htext, Text.not_mem_squeeze rfl (by decide) _ _, hlexemes', fun more => ?_, .inl ?_⟩
    · have hhead : (line ++ ['\n']).head? = (line ++ '\n' :: rawText ys).head? := by
        cases line <;> rfl
      obtain ⟨x, hx⟩ : ∃ x, (line ++ '\n' :: rawText ys).head? = some x := by
        cases line <;> simp
      simp only [Piece.opensLineComment, Piece.hashOpensComment, hhead, hx, List.head?_append,
        Text.head?_squeeze, Option.map_some, Option.some_or, Option.all_some] at hopens ⊢
      rcases hopens with ⟨rfl, hdash⟩ | ⟨rfl, hhash⟩
      · obtain rfl := Option.some.inj hdash
        exact .inl ⟨rfl, rfl⟩
      · refine .inr ⟨rfl, ?_⟩
        by_cases hb : Text.isBlank x
        · rw [if_pos hb]
          exact Bool.or_eq_true _ _ ▸ .inr rfl
        · simpa [hb] using hhash
    · obtain ⟨hsome, t, word, tail, heq, ht, hnested⟩ := h.tokens_front htoken
      obtain ⟨u, rest, hqs, hu, hrest⟩ := tokens_of_bare hbare heq ht
      exact ⟨hhead hsome, u, word, rest, hqs, hu, nested_of_bare hrest hnested⟩
  | _ => simp at hp

theorem IsSlice.exists_isCut {xs ys : List Piece} {p : Piece} (h : IsSlice d type (xs ++ p :: ys))
    (hxs : ∀ q ∈ xs, q.isComplete) (hp : p.isCut) : ∃ q ∈ (scan d type.toList).1, q.isCut := by
  obtain ⟨cs, rs, hscan⟩ := h.scanned
  have htype := h.toList_type
  -- what the type ends with lies behind the literal and does not close it
  obtain ⟨mid, last, kind, rfl, hkind⟩ : ∃ mid last kind, ys = mid ++ [last] ∧ last.token? = some kind := by
    obtain ⟨front, last, kind, hrun, hkind⟩ := exists_last_of_isRun h.isRun
    rcases List.eq_nil_or_concat ys with rfl | ⟨mid, last', rfl⟩
    · obtain ⟨rfl, hlast⟩ := List.append_inj' hrun rfl
      obtain rfl := (List.cons.inj hlast).1
      obtain ⟨hcloses, -⟩ := closes_last h.isRun h.tokens hkind
      exact absurd hcloses (not_closes_of_isCut hp hkind)
    · rw [List.concat_eq_append, ← List.cons_append, ← List.append_assoc] at hrun
      obtain ⟨-, hlast⟩ := List.append_inj' hrun rfl
      obtain rfl := (List.cons.inj hlast).1
      exact ⟨mid, last', kind, List.concat_eq_append, hkind⟩
  have hends := IsSlice.ends (show IsSlice d type (xs ++ p :: mid ++ [last]) by simpa using h) hkind
  have hscan' : (scan d cs).1 = xs ++ p :: (mid ++ [last] ++ rs) := by
    rw [hscan]
    simp
  obtain ⟨c, more, rest, htext, hread, hrest⟩ :=
    exists_read?_of_scan (congrArg Prod.fst (scan_rawText_of_scan hscan'))
  obtain ⟨escapes, lead, text, hlead, hblank, hraw, hnone, hcut⟩ := Piece.exists_lead_of_isCut hread hp
  have happ := rawText_scan d rest
  rw [hrest, rawText_append, List.append_assoc] at happ
  -- so the literal goes on to the end of the type, and nothing closes it there when blanks are squeezed
  have hliteral : Piece.Literal escapes (text ++ rawText (mid ++ [last])) := by
    have hlast : (text ++ rawText (mid ++ [last])).getLast? = last.raw.getLast? := by
      obtain ⟨x, hx⟩ := Option.isSome_iff_exists.1 (List.getLast?_isSome.2 hends.1)
      simp [List.getLast?_append, hx]
    refine Piece.literal_of_splitLiteral_append (by rw [List.append_assoc, happ]; exact hnone) ?_ ?_
    · rw [hlast]
      exact fun hq => (hends.2 _ (List.mem_of_getLast? hq)).2.1 rfl
    · rw [hlast]
      exact fun hq => (hends.2 _ (List.mem_of_getLast? hq)).2.2 rfl
  obtain ⟨e, lead, rfl⟩ := List.exists_cons_of_ne_nil hlead
  have hlexemes := lexemes_of_scan hscan' fun q hq => isCut_of_isComplete (hxs q hq)
  have hrun : type.toList =
      Text.squeeze true (rawText xs ++ e :: (lead ++ (text ++ rawText (mid ++ [last])))) := by
    simpa [hraw] using htype
  obtain ⟨qs, hqs, heq, -⟩ :=
    exists_squeezed (by simpa [hraw] using hlexemes) hxs hrun (hblank e (by simp))
  have hleadBlank : ∀ x ∈ lead, Text.isBlank x = false := fun x hx => hblank x (by simp [hx])
  have hnot : Text.endsBlank false lead = false := by
    by_cases hne : lead = []
    · rw [hne]
      rfl
    · exact Text.endsBlank_of_not_blank hleadBlank hne false
  rw [Text.squeeze_append, Text.squeeze_of_not_blank hleadBlank, hnot] at heq
  obtain ⟨q, hq, hqcut⟩ := hcut _ (Piece.splitLiteral_of_literal (hliteral.squeeze false))
  refine ⟨q, ?_, hqcut⟩
  rw [heq, scan_append _ hqs]
  exact List.mem_append_right _ hq

private theorem exists_first_incomplete {ps : List Piece} (h : ¬∀ p ∈ ps, p.isComplete) :
    ∃ xs p ys, ps = xs ++ p :: ys ∧ (∀ q ∈ xs, q.isComplete) ∧ p.isComplete = false := by
  have happ := List.takeWhile_append_dropWhile (p := Piece.isComplete) (l := ps)
  have hall : ∀ q ∈ ps.takeWhile Piece.isComplete, q.isComplete :=
    fun q hq => List.all_eq_true.1 List.all_takeWhile q hq
  have hhead := List.head?_dropWhile_not Piece.isComplete ps
  cases hdrop : ps.dropWhile Piece.isComplete with
  | nil =>
    rw [hdrop, List.append_nil] at happ
    rw [happ] at hall
    exact absurd hall h
  | cons p ys =>
    rw [hdrop] at happ hhead
    exact ⟨_, p, ys, happ.symm, hall, by simpa using hhead⟩

private theorem isCommented_hash {d : Dialect} {after : Char} (h : Text.isBlank after) :
    IsCommented d after "#" [] '#' [] := by
  refine ⟨rfl, by simp, trivial, fun more => .inr ⟨rfl, ?_⟩, .inr ⟨rfl, rfl⟩⟩
  simp [Piece.hashOpensComment, h]

private theorem IsSlice.kind_ne {xs ys : List Piece} {p : Piece} (h : IsSlice d type (xs ++ p :: ys))
    (hxs : ∀ q ∈ xs, q.isComplete) : p.kind ≠ .blockComment false := by
  intro hp
  obtain ⟨next, -, hcomment⟩ := h.exists_next hxs (by simp [Piece.token?, hp]) (by simp [Piece.isCut, hp])
  cases hcomment <;> simp at hp

/-- A type without cut literals is read again, or a comment in it takes in what is written behind it. -/
theorem IsSlice.isType_or_isCommented (h : IsSlice d type run)
    (hcut : ∀ p ∈ (scan d type.toList).1, p.isCut = false) {after : Char} (hafter : isSeam after) :
    (∃ ps, IsType d after type ps) ∨ ∃ ps c line, IsCommented d after type ps c line := by
  by_cases hall : ∀ p ∈ run, p.isComplete
  · by_cases hhash : type = "#" ∧ Text.isBlank after
    · obtain ⟨rfl, hblank⟩ := hhash
      exact .inr ⟨_, _, _, isCommented_hash hblank⟩
    · exact .inl (h.isType hall hafter fun htype => by simpa [htype] using hhash)
  · obtain ⟨xs, p, ys, rfl, hxs, hp⟩ := exists_first_incomplete hall
    by_cases hline : p.kind = .lineComment
    · exact .inr (h.isCommented hxs hline after)
    · have hiscut : p.isCut := by
        simpa [Piece.isComplete, hline, h.kind_ne hxs] using hp
      obtain ⟨q, hq, hqcut⟩ := h.exists_isCut hxs hiscut
      rw [hcut q hq] at hqcut
      cases hqcut

end Slices

end SqlSchema.Ddl
