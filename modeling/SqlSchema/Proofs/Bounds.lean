import SqlSchema.Log
import SqlSchema.Proofs.CutLiterals
import SqlSchema.Proofs.Positions
import SqlSchema.Proofs.Vocabulary
/-!
# Reading within bounds

A script is read through slices of its text and through positions in its tokens. Every slice is cut
between characters of the text, and every position lies within the tokens that it is for: while the
text is cut into pieces, wherever a cursor over the tokens can come to, and in the log.
-/
namespace SqlSchema

section Parts

/-- The text from one place to another, each of them between two characters or at an end. -/
def Text.IsPart (text : String) (start stop : Nat) (part : String) : Prop :=
  ∃ before after, text = before ++ part ++ after ∧ before.utf8ByteSize = start ∧
    start + part.utf8ByteSize = stop

theorem Text.IsPart.slice?_eq {text part : String} {start stop : Nat}
    (h : IsPart text start stop part) : slice? text start stop = some part := by
  obtain ⟨before, after, rfl, rfl, rfl⟩ := h
  exact slice?_middle before part after

theorem Text.isPart_of_append {text : String} (before part after : List Char)
    (h : before ++ part ++ after = text.toList) :
    IsPart text (byteSize before) (byteSize before + byteSize part) (String.ofList part) := by
  refine ⟨String.ofList before, String.ofList after, ?_, utf8ByteSize_ofList before, ?_⟩
  · rw [← String.ofList_append, ← String.ofList_append, h, String.ofList_toList]
  · rw [utf8ByteSize_ofList]

end Parts

section Pieces

open Text

variable {d : Dialect} {text : String} {qs rs : List Piece} {p : Piece}

/-- What is cut out of the text for a piece that stands behind others. -/
structure PieceInBounds (d : Dialect) (text : String) (qs : List Piece) (p : Piece) : Prop where
  slice : IsPart text (byteSize (rawText qs)) (byteSize (rawText qs) + p.size) (String.ofList p.raw)
  /-- The letter in front of a literal with escapes is cut out as a word. -/
  letter : ∀ c, p.raw.head? = some c →
    IsPart text (byteSize (rawText qs)) (byteSize (rawText qs) + c.utf8Size) (String.singleton c)
  /-- The value of a literal that is cut short is a slice of its own. -/
  literal : ∀ value, p.kind = .cutLiteral value → ∃ lead, p.raw = lead ++ value.toList ∧
    IsPart text (byteSize (rawText qs) + byteSize lead) (byteSize (rawText qs) + p.size) value
  /-- A quoted name is what stands between its delimiters, which are always found. -/
  quoted : ∀ name, p.kind = .token (.quoted name) → ∃ q ∈ d.quoteStyles, ∃ stripped,
    q.strip? p.raw = some stripped ∧ name = String.ofList stripped

theorem isPart_front (h : (scan d text.toList).1 = qs ++ rs) :
    IsPart text 0 (byteSize (rawText qs)) (String.ofList (rawText qs)) := by
  have hraw := rawText_scan d text.toList
  rw [h, rawText_append, List.append_assoc] at hraw
  have hpart := isPart_of_append [] _ _ hraw
  rwa [byteSize_nil, Nat.zero_add] at hpart

private theorem exists_lead_of_readLiteral {escapes : Bool} {lead cs rest : List Char} {value : String}
    (h : Piece.readLiteral escapes lead cs = (p, rest)) (hp : p.kind = .cutLiteral value) :
    p.raw = lead ++ value.toList := by
  unfold Piece.readLiteral at h
  split at h
  · obtain ⟨rfl, -⟩ := Prod.mk.inj h
    simp at hp
  · obtain ⟨rfl, -⟩ := Prod.mk.inj h
    obtain rfl := PieceKind.cutLiteral.inj hp
    rw [String.toList_ofList]

private theorem exists_lead_of_cutLiteral {c : Char} {cs rest : List Char} {value : String}
    (h : Piece.read? d c cs = some (p, rest)) (hp : p.kind = .cutLiteral value) :
    ∃ lead, p.raw = lead ++ value.toList := by
  have hcut : p.isCut := by simp [Piece.isCut, hp]
  rcases Piece.read?_of_isCut h hcut with ⟨-, hlit⟩ | ⟨more, -, -, hlit⟩
  · exact ⟨_, exists_lead_of_readLiteral hlit hp⟩
  · exact ⟨_, exists_lead_of_readLiteral hlit hp⟩

private theorem exists_stripped {c : Char} {cs rest : List Char} {name : String}
    (h : Piece.read? d c cs = some (p, rest)) (hp : p.kind = .token (.quoted name)) :
    ∃ q ∈ d.quoteStyles, ∃ stripped, q.strip? p.raw = some stripped ∧ name = String.ofList stripped := by
  have hlexeme := Piece.lexeme_of_read? h (by simp [Piece.isCut, hp])
  generalize rest.head? = next at hlexeme
  cases hlexeme with
  | @quoted q body _ hq _ _ _ =>
    have hstrip := Piece.strip?_delimited q body
    obtain rfl := by simpa using hp
    exact ⟨q, hq, _, hstrip, rfl⟩
  | punctuation hkind _ =>
    obtain rfl := PieceKind.token.inj hp
    grind [Piece.punctuation?]
  | _ => simp at hp

theorem pieceInBounds (h : (scan d text.toList).1 = qs ++ p :: rs) : PieceInBounds d text qs p := by
  have hraw := rawText_scan d text.toList
  rw [h, rawText_append, rawText_cons] at hraw
  have hscan := scan_rawText_of_scan h
  obtain ⟨c, cs, rest, -, hread, -⟩ := exists_read?_of_scan (congrArg Prod.fst hscan)
  refine ⟨?_, fun c hc => ?_, fun value hvalue => ?_, fun name hname => exists_stripped hread hname⟩
  · exact isPart_of_append _ _ (rawText rs ++ (scan d text.toList).2) (by simpa using hraw)
  · obtain ⟨more, hmore⟩ := List.head?_eq_some_iff.1 hc
    have happ : rawText qs ++ [c] ++ (more ++ rawText rs ++ (scan d text.toList).2) = text.toList := by
      simpa [hmore] using hraw
    have hpart := isPart_of_append _ _ _ happ
    simpa using hpart
  · obtain ⟨lead, hlead⟩ := exists_lead_of_cutLiteral hread hvalue
    have happ : rawText qs ++ lead ++ value.toList ++ (rawText rs ++ (scan d text.toList).2) =
        text.toList := by
      simpa [hlead] using hraw
    have hpart := isPart_of_append _ _ _ happ
    refine ⟨lead, hlead, ?_⟩
    rw [Piece.size, hlead, byteSize_append, ← Nat.add_assoc]
    simpa using hpart

end Pieces

section Runs

open Text

variable {d : Dialect} {text : String} {ts us : List Token} {first last : Token}

private theorem exists_pieces {ps : List Piece} {xs zs : List Token} (h : xs ++ us ++ zs = tokensIn 0 ps)
    (hfirst : us.head? = some first) (hlast : us.getLast? = some last) :
    ∃ qs run rs, ps = qs ++ run ++ rs ∧ first.start = byteSize (rawText qs) ∧
      last.stop = byteSize (rawText qs) + byteSize (rawText run) := by
  have hne : us ≠ [] := by
    rintro rfl
    simp at hfirst
  obtain ⟨qs, run, rs, hps, hrun, -, rfl⟩ := exists_run_of_tokensIn h.symm hne
  obtain ⟨first', last', hfirst', hlast', hstart, hstop⟩ := tokensIn_ends (0 + byteSize (rawText qs)) hrun
  obtain rfl := Option.some.inj (hfirst.symm.trans hfirst')
  obtain rfl := Option.some.inj (hlast.symm.trans hlast')
  rw [Nat.zero_add] at hstart hstop
  exact ⟨qs, run, rs, hps, hstart, hstop⟩

private theorem exists_part (h : tokenize d text = .ok ts) (hu : us <:+: ts)
    (hfirst : us.head? = some first) (hlast : us.getLast? = some last) :
    ∃ part, IsPart text first.start last.stop part := by
  obtain ⟨hleft, rfl⟩ := tokenize_eq_ok_iff.1 h
  have hraw := rawText_scan d text.toList
  rw [hleft, List.append_nil] at hraw
  obtain ⟨xs, zs, happ⟩ := hu
  rw [tokensOf_eq, Nat.zero_add] at happ
  -- the end of the text is a token without a piece, and it may be the last of the run
  rcases List.eq_nil_or_concat zs with rfl | ⟨zs, z, rfl⟩
  · obtain ⟨us, rfl⟩ := List.getLast?_eq_some_iff.1 hlast
    rw [List.append_nil, ← List.append_assoc] at happ
    obtain ⟨hfront, hend⟩ := List.append_inj' happ rfl
    obtain rfl := List.singleton_inj.1 hend
    cases us with
    | nil =>
      obtain rfl : first = ⟨.endOfText, _, _⟩ := by simpa using hfirst.symm
      exact ⟨"", isPart_of_append _ [] [] (by simpa using hraw)⟩
    | cons u us =>
      have hfirst' : (u :: us).head? = some first := by simpa using hfirst
      have hrun : xs ++ u :: us ++ [] = tokensIn 0 (scan d text.toList).1 := by
        rw [List.append_nil, hfront]
      obtain ⟨qs, run, rs, hps, hstart, -⟩ := exists_pieces hrun hfirst' List.getLast?_cons
      refine ⟨String.ofList (rawText (run ++ rs)), ?_⟩
      rw [hps, List.append_assoc] at hraw ⊢
      rw [rawText_append] at hraw
      rw [hstart, rawText_append qs, byteSize_append]
      exact isPart_of_append _ _ [] (by simpa using hraw)
  · rw [List.concat_eq_append, ← List.append_assoc] at happ
    obtain ⟨qs, run, rs, hps, hstart, hstop⟩ :=
      exists_pieces (List.append_inj' happ rfl).1 hfirst hlast
    refine ⟨String.ofList (rawText run), ?_⟩
    rw [hstart, hstop]
    exact isPart_of_append _ _ _ (by rw [← rawText_append, ← rawText_append, ← hps, hraw])

theorem isPart_sourceText (h : tokenize d text = .ok ts) (hu : us <:+: ts)
    (hfirst : us.head? = some first) (hlast : us.getLast? = some last) :
    IsPart text first.start last.stop (sourceText text us) := by
  obtain ⟨part, hpart⟩ := exists_part h hu hfirst hlast
  simpa [sourceText, hfirst, hlast, hpart.slice?_eq] using hpart

end Runs

section Cursors

/-- Where a cursor over the tokens of a script can stand: in the script, in one of its statements, or
in an item of a list that starts where a cursor stands. It moves over single tokens, over a phrase that
it stands in front of, over the brackets of an array, and over the words for a kind of constraint. -/
inductive Visits (ts : List Token) : List Token → Nat → Prop
  | script : Visits ts ts 0
  | statement {us : List Token} (h : us ∈ splitStatements ts) : Visits ts us 0
  | item {us item : List Token} {pos : Nat} {closes : Bool} (h : Visits ts us pos)
      (hitem : item ∈ (splitTopLevel closes (us.drop pos)).1) : Visits ts item 0
  | token {us : List Token} {pos : Nat} (h : Visits ts us pos) (hpos : pos < us.length) :
      Visits ts us (pos + 1)
  | phrase {us : List Token} {pos : Nat} {phrase : List String} (h : Visits ts us pos)
      (hphrase : (behind? phrase (us.drop pos)).isSome) : Visits ts us (pos + phrase.length)
  | array {us : List Token} {pos : Nat} (h : Visits ts us pos)
      (hopen : startsWith .leftBracket (us.drop pos))
      (hclose : startsWith .rightBracket (us.drop (pos + 1))) : Visits ts us (pos + 2)
  | kind {us : List Token} {pos size : Nat} (h : Visits ts us pos)
      (hkind : kindSize? (us.drop pos) = some size) : Visits ts us (pos + size)

/-- What is cut out where a cursor stands: the items of a list, the text of a type, the words for a
kind of constraint, and the text of all the tokens that the cursor is for. -/
structure CursorInBounds (text : String) (us : List Token) (pos : Nat) : Prop where
  position : pos ≤ us.length
  items : ∀ closes, (cutItems? closes us 0 pos pos).map
      (fun r => (r.1.filter (fun item => !item.isEmpty), us.drop r.2)) =
    some (splitTopLevel closes (us.drop pos))
  type : ∀ next more, us.drop pos = next :: more → us[pos]? = some next ∧
    ∃ stop, typeStop? us (pos + 1) next.stop = some stop ∧
      Text.IsPart text next.start stop (sourceText text (next :: (readTypeTail more).1))
  kind : ∀ size, kindSize? (us.drop pos) = some size →
    part? us pos (pos + size) = some ((us.drop pos).take size) ∧
      (ConstraintKind.ofKeywords?
        (" ".intercalate (((us.drop pos).take size).filterMap Token.word?))).isSome
  text : ∀ first last, us.head? = some first → us.getLast? = some last →
    Text.IsPart text first.start last.stop (sourceText text us)

variable {d : Dialect} {text : String} {ts us : List Token} {pos : Nat}

/-- No move of a cursor leaves its tokens, which stand together in the script. -/
theorem Visits.bounds (h : Visits ts us pos) : us <:+: ts ∧ pos ≤ us.length := by
  induction h with
  | script => exact ⟨List.infix_refl ts, Nat.zero_le _⟩
  | statement h => exact ⟨splitStatements_isInfix h, Nat.zero_le _⟩
  | item _ hitem ih =>
    exact ⟨(splitTopLevel_isInfix hitem).trans ((List.drop_suffix _ _).isInfix.trans ih.1), Nat.zero_le _⟩
  | token _ hpos ih => exact ⟨ih.1, hpos⟩
  | phrase _ hphrase ih =>
    obtain ⟨rest, hrest⟩ := Option.isSome_iff_exists.1 hphrase
    have hlength := behind?_length hrest
    rw [List.length_drop] at hlength
    exact ⟨ih.1, by omega⟩
  | @array us pos _ _ hclose ih =>
    have hlt : pos + 1 < us.length := by
      by_contra hle
      rw [List.drop_eq_nil_of_le (by omega)] at hclose
      simp [startsWith] at hclose
    exact ⟨ih.1, hlt⟩
  | kind _ hkind ih =>
    have hsize := kindSize?_le hkind
    rw [List.length_drop] at hsize
    exact ⟨ih.1, by omega⟩

/-- A cursor can come to any suffix of the tokens that it is for. -/
theorem Visits.exists_suffix {rest : List Token} (h : Visits ts us 0) (hrest : rest <:+ us) :
    ∃ pos, Visits ts us pos ∧ us.drop pos = rest := by
  obtain ⟨front, rfl⟩ := hrest
  suffices key : ∀ pos ≤ front.length, Visits ts (front ++ rest) pos from
    ⟨front.length, key _ (Nat.le_refl _), List.drop_left⟩
  intro pos
  induction pos with
  | zero => exact fun _ => h
  | succ pos ih =>
    intro hpos
    exact .token (ih (by omega)) (by rw [List.length_append]; omega)

private theorem outlineOf_items {name name' : String} {items : List (List Token)}
    (h : outlineOf name us = .body name' items) : items = (splitTopLevel true us.tail).1 := by
  unfold outlineOf at h
  split at h
  · split at h
    · exact (TableOutline.body.inj h).2.symm
    · cases h
  · cases h

theorem Visits.body {name : String} {items : List (List Token)} (h : Visits ts us 0)
    (hbody : readOutline? us = some (.body name items)) : ∀ item ∈ items, Visits ts item 0 := by
  rw [readOutline?_eq] at hbody
  obtain ⟨us1, h1, hbody⟩ := Option.bind_eq_some_iff.1 hbody
  obtain ⟨us2, h2, hbody⟩ := Option.bind_eq_some_iff.1 hbody
  obtain ⟨name', -, hbody⟩ := Option.map_eq_some_iff.1 hbody
  have hsuffix : skipTableOptions us1 <:+ us :=
    (skipOneOf_suffix _ _).trans ((skipOneOf_suffix _ _).trans
      ((skipPhrase_suffix _ _).trans (behind?_suffix h1)))
  obtain ⟨pos, hpos, hdrop⟩ := h.exists_suffix ((List.tail_suffix _).trans
    ((readDottedName_suffix _).trans ((skipPhrase_suffix ["IF", "NOT", "EXISTS"] us2).trans
      ((behind?_suffix h2).trans hsuffix))))
  rw [outlineOf_items hbody, ← hdrop]
  exact fun item hitem => .item hpos hitem

theorem Visits.inBounds (h : Visits ts us pos) (hts : tokenize d text = .ok ts) :
    CursorInBounds text us pos := by
  obtain ⟨hinside, hpos⟩ := h.bounds
  refine ⟨hpos, fun closes => cutItems?_splitTopLevel closes hpos, fun next more hnext => ?_,
    fun size hsize => ?_, fun first last => isPart_sourceText hts hinside⟩
  · have hcurrent : us[pos]? = some next := by
      rw [← List.head?_drop, hnext, List.head?_cons]
    have hlt := (List.getElem?_eq_some_iff.1 hcurrent).1
    have hmore : us.drop (pos + 1) = more := by
      rw [← List.drop_drop, hnext]
      rfl
    have htail := readTypeTail_append more
    have hrun : next :: (readTypeTail more).1 <:+: ts := by
      have hfront : next :: (readTypeTail more).1 <+: us.drop pos := by
        rw [hnext]
        exact List.prefix_cons_inj next |>.2 ⟨_, htail⟩
      exact hfront.isInfix.trans ((List.drop_suffix _ _).isInfix.trans hinside)
    have hlast := List.getLast?_cons (a := next) (l := (readTypeTail more).1)
    have hpart := isPart_sourceText hts hrun List.head?_cons hlast
    refine ⟨hcurrent, _, typeStop?_eq_some hlt next.stop, ?_⟩
    rw [hmore]
    cases hend : (readTypeTail more).1.getLast? <;> simpa [hend] using hpart
  · have hle := kindSize?_le hsize
    rw [List.length_drop] at hle
    refine ⟨?_, ofKeywords?_isSome_of_kindSize? hsize⟩
    rw [part?_eq_some (Nat.le_add_right _ _) (by omega), List.drop_take]
    simp

end Cursors

section Scripts

open Text

variable {d : Dialect} {text : String} {ts : List Token}

theorem isPart_of_elementSkipped (h : tokenize d text = .ok ts) {statement : List Token}
    (hstatement : statement ∈ splitStatements ts) {table element : String}
    (hevent : .elementSkipped table element ∈ statementEvents text statement) :
    ∃ start stop, IsPart text start stop element := by
  unfold statementEvents at hevent
  split at hevent
  · simp at hevent
  · simp at hevent
  · simp at hevent
  · next name items hbody =>
    obtain ⟨item, hitem, heq⟩ := List.mem_map.1 hevent
    obtain ⟨rfl, rfl⟩ := by simpa using heq
    have hinside := ((readOutline?_spec hbody).2 item (List.mem_filter.1 hitem).1).trans
      (splitStatements_isInfix hstatement)
    cases item with
    | nil => exact ⟨0, 0, "", text, by simp [sourceText], rfl, rfl⟩
    | cons t item => exact ⟨_, _, isPart_sourceText h hinside List.head?_cons List.getLast?_cons⟩

theorem isPart_of_column (h : tokenize d text = .ok ts) {create : CreateTable}
    (hcreate : .create create ∈ readStatements text ts) {c : ColumnDefinition}
    (hc : .column c ∈ create.elements) :
    ∃ start stop type, IsPart text start stop type ∧ c.type = Text.collapse type := by
  obtain ⟨statement, hstatement, hread⟩ := List.mem_filterMap.1 hcreate
  let cut : Vocabulary := ⟨fun _ => True, fun type =>
    ∃ start stop slice, IsPart text start stop slice ∧ type = Text.collapse slice⟩
  have htypes (type : String) (htype : IsTypeOf text statement type) : cut.type type := by
    obtain ⟨name, items, item, hbody, hitem, first, next, word, tail, rest, rfl, -, -, -, rfl⟩ := htype
    have hitemRun : next :: tail <:+: first :: next :: (tail ++ rest) := ⟨[first], rest, by simp⟩
    have hrun : next :: tail <:+: ts := hitemRun.trans
      (((readOutline?_spec hbody).2 _ hitem).trans (splitStatements_isInfix hstatement))
    exact ⟨_, _, _, isPart_sourceText h hrun List.head?_cons List.getLast?_cons, rfl⟩
  have hwithin : (Statement.create create).Within cut :=
    readStatement?_within hread (fun _ _ => trivial) htypes
  exact (show c.Within cut from hwithin.2 _ hc).type

/-- No index and no slice is out of range while a script is read, whatever it is: the text is cut
between its characters, and a cursor over its tokens can stand wherever a reader stands, stays within
the tokens and cuts what the readers take. -/
theorem reading_inBounds (d : Dialect) (text : String) :
    (∀ qs rs, (scan d text.toList).1 = qs ++ rs →
      IsPart text 0 (byteSize (rawText qs)) (String.ofList (rawText qs)) ∧
        ∀ p, rs.head? = some p → PieceInBounds d text qs p) ∧
    ∀ ts, tokenize d text = .ok ts →
      (∀ us pos, Visits ts us pos → CursorInBounds text us pos) ∧
      (∀ us, Visits ts us 0 → ∀ rest, rest <:+ us → ∃ pos, Visits ts us pos ∧ us.drop pos = rest) ∧
      (∀ statement ∈ splitStatements ts, ∀ table items, readOutline? statement = some (.body table items) →
        ∀ item ∈ items, Visits ts item 0) ∧
      (∀ statement ∈ splitStatements ts, ∀ table element,
        .elementSkipped table element ∈ statementEvents text statement →
          ∃ start stop, IsPart text start stop element) ∧
      ∀ create, .create create ∈ readStatements text ts → ∀ c, .column c ∈ create.elements →
        ∃ start stop type, IsPart text start stop type ∧ c.type = Text.collapse type := by
  refine ⟨fun qs rs hpieces => ⟨isPart_front hpieces, fun p hp => ?_⟩, fun ts hts =>
    ⟨fun us pos hvisit => hvisit.inBounds hts, fun us hvisit rest hrest => hvisit.exists_suffix hrest,
      fun statement hs table items hbody => ?_,
      fun statement hs table element hevent => isPart_of_elementSkipped hts hs hevent,
      fun create hcreate c hc => isPart_of_column hts hcreate hc⟩⟩
  · obtain ⟨rs, rfl⟩ := List.head?_eq_some_iff.1 hp
    exact pieceInBounds hpieces
  · exact (Visits.statement hs).body hbody

theorem reading_inBounds_letters :
    ∃ ts item, tokenize .generic "CREATE TABLE t (é INT (2), KEY (é))" = .ok ts ∧ Visits ts item 1 ∧
      CursorInBounds "CREATE TABLE t (é INT (2), KEY (é))" item 1 ∧
      ∃ start stop, IsPart "CREATE TABLE t (é INT (2), KEY (é))" start stop "KEY (é)" := by
  let ts : List Token := [⟨.word "CREATE", 0, 6⟩, ⟨.word "TABLE", 7, 12⟩, ⟨.word "t", 13, 14⟩,
    ⟨.leftParen, 15, 16⟩, ⟨.word "é", 16, 18⟩, ⟨.word "INT", 19, 22⟩, ⟨.leftParen, 23, 24⟩,
    ⟨.number "2", 24, 25⟩, ⟨.rightParen, 25, 26⟩, ⟨.comma, 26, 27⟩, ⟨.word "KEY", 28, 31⟩,
    ⟨.leftParen, 32, 33⟩, ⟨.word "é", 33, 35⟩, ⟨.rightParen, 35, 36⟩, ⟨.rightParen, 36, 37⟩,
    ⟨.endOfText, 37, 37⟩]
  have hts : tokenize .generic "CREATE TABLE t (é INT (2), KEY (é))" = .ok ts :=
    tokenize_ofList (by with_unfolding_all decide) (by with_unfolding_all decide)
  have hlist : Visits ts ts 4 :=
    .token (.token (.token (.token .script (by decide)) (by decide)) (by decide)) (by decide)
  have hmem : ts.extract 4 9 ∈ (splitTopLevel true (ts.drop 4)).1 := by decide
  have hitem : Visits ts (ts.extract 4 9) 1 := .token (.item hlist hmem) (by decide)
  have hread := (reading_inBounds .generic "CREATE TABLE t (é INT (2), KEY (é))").2 ts hts
  exact ⟨ts, _, hts, hitem, hread.1 _ _ hitem,
    hread.2.2.2.1 ts.dropLast (by decide) "t" _ (by decide)⟩

end Scripts

end SqlSchema
