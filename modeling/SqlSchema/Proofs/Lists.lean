import SqlSchema.Proofs.TableLines
/-!
# Lists in parentheses

A list that is written in parentheses, with a comma and a space between its items, is one group of
tokens, and a written list of names is read back.
-/
namespace SqlSchema.Ddl

section Groups

/-- Pieces with commas between them. -/
def listPieces : List Piece → List Piece
  | [] => []
  | [p] => [p]
  | p :: q :: ps => p :: signPiece ',' .comma :: blankPiece ' ' :: listPieces (q :: ps)

/-- Pieces with commas between them, in parentheses. -/
def groupPieces (ps : List Piece) : List Piece :=
  signPiece '(' .leftParen :: (listPieces ps ++ [signPiece ')' .rightParen])

/-- A piece that is no sign of a list. -/
def IsItem (p : Piece) : Prop :=
  ∃ kind, p.token? = some kind ∧ ∀ start stop, Token.isOrdinary ⟨kind, start, stop⟩

theorem listPieces_eq (ps : List Piece) :
    listPieces ps = [signPiece ',' .comma, blankPiece ' '].intercalate (ps.map ([·])) := by
  induction ps with
  | nil => rfl
  | cons p ps ih =>
    cases ps with
    | nil => simp [listPieces]
    | cons q ps =>
      rw [List.map_cons] at ih
      rw [listPieces, ih, List.map_cons, List.map_cons, List.intercalate_cons_cons]
      simp

theorem rawText_listPieces (ps : List Piece) :
    rawText (listPieces ps) = [',', ' '].intercalate (ps.map (·.raw)) := by
  have hmap : (ps.map ([·])).map rawText = ps.map (·.raw) := by simp
  rw [listPieces_eq, rawText_intercalate, hmap]
  rfl

theorem rawText_groupPieces (ps : List Piece) :
    rawText (groupPieces ps) = '(' :: ([',', ' '].intercalate (ps.map (·.raw)) ++ [')']) := by
  simp [groupPieces, rawText_listPieces, signPiece]

theorem isSelfContained_groupPieces {d : Dialect} {ps : List Piece}
    (h : ∀ p ∈ ps, ∀ next, isSeam next → Piece.Lexeme d p (some next)) :
    IsSelfContained d (groupPieces ps) := by
  have hopen : IsSelfContained d [signPiece '(' .leftParen] := isSelfContained_signPiece d rfl (by decide)
  have hclose : IsSelfContained d [signPiece ')' .rightParen] :=
    isSelfContained_signPiece d rfl (by decide)
  have hsep : IsSelfContained d [signPiece ',' .comma, blankPiece ' '] :=
    (isSelfContained_signPiece d rfl (by decide)).append (isSelfContained_space d)
  have hlist : Lexemes d (listPieces ps) (some ')') := by
    rw [listPieces_eq]
    refine lexemes_intercalate _ hsep rfl fun e he => ?_
    obtain ⟨p, hp, rfl⟩ := List.mem_map.1 he
    exact ⟨⟨h p hp ',' rfl, trivial⟩, h p hp ')' rfl, trivial⟩
  exact hopen.append fun next => lexemes_append.2 ⟨hlist, hclose next⟩

private theorem exists_token (place : Nat) {p : Piece} (hp : IsItem p) :
    ∃ t : Token, t.isOrdinary ∧ p.token? = some t.kind ∧ tokensIn place [p] = [t] := by
  obtain ⟨kind, hkind, hordinary⟩ := hp
  exact ⟨⟨kind, place, place + p.size⟩, hordinary _ _, hkind, by simp [Piece.tokenAt?, hkind]⟩

private theorem exists_tokens {place : Nat} {whole ps : List Piece} {items : List (List Token)}
    (h : ∀ p ∈ ps, IsItem p) (hstand : List.Forall₂ (StandsAt place whole) (ps.map ([·])) items) :
    ∃ ts : List Token, items = ts.map ([·]) ∧ (∀ t ∈ ts, t.isOrdinary) ∧
      ts.map (fun t => some t.kind) = ps.map Piece.token? := by
  induction ps generalizing items with
  | nil =>
    obtain rfl := List.forall₂_nil_left_iff.1 hstand
    exact ⟨[], rfl, by simp, rfl⟩
  | cons p ps ih =>
    obtain ⟨item, items, ⟨front, _, _, rfl⟩, hrest, rfl⟩ := List.forall₂_cons_left_iff.1 hstand
    obtain ⟨t, ht, hkind, heq⟩ := exists_token (place + Text.byteSize (rawText front)) (h p (by simp))
    obtain ⟨ts, rfl, hts, hkinds⟩ := ih (fun q hq => h q (by simp [hq])) hrest
    exact ⟨t :: ts, by simp [heq], by simpa using ⟨ht, hts⟩, by simp [hkinds, hkind]⟩

private theorem separated_listPieces (offset : Nat) {ps : List Piece} (h : ∀ p ∈ ps, IsItem p)
    (hne : ps ≠ []) :
    ∃ ts : List Token, (∀ t ∈ ts, t.isOrdinary) ∧ ts.map (fun t => some t.kind) = ps.map Piece.token? ∧
      Separated (ts.map ([·])) (tokensIn offset (listPieces ps)) := by
  have henclosed : ∀ e ∈ ps.map ([·]), Enclosed (tokensIn 0 e) := by
    intro e he
    obtain ⟨p, hp, rfl⟩ := List.mem_map.1 he
    obtain ⟨t, ht, -, heq⟩ := exists_token 0 (h p hp)
    rw [heq]
    exact enclosed_of_isOrdinary (by simpa using ht)
  obtain ⟨items, hitems, hstand⟩ := exists_separated [signPiece ',' .comma, blankPiece ' '] rfl
    henclosed (by simpa using hne) offset
  obtain ⟨ts, rfl, hts, hkinds⟩ := exists_tokens h hstand
  rw [← listPieces_eq] at hitems
  exact ⟨ts, hts, hkinds, hitems⟩

theorem isFlat_listPieces (offset : Nat) {ps : List Piece} (h : ∀ p ∈ ps, IsItem p) :
    ∀ t ∈ tokensIn offset (listPieces ps), t.isFlat := by
  intro t ht
  by_cases hne : ps = []
  · subst hne
    simp [listPieces] at ht
  obtain ⟨ts, hts, -, hitems⟩ := separated_listPieces offset h hne
  rcases kind_or_mem_of_separated hitems ht with hcomma | ⟨item, hitem, hmem⟩
  · simp [Token.isFlat, Token.endsStatement, hcomma]
  · obtain ⟨u, hu, rfl⟩ := List.mem_map.1 hitem
    rw [List.mem_singleton.1 hmem]
    exact (hts u hu).isFlat

theorem tokensIn_groupPieces (offset : Nat) (ps : List Piece) :
    ∃ opening closing : Token, ∃ place : Nat, opening.kind = .leftParen ∧ closing.kind = .rightParen ∧
      tokensIn offset (groupPieces ps) =
        opening :: (tokensIn place (listPieces ps) ++ [closing]) :=
  ⟨⟨.leftParen, _, _⟩, ⟨.rightParen, _, _⟩, _, rfl, rfl, congrArg (List.cons _)
    (tokensIn_append _ (listPieces ps) [signPiece ')' .rightParen])⟩

theorem enclosed_groupPieces (offset : Nat) {ps : List Piece} (h : ∀ p ∈ ps, IsItem p) :
    Enclosed (tokensIn offset (groupPieces ps)) := by
  obtain ⟨opening, closing, place, hopen, hclose, heq⟩ := tokensIn_groupPieces offset ps
  rw [heq]
  exact enclosed_group hopen hclose (isFlat_listPieces place h)

theorem splitTopLevel_listPieces (offset : Nat) {ps : List Piece} (h : ∀ p ∈ ps, IsItem p)
    {closing : Token} (hclosing : closing.kind = .rightParen) (rest : List Token) :
    ∃ ts : List Token, ts.map (fun t => some t.kind) = ps.map Piece.token? ∧
      splitTopLevel true (tokensIn offset (listPieces ps) ++ closing :: rest) =
        (ts.map ([·]), closing :: rest) := by
  by_cases hne : ps = []
  · subst hne
    exact ⟨[], rfl, by simp [listPieces, splitTopLevel, splitBody_closed closing hclosing, splitCommas]⟩
  obtain ⟨ts, -, hkinds, hitems⟩ := separated_listPieces offset h hne
  have hkept : (ts.map ([·])).filter (fun item => !item.isEmpty) = ts.map ([·]) :=
    List.filter_eq_self.2 (by simp)
  refine ⟨ts, hkinds, ?_⟩
  simp only [splitTopLevel, splitBody_of_separated hitems hclosing, splitCommas_of_separated hitems, hkept]

end Groups

section Names

/-- Names in parentheses. -/
def nameGroup (names : List String) : List Piece := groupPieces (names.map namePiece)

theorem isOrdinary_of_nameKind {t : Token} {name : String} (h : t.kind = nameKind name) :
    t.isOrdinary := by
  unfold nameKind at h
  split at h <;> simp [Token.isOrdinary, Token.endsStatement, h]

theorem isItem_namePiece (name : String) : IsItem (namePiece name) :=
  ⟨nameKind name, rfl, fun _ _ => isOrdinary_of_nameKind rfl⟩

private theorem isItem_names (names : List String) : ∀ p ∈ names.map namePiece, IsItem p := by
  intro p hp
  obtain ⟨name, -, rfl⟩ := List.mem_map.1 hp
  exact isItem_namePiece name

theorem rawText_nameGroup (names : List String) :
    rawText (nameGroup names) = '(' :: ((", ".intercalate (names.map quote)).toList ++ [')']) := by
  rw [nameGroup, rawText_groupPieces, String.toList_intercalate, List.map_map, List.map_map]
  rfl

theorem isSelfContained_nameGroup (d : Dialect) (names : List String) :
    IsSelfContained d (nameGroup names) := by
  refine isSelfContained_groupPieces fun p hp next hn => ?_
  obtain ⟨name, -, rfl⟩ := List.mem_map.1 hp
  exact lexeme_namePiece d name hn

theorem enclosed_nameGroup (offset : Nat) (names : List String) :
    Enclosed (tokensIn offset (nameGroup names)) :=
  enclosed_groupPieces offset (isItem_names names)

theorem tokensIn_nameGroup (offset : Nat) (names : List String) :
    ∃ opening rest, opening.kind = .leftParen ∧ tokensIn offset (nameGroup names) = opening :: rest := by
  obtain ⟨opening, closing, place, hopen, -, heq⟩ :=
    tokensIn_groupPieces offset (names.map namePiece)
  exact ⟨opening, _, hopen, heq⟩

private theorem readNames {ts : List Token} {names : List String}
    (h : ts.map (fun t => some t.kind) = (names.map namePiece).map Piece.token?) :
    (ts.map ([·])).filterMap (fun item => (readName? item).map (·.1)) = names := by
  induction names generalizing ts with
  | nil => simp_all
  | cons name names ih =>
    obtain ⟨t, ts, rfl, hkind, hrest⟩ := List.map_eq_cons_iff.1 h
    have hname : t.name? = some name := by
      rw [← name?_nameKind name t.start t.stop, ← Option.some.inj hkind]
    rw [List.map_cons, List.filterMap_cons_some (b := name) (by simp [readName?, hname]), ih hrest]

theorem readColumnList?_nameGroup (offset : Nat) (names : List String) (rest : List Token) :
    readColumnList? (tokensIn offset (nameGroup names) ++ rest) = some (names, rest) := by
  obtain ⟨opening, closing, place, hopen, hclose, heq⟩ :=
    tokensIn_groupPieces offset (names.map namePiece)
  obtain ⟨ts, hkinds, hsplit⟩ := splitTopLevel_listPieces place (isItem_names names) hclose rest
  have happ : tokensIn offset (nameGroup names) ++ rest =
      opening :: (tokensIn place (listPieces (names.map namePiece)) ++ closing :: rest) := by
    simp [nameGroup, heq]
  rw [happ, readColumnList?, if_pos hopen]
  simp only [hsplit, readNames hkinds, skipKind, startsWith, List.head?_cons, Option.any_some, hclose]
  rfl

end Names

end SqlSchema.Ddl
