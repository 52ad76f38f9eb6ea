import SqlSchema.Proofs.KeyClauses
import SqlSchema.Proofs.Rereading
/-!
# Statements made of pieces

A CREATE TABLE statement is read from the pieces of its name and of its elements, and an ALTER TABLE
statement from those of its name and of what it adds. What an element is read as does not depend on the
statement that it stands in.
-/
namespace SqlSchema

open Ddl

section Tokens

theorem readDottedName_append {ts : List Token} {name : String}
    (h : readDottedName ts = (some name, [])) {next : Token} (hnext : next.kind ≠ .dot)
    (rest : List Token) : readDottedName (ts ++ next :: rest) = (some name, next :: rest) := by
  fun_induction readDottedName ts with
  | case1 => simp at h
  | case2 => simp at h
  | case3 t n hn d more hd ih => simpa [readDottedName, hn, hd] using ih h
  | case4 => simp at h
  | case5 t n hn =>
    obtain rfl : n = name := by simpa using h
    simp [readDottedName, hn, hnext]

theorem behind?_of_dottedName {ts : List Token} {name : String}
    (h : readDottedName ts = (some name, [])) {next : Token} {k k' : String}
    (hnext : next.isWord k' = false) (ks : List String) (rest : List Token) :
    behind? (k :: k' :: ks) (ts ++ next :: rest) = none := by
  match ts with
  | [] => simp [readDottedName] at h
  | [t] => simp [behind?, hnext]
  | t :: d :: more =>
    have hdot : d.kind = .dot := by
      by_contra hd
      cases hn : t.name? <;> simp [readDottedName, hn, hd] at h
    have hword : d.isWord k' = false := by simp [Token.isWord, hdot]
    simp [behind?, hword]

theorem splitBody_of_not_closes {ts : List Token} (h : ∀ t ∈ ts, t.endsStatement = false)
    (depth : Nat) : splitBody false depth ts = (ts, []) := by
  induction ts generalizing depth with
  | nil => rfl
  | cons t ts ih =>
    have ht := h t (by simp)
    rw [splitBody, if_neg (by simp [ht]), ih fun u hu => h u (by simp [hu])]

@[simp] theorem readAddClause?_nil : readAddClause? [] = none := by
  simp [readAddClause?_eq, behind?]

variable {ts : List Token} {name : String}

theorem readStatement?_create (source : String) {create table opening closing : Token}
    (hcreate : create.kind = .word "CREATE") (htable : table.kind = .word "TABLE")
    (hopen : opening.kind = .leftParen) (hclose : closing.kind = .rightParen)
    (hname : readDottedName ts = (some name, [])) {body : List Token}
    (hbody : splitBody true 0 (body ++ [closing]) = (body, [closing])) :
    readStatement? source (create :: table :: (ts ++ opening :: (body ++ [closing]))) =
      some (.create ⟨name, (splitCommas 0 body).filterMap (readElement? source)⟩) := by
  have hkeep (rest : List Token) : skipTableOptions (table :: rest) = table :: rest := by
    simp [skipTableOptions, skipPhrase, skipOneOf, behindOneOf?, behind?, Token.isWord, htable,
      Text.isKeyword]
  have hskip : skipPhrase ["IF", "NOT", "EXISTS"] (ts ++ opening :: (body ++ [closing])) =
      ts ++ opening :: (body ++ [closing]) := by
    rw [skipPhrase, behind?_of_dottedName hname (by simp [Token.isWord, hopen])]
    rfl
  have hdotted := readDottedName_append hname (show opening.kind ≠ .dot by simp [hopen])
    (body ++ [closing])
  have hitems := filterMap_splitTopLevel (readElement?_nil source) true (body ++ [closing])
  rw [hbody] at hitems
  have hbodyOutline : outlineOf name (opening :: (body ++ [closing])) =
      .body name (splitTopLevel true (body ++ [closing])).1 := by
    simp [outlineOf, splitTopLevel, hbody, startsWith, hopen, hclose]
  have houtline : readOutline? (create :: table :: (ts ++ opening :: (body ++ [closing]))) =
      some (outlineOf name (opening :: (body ++ [closing]))) := by
    rw [readOutline?_eq]
    simp [behind?, Token.isWord, hcreate, htable, Text.isKeyword, hkeep, hskip, hdotted]
  rw [readStatement?, readCreate?, houtline, hbodyOutline]
  simp [hitems]

theorem readStatement?_alter (source : String) {alter table add : Token}
    (halter : alter.kind = .word "ALTER") (htable : table.kind = .word "TABLE")
    (hadd : add.kind = .word "ADD") (hname : readDottedName ts = (some name, []))
    (honly : behind? ["ONLY"] ts = none) {element : List Token} (helement : Enclosed element) :
    readStatement? source (alter :: table :: (ts ++ add :: element)) =
      some (.alter ⟨name, (readAddClause? (add :: element)).toList⟩) := by
  have hcreate : readCreate? source (alter :: table :: (ts ++ add :: element)) = none := by
    rw [readCreate?, readOutline?_eq]
    simp [behind?, Token.isWord, halter, Text.isKeyword]
  have hexists : skipPhrase ["IF", "EXISTS"] (ts ++ add :: element) = ts ++ add :: element := by
    rw [skipPhrase, behind?_of_dottedName hname (by simp [Token.isWord, hadd, Text.isKeyword])]
    rfl
  have hskip : skipPhrase ["ONLY"] (ts ++ add :: element) = ts ++ add :: element := by
    cases ts with
    | nil => simp [readDottedName] at hname
    | cons t ts =>
      have ht : t.isWord "ONLY" = false := by simpa [behind?] using honly
      simp [skipPhrase, behind?, ht]
  have hdotted := readDottedName_append hname (show add.kind ≠ .dot by simp [hadd]) element
  have hordinary : add.isOrdinary := by simp [Token.isOrdinary, Token.endsStatement, hadd]
  have henclosed : Enclosed (add :: element) := (enclosed_cons_of_isOrdinary hordinary).2 helement
  have hitems := filterMap_splitTopLevel readAddClause?_nil false (add :: element)
  rw [splitBody_of_not_closes (endsStatement_of_nested henclosed.1), splitCommas_of_enclosed henclosed]
    at hitems
  have hbehind : behind? ["ALTER", "TABLE"] (alter :: table :: (ts ++ add :: element)) =
      some (ts ++ add :: element) := by
    simp [behind?, Token.isWord, halter, htable, Text.isKeyword]
  rw [readStatement?, hcreate, readAlter?_eq, hbehind, Option.bind_some, hexists, hskip, hdotted,
    Option.map_some, hitems]
  cases hclause : readAddClause? (add :: element) <;> simp [hclause]

end Tokens

section Pieces

/-- Elements with commas between them. -/
def bodyPieces (es : List (List Piece)) : List Piece :=
  [signPiece ',' .comma, blankPiece ' '].intercalate es

/-- The front of a CREATE TABLE statement, up to its list. -/
def openPieces (name : List Piece) : List Piece :=
  phrasePieces "CREATE" "TABLE" ++ name ++ [blankPiece ' ', signPiece '(' .leftParen]

/-- A CREATE TABLE statement. -/
def createPieces (name : List Piece) (es : List (List Piece)) : List Piece :=
  openPieces name ++ bodyPieces es ++ [signPiece ')' .rightParen]

/-- An ALTER TABLE statement that adds an element. -/
def addPieces (name element : List Piece) : List Piece :=
  phrasePieces "ALTER" "TABLE" ++ name ++ [blankPiece ' ', wordPiece "ADD", blankPiece ' '] ++ element

theorem exists_elements_bodyPieces {es : List (List Piece)} (hes : ∀ e ∈ es, Enclosed (tokensIn 0 e))
    (before : List Char) :
    ∃ items, Separated items (tokensIn (Text.byteSize before) (bodyPieces es)) ∧
      ∀ after, items.filterMap
          (readElement? (String.ofList (before ++ rawText (bodyPieces es) ++ after))) =
        es.filterMap elementOf? :=
  exists_elements _ rfl hes before

end Pieces

section Statements

/-- The pieces of a table's name. A bare `ONLY` in front is taken for a keyword of ALTER TABLE. -/
structure IsNamed (ps : List Piece) (name : String) : Prop where
  reads : readDottedName (tokensIn 0 ps) = (some name, [])
  notOnly : behind? ["ONLY"] (tokensIn 0 ps) = none

instance (ps : List Piece) (name : String) : Decidable (IsNamed ps name) :=
  decidable_of_iff (readDottedName (tokensIn 0 ps) = (some name, []) ∧
    behind? ["ONLY"] (tokensIn 0 ps) = none) ⟨fun h => ⟨h.1, h.2⟩, fun h => ⟨h.reads, h.notOnly⟩⟩

theorem IsNamed.at {ps : List Piece} {name : String} (h : IsNamed ps name) (place : Nat) :
    readDottedName (tokensIn place ps) = (some name, []) ∧ behind? ["ONLY"] (tokensIn place ps) = none := by
  rw [tokensIn_eq_shift, readDottedName_shift, behind?_map (keepsRole_shift place), h.reads, h.notOnly]
  exact ⟨rfl, rfl⟩

private theorem exists_phrase (place : Nat) (first second : String) :
    ∃ t u : Token, t.kind = .word first ∧ u.kind = .word second ∧
      tokensIn place (phrasePieces first second) = [t, u] :=
  ⟨⟨.word first, _, _⟩, ⟨.word second, _, _⟩, rfl, rfl, rfl⟩

variable {t : List Piece} {name : String} {es : List (List Piece)} {e : List Piece}

private theorem exists_tokens_openPieces (t : List Piece) :
    ∃ create table opening : Token, ∃ place, create.kind = .word "CREATE" ∧
      table.kind = .word "TABLE" ∧ opening.kind = .leftParen ∧
      tokensIn 0 (openPieces t) = create :: table :: (tokensIn place t ++ [opening]) := by
  have hparen (place : Nat) : ∃ opening : Token, opening.kind = .leftParen ∧
      tokensIn place [blankPiece ' ', signPiece '(' .leftParen] = [opening] :=
    ⟨⟨.leftParen, _, _⟩, rfl, rfl⟩
  obtain ⟨create, table, hcreate, htable, hwords⟩ := exists_phrase 0 "CREATE" "TABLE"
  obtain ⟨opening, hopen, heq⟩ :=
    hparen (0 + Text.byteSize (rawText (phrasePieces "CREATE" "TABLE" ++ t)))
  have htokens := tokensIn_append 0 (phrasePieces "CREATE" "TABLE" ++ t)
    [blankPiece ' ', signPiece '(' .leftParen]
  rw [heq, tokensIn_append 0 _ t, hwords] at htokens
  exact ⟨create, table, opening, _, hcreate, htable, hopen, htokens⟩

private theorem exists_closing_paren (place : Nat) :
    ∃ closing : Token, closing.kind = .rightParen ∧
      tokensIn place [signPiece ')' .rightParen] = [closing] :=
  ⟨⟨.rightParen, _, _⟩, rfl, rfl⟩

private theorem exists_tokens_addPieces (place : Nat) (t e : List Piece) :
    ∃ alter table add : Token, ∃ start stop, alter.kind = .word "ALTER" ∧
      table.kind = .word "TABLE" ∧ add.kind = .word "ADD" ∧
      tokensIn place (addPieces t e) = alter :: table :: (tokensIn start t ++ add :: tokensIn stop e) := by
  have hword (place : Nat) : ∃ add : Token, add.kind = .word "ADD" ∧
      tokensIn place [blankPiece ' ', wordPiece "ADD", blankPiece ' '] = [add] :=
    ⟨⟨.word "ADD", _, _⟩, rfl, rfl⟩
  obtain ⟨alter, table, halter, htable, hwords⟩ := exists_phrase place "ALTER" "TABLE"
  obtain ⟨add, hadd, heq⟩ :=
    hword (place + Text.byteSize (rawText (phrasePieces "ALTER" "TABLE" ++ t)))
  have htokens := tokensIn_append place
    (phrasePieces "ALTER" "TABLE" ++ t ++ [blankPiece ' ', wordPiece "ADD", blankPiece ' ']) e
  rw [tokensIn_append place (phrasePieces "ALTER" "TABLE" ++ t), heq, tokensIn_append place _ t, hwords,
    ← addPieces, List.append_assoc] at htokens
  exact ⟨alter, table, add, _, _, halter, htable, hadd, htokens⟩

theorem readStatement?_createPieces (ht : IsNamed t name) (hes : ∀ e ∈ es, Enclosed (tokensIn 0 e)) :
    readStatement? (String.ofList (rawText (createPieces t es))) (tokensIn 0 (createPieces t es)) =
      some (.create ⟨name, es.filterMap elementOf?⟩) := by
  obtain ⟨create, table, opening, place, hcreate, htable, hopen, hfront⟩ := exists_tokens_openPieces t
  obtain ⟨closing, hclose, hback⟩ := exists_closing_paren
    (0 + Text.byteSize (rawText (openPieces t ++ bodyPieces es)))
  obtain ⟨items, hitems, hread⟩ := exists_elements_bodyPieces hes (rawText (openPieces t))
  have hbody := splitBody_of_separated hitems hclose []
  have htext : rawText (createPieces t es) =
      rawText (openPieces t) ++ rawText (bodyPieces es) ++ [')'] := by
    simp [createPieces, signPiece]
  rw [createPieces, tokensIn_append, tokensIn_append, hfront, hback, ← createPieces, htext, Nat.zero_add]
  have hstatement := readStatement?_create
    (String.ofList (rawText (openPieces t) ++ rawText (bodyPieces es) ++ [')'])) hcreate htable hopen
    hclose (ht.at place).1 hbody
  rw [splitCommas_of_separated hitems, hread [')']] at hstatement
  simpa using hstatement

/-- What an ALTER TABLE statement adds is read as the element would be inside a table. -/
theorem readStatement?_addPieces (source : String) (ht : IsNamed t name)
    (he : Enclosed (tokensIn 0 e)) (hkey : opensKey (tokensIn 0 e)) (place : Nat) :
    readStatement? source (tokensIn place (addPieces t e)) =
      some (.alter ⟨name, ((elementOf? e).bind TableElement.addClause?).toList⟩) := by
  obtain ⟨alter, table, add, start, stop, halter, htable, hadd, htokens⟩ :=
    exists_tokens_addPieces place t e
  have hadd' : add.isWord "ADD" := by simp [Token.isWord, hadd, Text.isKeyword]
  have hclause : readAddClause? (add :: tokensIn stop e) =
      (elementOf? e).bind TableElement.addClause? := by
    rw [tokensIn_eq_shift,
      readAddClause?_of_opensKey hadd' (by rwa [opensKey_map (keepsRole_shift stop)]),
      readConstraint?_shift, elementOf?, readElement?_of_opensKey _ hkey]
  rw [htokens, readStatement?_alter source halter htable hadd (ht.at start).1 (ht.at start).2
    ((enclosed_tokensIn stop e).2 he), hclause]

theorem endsStatement_of_dottedName {ts : List Token} (h : readDottedName ts = (some name, [])) :
    ∀ t ∈ ts, t.endsStatement = false := by
  have hname {t : Token} {n : String} (hn : t.name? = some n) : t.endsStatement = false := by
    unfold Token.name? at hn
    split at hn <;> simp_all [Token.endsStatement]
  fun_induction readDottedName ts with
  | case1 => simp
  | case2 => simp at h
  | case3 t n hn d more hd ih =>
    intro u hu
    simp only [List.mem_cons] at hu
    rcases hu with rfl | rfl | hu
    · exact hname hn
    · simp [Token.endsStatement, hd]
    · exact ih h u hu
  | case4 => simp at h
  | case5 t n hn =>
    intro u hu
    obtain rfl := List.mem_singleton.1 hu
    exact hname hn

theorem endsStatement_createPieces (ht : IsNamed t name) (hes : ∀ e ∈ es, Enclosed (tokensIn 0 e)) :
    ∀ u ∈ tokensIn 0 (createPieces t es), u.endsStatement = false := by
  obtain ⟨create, table, opening, place, hcreate, htable, hopen, hfront⟩ := exists_tokens_openPieces t
  obtain ⟨closing, hclose, hback⟩ := exists_closing_paren
    (0 + Text.byteSize (rawText (openPieces t ++ bodyPieces es)))
  obtain ⟨items, hitems, -⟩ := exists_elements_bodyPieces hes (rawText (openPieces t))
  rw [createPieces, tokensIn_append, tokensIn_append, hfront, hback, Nat.zero_add]
  intro u hu
  simp only [List.mem_append, List.mem_cons, List.not_mem_nil, or_false] at hu
  rcases hu with ((rfl | rfl | hu | rfl) | hu) | rfl
  · simp [Token.endsStatement, hcreate]
  · simp [Token.endsStatement, htable]
  · exact endsStatement_of_dottedName (ht.at place).1 u hu
  · simp [Token.endsStatement, hopen]
  · exact endsStatement_of_separated hitems u hu
  · simp [Token.endsStatement, hclose]

theorem endsStatement_addPieces (ht : IsNamed t name) (he : Enclosed (tokensIn 0 e)) (place : Nat) :
    ∀ u ∈ tokensIn place (addPieces t e), u.endsStatement = false := by
  obtain ⟨alter, table, add, start, stop, halter, htable, hadd, htokens⟩ :=
    exists_tokens_addPieces place t e
  rw [htokens]
  intro u hu
  simp only [List.mem_append, List.mem_cons] at hu
  rcases hu with rfl | rfl | hu | rfl | hu
  · simp [Token.endsStatement, halter]
  · simp [Token.endsStatement, htable]
  · exact endsStatement_of_dottedName (ht.at start).1 u hu
  · simp [Token.endsStatement, hadd]
  · exact endsStatement_of_nested ((enclosed_tokensIn stop e).2 he).1 u hu

theorem readStatements_semicolon {ps : List Piece} (hps : ∀ u ∈ tokensIn 0 ps, u.endsStatement = false)
    (qs : List Piece) :
    readStatements (String.ofList (rawText (ps ++ signPiece ';' .semicolon :: qs)))
        (tokensOf 0 (ps ++ signPiece ';' .semicolon :: qs)) =
      (readStatement? (String.ofList (rawText ps)) (tokensIn 0 ps)).toList ++
        readStatements (String.ofList (rawText qs)) (tokensOf 0 qs) := by
  obtain ⟨semicolon, hsemi, heq⟩ : ∃ semicolon : Token, semicolon.kind = .semicolon ∧
      tokensIn (0 + Text.byteSize (rawText ps)) [signPiece ';' .semicolon] = [semicolon] :=
    ⟨⟨.semicolon, _, _⟩, rfl, rfl⟩
  have hfirst := readStatement?_shift [] (rawText ps) (rawText (signPiece ';' .semicolon :: qs))
    fun u (hu : u ∈ tokensIn 0 ps) => by simpa using stop_of_mem_tokensIn hu
  rw [Text.byteSize_nil, ← tokensIn_eq_shift, List.nil_append, ← rawText_append] at hfirst
  have hrest := readStatements_behind (rawText (ps ++ [signPiece ';' .semicolon])) (rawText qs)
    fun u (hu : u ∈ tokensOf 0 qs) => stop_of_mem_tokensOf hu
  rw [← tokensOf_eq_shift, ← rawText_append, List.append_assoc, List.singleton_append] at hrest
  have htokens : tokensOf 0 (ps ++ signPiece ';' .semicolon :: qs) = tokensIn 0 ps ++ semicolon ::
      tokensOf (Text.byteSize (rawText (ps ++ [signPiece ';' .semicolon]))) qs := by
    have happend := tokensOf_append 0 (ps ++ [signPiece ';' .semicolon]) qs
    rwa [tokensIn_append, heq, Nat.zero_add, List.append_assoc, List.append_assoc,
      List.singleton_append, List.singleton_append] at happend
  rw [htokens, readStatements, splitStatements_append hps hsemi, List.filterMap_cons, hfirst, ← readStatements,
    hrest]
  cases readStatement? (String.ofList (rawText ps)) (tokensIn 0 ps) <;> rfl

end Statements

end SqlSchema
