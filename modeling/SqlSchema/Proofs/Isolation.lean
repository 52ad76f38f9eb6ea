import SqlSchema.Proofs.TableTokens
/-!
# Statements in place

A statement can be read among the tokens of a whole script: wherever its reader gives up, what is left
of the statement is passed over, up to its semicolon. Read in place, each statement takes the tokens
that it takes when the script is split beforehand, and no others.
-/
namespace SqlSchema

section InPlace

/-- The tokens behind the semicolon that ends the statement, or from the end of the text on. -/
def behindStatement (ts : List Token) : List Token :=
  skipKind .semicolon (ts.dropWhile fun t => !t.endsStatement)

/-- Reads the body of a table, and leaves the tokens behind the statement. -/
def takeBody (source name : String) (ts : List Token) : Option CreateTable × List Token :=
  if startsWith .leftParen ts then
    let (items, rest) := splitTopLevel true ts.tail
    if startsWith .rightParen rest then
      (some ⟨name, items.filterMap (readElement? source)⟩, behindStatement rest.tail)
    else (none, behindStatement rest)
  else (none, behindStatement ts)

/-- Reads on behind `CREATE`, and leaves the tokens behind the statement. -/
def takeCreate (source : String) (ts : List Token) : Option CreateTable × List Token :=
  match behind? ["TABLE"] (skipTableOptions ts) with
  | none => (none, behindStatement (skipTableOptions ts))
  | some ts =>
    match readDottedName (skipPhrase ["IF", "NOT", "EXISTS"] ts) with
    | (none, rest) => (none, behindStatement rest)
    | (some name, rest) => takeBody source name rest

/-- Reads on behind `ALTER`, and leaves the tokens behind the statement. -/
def takeAlter (ts : List Token) : Option AlterTable × List Token :=
  match behind? ["TABLE"] ts with
  | none => (none, behindStatement ts)
  | some ts =>
    match readDottedName (skipPhrase ["ONLY"] (skipPhrase ["IF", "EXISTS"] ts)) with
    | (none, rest) => (none, behindStatement rest)
    | (some name, rest) =>
      let (actions, rest) := splitTopLevel false rest
      (some ⟨name, actions.filterMap readAddClause?⟩, behindStatement rest)

/-- Reads one statement of a script, and leaves the tokens behind it. -/
def takeStatement (source : String) (ts : List Token) : Option Statement × List Token :=
  match behind? ["CREATE"] ts, behind? ["ALTER"] ts with
  | some rest, _ => ((takeCreate source rest).1.map .create, (takeCreate source rest).2)
  | none, some rest => ((takeAlter rest).1.map .alter, (takeAlter rest).2)
  | none, none => (none, behindStatement ts)

end InPlace

section Readers

/-- A semicolon or the end of the text stands at the front, if anything does. -/
def Stops (tail : List Token) : Prop := ∀ t, tail.head? = some t → t.endsStatement

variable {us tail : List Token}

private theorem kind_of_endsStatement {t : Token} (h : t.endsStatement) :
    t.kind = .semicolon ∨ t.kind = .endOfText := by
  rwa [Token.endsStatement, Bool.or_eq_true, beq_iff_eq, beq_iff_eq] at h

private theorem isWord_of_endsStatement {t : Token} (h : t.endsStatement) (keyword : String) :
    t.isWord keyword = false := by
  rcases kind_of_endsStatement h with h | h <;> simp [Token.isWord, h]

theorem behind?_append (phrase : List String) (us : List Token) (ht : Stops tail) :
    behind? phrase (us ++ tail) = (behind? phrase us).map (· ++ tail) := by
  fun_induction behind? phrase us with
  | case1 => rw [behind?, Option.map_some]
  | case2 k ks =>
    cases tail with
    | nil => rfl
    | cons t tail =>
      rw [List.nil_append, behind?, isWord_of_endsStatement (ht t rfl)]
      rfl
  | case3 k ks t us hword ih => rw [List.cons_append, behind?, if_pos hword, ih]
  | case4 k ks t us hword => rw [List.cons_append, behind?, if_neg hword, Option.map_none]

theorem skipPhrase_append (phrase : List String) (us : List Token) (ht : Stops tail) :
    skipPhrase phrase (us ++ tail) = skipPhrase phrase us ++ tail := by
  rw [skipPhrase, behind?_append phrase us ht, skipPhrase]
  cases behind? phrase us <;> rfl

theorem skipOneOf_append (phrases : List (List String)) (us : List Token) (ht : Stops tail) :
    skipOneOf phrases (us ++ tail) = skipOneOf phrases us ++ tail := by
  have hmap : behindOneOf? phrases (us ++ tail) = (behindOneOf? phrases us).map (· ++ tail) := by
    simp only [behindOneOf?, List.map_findSome?, Function.comp_def, behind?_append _ us ht]
  rw [skipOneOf, hmap, skipOneOf]
  cases behindOneOf? phrases us <;> rfl

theorem skipTableOptions_append (us : List Token) (ht : Stops tail) :
    skipTableOptions (us ++ tail) = skipTableOptions us ++ tail := by
  simp only [skipTableOptions, skipPhrase_append _ _ ht, skipOneOf_append _ _ ht]

theorem startsWith_append (kind : TokenKind) (hsemi : kind ≠ .semicolon) (hend : kind ≠ .endOfText)
    (us : List Token) (ht : Stops tail) : startsWith kind (us ++ tail) = startsWith kind us := by
  cases us with
  | cons u us => rfl
  | nil =>
    cases tail with
    | nil => rfl
    | cons t tail =>
      rcases kind_of_endsStatement (ht t rfl) with h | h
      · simpa [startsWith, h] using hsemi.symm
      · simpa [startsWith, h] using hend.symm

theorem readDottedName_append_stop (us : List Token) (ht : Stops tail) :
    readDottedName (us ++ tail) = ((readDottedName us).1, (readDottedName us).2 ++ tail) := by
  have hname {t : Token} (h : t.endsStatement) : t.name? = none ∧ t.kind ≠ .dot := by
    rcases kind_of_endsStatement h with h | h <;> simp [Token.name?, h]
  fun_induction readDottedName us with
  | case1 =>
    cases tail with
    | nil => rfl
    | cons t tail => simp [readDottedName, (hname (ht t rfl)).1]
  | case2 t us hn => simp [readDottedName, hn]
  | case3 t name hn d us hd ih => simpa [readDottedName, hn, hd] using ih
  | case4 t name hn d us hd => simp [readDottedName, hn, hd]
  | case5 t name hn =>
    cases tail with
    | nil => simp [readDottedName, hn]
    | cons u tail => simp [readDottedName, hn, (hname (ht u rfl)).2]

theorem splitTopLevel_append (closes : Bool) (us : List Token) (ht : Stops tail) :
    splitTopLevel closes (us ++ tail) =
      ((splitTopLevel closes us).1, (splitTopLevel closes us).2 ++ tail) := by
  suffices key : ∀ depth, splitBody closes depth (us ++ tail) =
      ((splitBody closes depth us).1, (splitBody closes depth us).2 ++ tail) by
    rw [splitTopLevel, key 0, splitTopLevel]
  induction us with
  | nil =>
    intro depth
    cases tail with
    | nil => rfl
    | cons t tail => simp [splitBody, ht t rfl]
  | cons u us ih =>
    intro depth
    rw [List.cons_append, splitBody, splitBody, ih]
    split <;> rfl

end Readers

section Statements

variable {us tail : List Token} {source : String}

/-- Wherever a reader stands in a statement, the same tokens are left behind the statement. -/
theorem behindStatement_append (hu : ∀ t ∈ us, t.endsStatement = false) (ht : Stops tail) :
    behindStatement (us ++ tail) = skipKind .semicolon tail := by
  have hdrop : (us ++ tail).dropWhile (fun t => !t.endsStatement) = tail := by
    rw [List.dropWhile_append_of_pos fun t h => by simp [hu t h]]
    cases tail with
    | nil => rfl
    | cons t tail => simp [ht t rfl]
  rw [behindStatement, hdrop]

private theorem endsStatement_of_suffix {vs : List Token} (hu : ∀ t ∈ us, t.endsStatement = false)
    (hv : vs <:+ us) : ∀ t ∈ vs, t.endsStatement = false := fun t h => hu t (hv.subset h)

theorem takeBody_append (name : String) (hu : ∀ t ∈ us, t.endsStatement = false) (ht : Stops tail) :
    takeBody source name (us ++ tail) =
      ((takeBody source name us).1, skipKind .semicolon tail) := by
  by_cases hopen : startsWith .leftParen us
  · obtain ⟨u, us, rfl⟩ : ∃ u vs, us = u :: vs := List.exists_cons_of_ne_nil fun hnil => by
      simp [hnil, startsWith] at hopen
    have hopen' (vs : List Token) : startsWith .leftParen (u :: vs) := hopen
    have hrest := (splitTopLevel_suffix true us).trans (List.suffix_cons u us)
    have hstarts := startsWith_append .rightParen (by decide) (by decide)
      (splitTopLevel true us).2 ht
    by_cases hclose : startsWith .rightParen (splitTopLevel true us).2
    · have hne : (splitTopLevel true us).2 ≠ [] := fun hnil => by simp [hnil, startsWith] at hclose
      have hbehind := behindStatement_append
        (endsStatement_of_suffix hu ((List.tail_suffix _).trans hrest)) ht
      simp [takeBody, hopen', splitTopLevel_append true us ht, hstarts, hclose,
        List.tail_append_of_ne_nil hne, hbehind]
    · have hbehind := behindStatement_append (endsStatement_of_suffix hu hrest) ht
      simp [takeBody, hopen', splitTopLevel_append true us ht, hstarts, hclose, hbehind]
  · have hstarts := startsWith_append .leftParen (by decide) (by decide) us ht
    simp [takeBody, hstarts, hopen, behindStatement_append hu ht]

theorem takeCreate_append (hu : ∀ t ∈ us, t.endsStatement = false) (ht : Stops tail) :
    takeCreate source (us ++ tail) = ((takeCreate source us).1, skipKind .semicolon tail) := by
  have hoptions : skipTableOptions us <:+ us :=
    (skipOneOf_suffix _ _).trans ((skipOneOf_suffix _ _).trans (skipPhrase_suffix _ _))
  unfold takeCreate
  rw [skipTableOptions_append us ht, behind?_append _ _ ht]
  cases htable : behind? ["TABLE"] (skipTableOptions us) with
  | none => simp [behindStatement_append (endsStatement_of_suffix hu hoptions) ht]
  | some vs =>
    have hleft : (readDottedName (skipPhrase ["IF", "NOT", "EXISTS"] vs)).2 <:+ us :=
      (readDottedName_suffix _).trans ((skipPhrase_suffix _ _).trans
        ((behind?_suffix htable).trans hoptions))
    simp only [Option.map_some, skipPhrase_append _ _ ht, readDottedName_append_stop _ ht]
    cases hname : readDottedName (skipPhrase ["IF", "NOT", "EXISTS"] vs) with
    | mk name ws =>
      rw [hname] at hleft
      have hws := endsStatement_of_suffix hu hleft
      cases name with
      | none => simp [behindStatement_append hws ht]
      | some name => exact takeBody_append name hws ht

theorem takeAlter_append (hu : ∀ t ∈ us, t.endsStatement = false) (ht : Stops tail) :
    takeAlter (us ++ tail) = ((takeAlter us).1, skipKind .semicolon tail) := by
  unfold takeAlter
  rw [behind?_append _ _ ht]
  cases htable : behind? ["TABLE"] us with
  | none => simp [behindStatement_append hu ht]
  | some vs =>
    have hleft : (readDottedName (skipPhrase ["ONLY"] (skipPhrase ["IF", "EXISTS"] vs))).2 <:+ us :=
      (readDottedName_suffix _).trans ((skipPhrase_suffix _ _).trans
        ((skipPhrase_suffix _ _).trans (behind?_suffix htable)))
    simp only [Option.map_some, skipPhrase_append _ _ ht, readDottedName_append_stop _ ht]
    cases hname : readDottedName (skipPhrase ["ONLY"] (skipPhrase ["IF", "EXISTS"] vs)) with
    | mk name ws =>
      rw [hname] at hleft
      have hws := endsStatement_of_suffix hu hleft
      cases name with
      | none => simp [behindStatement_append hws ht]
      | some name =>
        have hactions := endsStatement_of_suffix hws (splitTopLevel_suffix false ws)
        simp only [splitTopLevel_append false ws ht, behindStatement_append hactions ht]

private theorem takeBody_eq (name : String) (ts : List Token) :
    (takeBody source name ts).1 =
      match outlineOf name ts with
      | .body name items => some ⟨name, items.filterMap (readElement? source)⟩
      | _ => none := by
  by_cases hopen : startsWith .leftParen ts
  · by_cases hclose : startsWith .rightParen (splitTopLevel true ts.tail).2 <;>
      simp [takeBody, outlineOf, hopen, hclose]
  · simp [takeBody, outlineOf, hopen]

private theorem readCreate?_eq (ts : List Token) :
    readCreate? source ts = (behind? ["CREATE"] ts).bind fun ts => (takeCreate source ts).1 := by
  rw [readCreate?, readOutline?_eq]
  cases behind? ["CREATE"] ts with
  | none => rfl
  | some ts =>
    simp only [Option.bind_some, takeCreate]
    cases behind? ["TABLE"] (skipTableOptions ts) with
    | none => rfl
    | some ts =>
      simp only [Option.bind_some]
      rcases readDottedName (skipPhrase ["IF", "NOT", "EXISTS"] ts) with ⟨_ | name, rest⟩
      · rfl
      · simp only [Option.map_some, takeBody_eq]
        cases outlineOf name rest <;> rfl

private theorem readAlter?_eq_bind (ts : List Token) :
    readAlter? ts = (behind? ["ALTER"] ts).bind fun ts => (takeAlter ts).1 := by
  have hwords : behind? ["ALTER", "TABLE"] ts = (behind? ["ALTER"] ts).bind (behind? ["TABLE"]) := by
    cases ts with
    | nil => rfl
    | cons t ts =>
      rw [behind?, behind?]
      split <;> rfl
  rw [readAlter?_eq, hwords, Option.bind_assoc]
  apply Option.bind_congr
  intro ts _
  unfold takeAlter
  cases behind? ["TABLE"] ts with
  | none => rfl
  | some ts =>
    simp only [Option.bind_some]
    rcases readDottedName (skipPhrase ["ONLY"] (skipPhrase ["IF", "EXISTS"] ts)) with ⟨_ | name, rest⟩
      <;> rfl

private theorem behind?_alter_of_create {rest : List Token} (h : behind? ["CREATE"] us = some rest) :
    behind? ["ALTER"] us = none := by
  cases us with
  | nil => rfl
  | cons t us =>
    have hcreate : t.isWord "CREATE" := by
      by_contra hword
      simp [behind?, hword] at h
    have halter : ¬t.isWord "ALTER" := fun hword => absurd (eq_of_isWord hword hcreate) (by decide)
    rw [behind?, if_neg halter]

theorem takeStatement_append (source : String) (hu : ∀ t ∈ us, t.endsStatement = false)
    (ht : Stops tail) :
    takeStatement source (us ++ tail) = (readStatement? source us, skipKind .semicolon tail) := by
  have hwords {rest : List Token} {k : String} (h : behind? [k] us = some rest) :
      ∀ t ∈ rest, t.endsStatement = false := endsStatement_of_suffix hu (behind?_suffix h)
  rw [takeStatement, behind?_append _ us ht, behind?_append _ us ht, readStatement?, readCreate?_eq,
    readAlter?_eq_bind]
  cases hcreate : behind? ["CREATE"] us with
  | some rest => simp [takeCreate_append (hwords hcreate) ht, behind?_alter_of_create hcreate]
  | none =>
    cases halter : behind? ["ALTER"] us with
    | some rest => simp [takeAlter_append (hwords halter) ht]
    | none => simp [behindStatement_append hu ht]

end Statements

section Scripts

theorem exists_statement (ts : List Token) :
    ∃ us tail, ts = us ++ tail ∧ (∀ t ∈ us, t.endsStatement = false) ∧ Stops tail := by
  refine ⟨ts.takeWhile fun t => !t.endsStatement, ts.dropWhile fun t => !t.endsStatement,
    List.takeWhile_append_dropWhile.symm, fun t h => ?_, fun t h => ?_⟩
  · simpa using List.all_eq_true.1 List.all_takeWhile t h
  · have := List.head?_dropWhile_not (fun t : Token => !t.endsStatement) ts
    rw [h] at this
    simpa using this

theorem takeStatement_length (source : String) {t : Token} (ts : List Token)
    (h : t.kind ≠ .endOfText) : (takeStatement source (t :: ts)).2.length < (t :: ts).length := by
  obtain ⟨us, tail, heq, hu, ht⟩ := exists_statement (t :: ts)
  rw [heq, takeStatement_append source hu ht]
  cases us with
  | nil =>
    obtain rfl : t :: ts = tail := heq
    have hsemi : t.kind = .semicolon := (kind_of_endsStatement (ht t rfl)).resolve_right h
    simp [skipKind, startsWith, hsemi]
  | cons u us =>
    have := skipKind_length .semicolon tail
    simp only [List.cons_append, List.length_cons, List.length_append]
    omega

/-- Reads a script statement by statement, each in place. -/
def readInPlace (source : String) : List Token → List Statement
  | [] => []
  | t :: ts =>
    if _h : t.kind = .endOfText then []
    else
      (takeStatement source (t :: ts)).1.toList ++ readInPlace source (takeStatement source (t :: ts)).2
termination_by ts => ts.length
decreasing_by exact takeStatement_length source ts _h

variable {us tail : List Token}

private theorem splitStatements_append_of_end (hu : ∀ t ∈ us, t.endsStatement = false)
    (hend : ∀ t, tail.head? = some t → t.kind = .endOfText) : splitStatements (us ++ tail) = [us] := by
  induction us with
  | nil =>
    cases tail with
    | nil => rfl
    | cons t tail => simp [splitStatements, hend t rfl]
  | cons u us ih =>
    have hu' := hu u (by simp)
    simp only [Token.endsStatement, Bool.or_eq_false_iff, beq_eq_false_iff_ne] at hu'
    rw [List.cons_append, splitStatements, if_neg hu'.2, if_neg hu'.1, ih fun t ht => hu t (by simp [ht])]

@[simp] theorem readStatements_nil (source : String) : readStatements source [] = [] := by
  simp [readStatements, splitStatements, readStatement?_nil]

theorem readStatements_of_end (source : String) {t : Token} (ts : List Token)
    (h : t.kind = .endOfText) : readStatements source (t :: ts) = [] := by
  simp [readStatements, splitStatements, h, readStatement?_nil]

theorem readStatements_append (source : String) (hu : ∀ t ∈ us, t.endsStatement = false)
    (ht : Stops tail) :
    readStatements source (us ++ tail) =
      (readStatement? source us).toList ++ readStatements source (skipKind .semicolon tail) := by
  cases tail with
  | nil =>
    rw [readStatements, splitStatements_append_of_end hu (by simp)]
    cases h : readStatement? source us <;> simp [h, skipKind, startsWith]
  | cons t tail =>
    rcases kind_of_endsStatement (ht t rfl) with hsemi | hend
    · rw [readStatements, Ddl.splitStatements_append hu hsemi]
      cases h : readStatement? source us <;> simp [h, skipKind, startsWith, hsemi, readStatements]
    · rw [readStatements, splitStatements_append_of_end hu (by simp [hend])]
      cases h : readStatement? source us <;>
        simp [h, skipKind, startsWith, hend, readStatements_of_end source tail hend]

/-- Statements read in place are those of the script split at its semicolons. -/
theorem readInPlace_eq (source : String) (ts : List Token) :
    readInPlace source ts = readStatements source ts := by
  fun_induction readInPlace source ts with
  | case1 => rw [readStatements_nil]
  | case2 t ts hend => rw [readStatements_of_end source ts hend]
  | case3 t ts hend ih =>
    -- one turn of the loop reads the statement in front, and the loop goes on behind its semicolon
    obtain ⟨us, tail, heq, hu, ht⟩ := exists_statement (t :: ts)
    rw [heq, takeStatement_append source hu ht] at ih ⊢
    rw [ih, readStatements_append source hu ht]

/-- A statement, of whatever tokens, with the semicolon that ends it. -/
def IsSegment (ts : List Token) : Prop :=
  ts.getLast?.any (fun t => t.kind == .semicolon) ∧ ∀ t ∈ ts.dropLast, t.endsStatement = false

instance (ts : List Token) : Decidable (IsSegment ts) := inferInstanceAs (Decidable (_ ∧ _))

theorem IsSegment.exists_semicolon {s : List Token} (h : IsSegment s) :
    ∃ us semicolon, s = us ++ [semicolon] ∧ (∀ t ∈ us, t.endsStatement = false) ∧
      semicolon.kind = .semicolon := by
  obtain ⟨hlast, hfront⟩ := h
  obtain ⟨semicolon, hs, hsemi⟩ := (Option.any_eq_true _ _).1 hlast
  obtain ⟨us, rfl⟩ := List.getLast?_eq_some_iff.1 hs
  exact ⟨us, semicolon, rfl, by simpa using hfront, by simpa using hsemi⟩

/-- A segment is one statement, and whatever follows it is left to the next. -/
theorem readStatements_segment {s : List Token} (hs : IsSegment s) (source : String) (ts : List Token) :
    ∃ statement?, readStatements source s = statement?.toList ∧
      takeStatement source (s ++ ts) = (statement?, ts) ∧
      readStatements source (s ++ ts) = readStatements source s ++ readStatements source ts := by
  obtain ⟨us, semicolon, rfl, hu, hsemi⟩ := hs.exists_semicolon
  have hstops (ts : List Token) : Stops (semicolon :: ts) := fun t h => by
    obtain rfl := Option.some.inj h
    simp [Token.endsStatement, hsemi]
  have hskip (ts : List Token) : skipKind .semicolon (semicolon :: ts) = ts := by
    simp [skipKind, startsWith, hsemi]
  have hself := readStatements_append source hu (hstops [])
  have hfront := readStatements_append source hu (hstops ts)
  have htake := takeStatement_append source hu (hstops ts)
  rw [hskip] at hself hfront htake
  rw [readStatements_nil, List.append_nil] at hself
  rw [List.append_assoc, List.singleton_append]
  exact ⟨readStatement? source us, hself, htake, by rw [hfront, hself]⟩

/-- Segments are read one by one, in place or on their own: none yields more than one statement, and
none takes tokens of another or of what follows, however malformed they are. -/
theorem readStatements_segments (source : String) {segments : List (List Token)}
    (h : ∀ s ∈ segments, IsSegment s) (ts : List Token) :
    readStatements source (segments.flatten ++ ts) =
        segments.flatMap (readStatements source) ++ readStatements source ts ∧
      readInPlace source (segments.flatten ++ ts) =
        segments.flatMap (readInPlace source) ++ readInPlace source ts ∧
      ∀ s ∈ segments, (readStatements source s).length ≤ 1 ∧
        ∀ rest, takeStatement source (s ++ rest) = ((readStatements source s).head?, rest) := by
  have hsplit : readStatements source (segments.flatten ++ ts) =
      segments.flatMap (readStatements source) ++ readStatements source ts := by
    induction segments with
    | nil => rfl
    | cons s segments ih =>
      obtain ⟨-, -, -, hs⟩ := readStatements_segment (h s (by simp)) source (segments.flatten ++ ts)
      rw [List.flatten_cons, List.append_assoc, hs, ih fun s hs => h s (by simp [hs]),
        List.flatMap_cons, List.append_assoc]
  refine ⟨hsplit, ?_, fun s hs => ⟨?_, fun rest => ?_⟩⟩
  · rwa [show readInPlace source = readStatements source from funext (readInPlace_eq source)]
  · obtain ⟨statement?, hself, -⟩ := readStatements_segment (h s hs) source []
    cases statement? <;> simp [hself]
  · obtain ⟨statement?, hself, htake, -⟩ := readStatements_segment (h s hs) source rest
    rw [htake, hself]
    cases statement? <;> rfl

theorem readStatements_segments_malformed :
    ∃ (segments : List (List Token)) (ts : List Token),
      tokenize .generic ") CREATE; CREATE TABLE t (PRIMARY KEY (a)) ) (; ALTER TABLE" =
        .ok (segments.flatten ++ ts) ∧ segments.length = 2 ∧ (∀ s ∈ segments, IsSegment s) ∧
      readStatements ") CREATE; CREATE TABLE t (PRIMARY KEY (a)) ) (; ALTER TABLE"
        (segments.flatten ++ ts) = [.create ⟨"t", [.primaryKey ["a"]]⟩] := by
  have hsegments : ∀ s ∈ [[⟨.rightParen, 0, 1⟩, ⟨.word "CREATE", 2, 8⟩, ⟨.semicolon, 8, 9⟩],
      [⟨.word "CREATE", 10, 16⟩, ⟨.word "TABLE", 17, 22⟩, ⟨.word "t", 23, 24⟩, ⟨.leftParen, 25, 26⟩,
        ⟨.word "PRIMARY", 26, 33⟩, ⟨.word "KEY", 34, 37⟩, ⟨.leftParen, 38, 39⟩, ⟨.word "a", 39, 40⟩,
        ⟨.rightParen, 40, 41⟩, ⟨.rightParen, 41, 42⟩, ⟨.rightParen, 43, 44⟩, ⟨.leftParen, 45, 46⟩,
        ⟨.semicolon, 46, 47⟩]], IsSegment s := by decide
  refine ⟨_, [⟨.word "ALTER", 48, 53⟩, ⟨.word "TABLE", 54, 59⟩, ⟨.endOfText, 59, 59⟩],
    tokenize_ofList (by with_unfolding_all decide) (by with_unfolding_all decide), rfl, hsegments, ?_⟩
  rw [(readStatements_segments _ hsegments _).1]
  decide

end Scripts

end SqlSchema
