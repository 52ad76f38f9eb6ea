import SqlSchema.Proofs.Forms
/-!
# CREATE TABLE in every form

A CREATE TABLE statement can have optional words in front of `TABLE` and of its name, qualifiers in the
name, and options behind the body. All of them are passed over: the statement gives the last part of its
name and what its elements give, each read on its own.
-/
namespace SqlSchema

/-- A CREATE TABLE statement with the given name and elements. -/
inductive TableForm (name : String) (elements : List (List Token)) : List Token → Prop
  | mk {create table : Token} {replace scope lifetime guard names body options : List Token}
      (hcreate : create.isWord "CREATE") (hreplace : MaySpell [["OR", "REPLACE"]] replace)
      (hscope : MaySpell [["GLOBAL"], ["LOCAL"]] scope)
      (hlifetime : MaySpell [["TEMPORARY"], ["TEMP"], ["UNLOGGED"]] lifetime)
      (htable : table.isWord "TABLE") (hguard : MaySpell [["IF", "NOT", "EXISTS"]] guard)
      (hname : DottedName name names) (hbody : IsList elements body)
      (hoptions : ∀ t ∈ options, t.endsStatement = false) :
      TableForm name elements
        (create :: (replace ++ (scope ++ (lifetime ++
          table :: (guard ++ (names ++ (body ++ options)))))))

section Readers

variable {name : String} {elements : List (List Token)} {ts : List Token}

theorem skipTableOptions_of_maySpell {table : Token} {replace scope lifetime : List Token}
    (hreplace : MaySpell [["OR", "REPLACE"]] replace) (hscope : MaySpell [["GLOBAL"], ["LOCAL"]] scope)
    (hlifetime : MaySpell [["TEMPORARY"], ["TEMP"], ["UNLOGGED"]] lifetime)
    (htable : table.isWord "TABLE") (rest : List Token) :
    skipTableOptions (replace ++ (scope ++ (lifetime ++ table :: rest))) = table :: rest := by
  have htables : Avoids ["OR", "GLOBAL", "LOCAL", "TEMPORARY", "TEMP", "UNLOGGED"] (table :: rest) :=
    avoids_of_isWord htable (by decide) rest
  have hlifetimes : Avoids ["OR", "GLOBAL", "LOCAL"] (lifetime ++ table :: rest) :=
    avoids_append hlifetime (by decide) (by decide) (htables.mono (by decide))
  have hscopes : Avoids ["OR"] (scope ++ (lifetime ++ table :: rest)) :=
    avoids_append hscope (by decide) (by decide) (hlifetimes.mono (by decide))
  have hscopeFree : behindOneOf? [["GLOBAL"], ["LOCAL"]] (lifetime ++ table :: rest) = none :=
    behindOneOf?_of_avoids (by decide) (hlifetimes.mono (by decide))
  have hlifetimeFree : behindOneOf? [["TEMPORARY"], ["TEMP"], ["UNLOGGED"]] (table :: rest) = none :=
    behindOneOf?_of_avoids (by decide) (htables.mono (by decide))
  rw [skipTableOptions, skipPhrase_of_maySpell hreplace (behind?_of_avoids hscopes _),
    skipOneOf_of_maySpell (by decide) hscope hscopeFree,
    skipOneOf_of_maySpell (by decide) hlifetime hlifetimeFree]

theorem outlineOf_of_isList {body : List Token} (hbody : IsList elements body) (options : List Token) :
    outlineOf name (body ++ options) = .body name (elements.filter fun e => !e.isEmpty) := by
  obtain @⟨opening, closing, ts, hopen, hclose, hts⟩ := hbody
  have hsplit : splitTopLevel true (ts ++ closing :: options) =
      (elements.filter (fun e => !e.isEmpty), closing :: options) := by
    simp only [splitTopLevel, splitBody_of_separated hts hclose, splitCommas_of_separated hts]
  simp [outlineOf, startsWith, hopen, hclose, hsplit]

theorem TableForm.readOutline? (h : TableForm name elements ts) :
    readOutline? ts = some (.body name (elements.filter fun e => !e.isEmpty)) := by
  obtain @⟨create, table, replace, scope, lifetime, guard, names, body, options, hcreate, hreplace,
    hscope, hlifetime, htable, hguard, hname, hbody, hoptions⟩ := h
  have hskip := skipTableOptions_of_maySpell hreplace hscope hlifetime htable
    (guard ++ (names ++ (body ++ options)))
  obtain ⟨opening, more, heq, hopen⟩ := exists_opening_of_isList hbody
  have hread : readDottedName (names ++ (body ++ options)) = (some name, body ++ options) := by
    apply readDottedName_of_dottedName hname
    simp [heq, startsWith, hopen]
  -- a table can be named `IF`, but no name goes on with `NOT`
  have hguards : skipPhrase ["IF", "NOT", "EXISTS"] (guard ++ (names ++ (body ++ options))) =
      names ++ (body ++ options) := by
    apply skipPhrase_of_maySpell hguard
    rw [heq]
    exact behind?_of_dottedName (readDottedName_self hname) (by simp [Token.isWord, hopen]) _ _
  rw [readOutline?_eq, behind?, if_pos hcreate, behind?, Option.bind_some, hskip, behind?,
    if_pos htable, behind?, Option.bind_some, hguards, hread, Option.map_some,
    outlineOf_of_isList hbody]

theorem TableForm.readStatement? (h : TableForm name elements ts) (source : String) :
    readStatement? source ts =
      some (.create ⟨name, elements.filterMap (readElement? source)⟩) := by
  have helements := filterMap_filter_isEmpty (readElement?_nil source) elements
  rw [SqlSchema.readStatement?, readCreate?, h.readOutline?]
  simp [helements]

theorem TableForm.endsStatement (h : TableForm name elements ts) :
    ∀ t ∈ ts, t.endsStatement = false := by
  obtain ⟨hcreate, hreplace, hscope, hlifetime, htable, hguard, hname, hbody, hoptions⟩ := h
  intro t ht
  simp only [List.mem_cons, List.mem_append] at ht
  rcases ht with rfl | ht | ht | ht | rfl | ht | ht | ht | ht
  · exact (isOrdinary_of_isWord hcreate).1
  · exact (isOrdinary_of_maySpell hreplace t ht).1
  · exact (isOrdinary_of_maySpell hscope t ht).1
  · exact (isOrdinary_of_maySpell hlifetime t ht).1
  · exact (isOrdinary_of_isWord htable).1
  · exact (isOrdinary_of_maySpell hguard t ht).1
  · exact (isOrdinary_of_dottedName hname t ht).1
  · exact endsStatement_of_nested (enclosed_of_isList hbody).1 t ht
  · exact hoptions t ht

/-- A CREATE TABLE statement gives one table: the last part of its name with what its elements give,
in order. None of its optional parts has an effect, nor has anything behind its semicolon. -/
theorem readStatements_tableForm (source : String) (h : TableForm name elements ts) {semicolon : Token}
    (hsemi : semicolon.kind = .semicolon) (rest : List Token) :
    readStatements source (ts ++ semicolon :: rest) =
      .create ⟨name, elements.filterMap (readElement? source)⟩ :: readStatements source rest :=
  readStatements_of_readStatement? (h.readStatement? source) h.endsStatement hsemi rest

theorem readStatements_tableForm_options :
    ∃ (text : String) (ts rest : List Token) (semicolon : Token) (elements : List (List Token)),
      text = "create or replace local temp table if not exists \"s\".if " ++
        "(id INT, CHECK (x, y), PRIMARY KEY (id)) WITH ) z; DROP" ∧
      tokenize .postgres text = .ok (ts ++ semicolon :: rest) ∧
      TableForm "if" elements ts ∧ semicolon.kind = .semicolon ∧ elements.length = 3 ∧
      readStatements text (ts ++ semicolon :: rest) =
        [.create ⟨"if", [.column ⟨"id", "INT", false, false, none⟩, .primaryKey ["id"]]⟩] := by
  have hreplace : MaySpell [["OR", "REPLACE"]] [⟨.word "or", 7, 9⟩, ⟨.word "replace", 10, 17⟩] :=
    .present (List.mem_singleton_self _) (.cons (by decide) (.cons (by decide) .nil))
  have hscope : MaySpell [["GLOBAL"], ["LOCAL"]] [⟨.word "local", 18, 23⟩] :=
    @MaySpell.present _ ["LOCAL"] _ (by decide) (.cons (by decide) .nil)
  have hlifetime : MaySpell [["TEMPORARY"], ["TEMP"], ["UNLOGGED"]] [⟨.word "temp", 24, 28⟩] :=
    @MaySpell.present _ ["TEMP"] _ (by decide) (.cons (by decide) .nil)
  have hguard : MaySpell [["IF", "NOT", "EXISTS"]]
      [⟨.word "if", 35, 37⟩, ⟨.word "not", 38, 41⟩, ⟨.word "exists", 42, 48⟩] :=
    .present (List.mem_singleton_self _)
      (.cons (by decide) (.cons (by decide) (.cons (by decide) .nil)))
  have hname : DottedName "if" [⟨.quoted "s", 49, 52⟩, ⟨.dot, 52, 53⟩, ⟨.word "if", 53, 55⟩] :=
    .qualified rfl rfl (.last rfl)
  have helements : Separated
      [[⟨.word "id", 57, 59⟩, ⟨.word "INT", 60, 63⟩],
        [⟨.word "CHECK", 65, 70⟩, ⟨.leftParen, 71, 72⟩, ⟨.word "x", 72, 73⟩, ⟨.comma, 73, 74⟩,
          ⟨.word "y", 75, 76⟩, ⟨.rightParen, 76, 77⟩],
        [⟨.word "PRIMARY", 79, 86⟩, ⟨.word "KEY", 87, 90⟩, ⟨.leftParen, 91, 92⟩, ⟨.word "id", 92, 94⟩,
          ⟨.rightParen, 94, 95⟩]] _ :=
    @Separated.cons _ _ _ ⟨.comma, 63, 64⟩ (by decide) rfl
      (@Separated.cons _ _ _ ⟨.comma, 77, 78⟩ (by decide) rfl (.single (by decide)))
  have hbody := @IsList.mk _ ⟨.leftParen, 56, 57⟩ ⟨.rightParen, 95, 96⟩ _ rfl rfl helements
  have hoptions : ∀ t : Token,
      t ∈ [⟨.word "WITH", 97, 101⟩, ⟨.rightParen, 102, 103⟩, ⟨.word "z", 104, 105⟩] →
      t.endsStatement = false := by decide
  have hform := @TableForm.mk _ _ ⟨.word "create", 0, 6⟩ ⟨.word "table", 29, 34⟩ _ _ _ _ _ _ _
    (by decide) hreplace hscope hlifetime (by decide) hguard hname hbody hoptions
  refine ⟨_, _, [⟨.word "DROP", 107, 111⟩, ⟨.endOfText, 111, 111⟩], ⟨.semicolon, 105, 106⟩, _, rfl,
    ?_, hform, rfl, rfl, ?_⟩
  · rw [← String.ofList_append]
    set_option maxRecDepth 2000 in
    exact tokenize_ofList (by with_unfolding_all decide) (by with_unfolding_all decide)
  · rw [readStatements_tableForm _ hform rfl]
    set_option maxRecDepth 2000 in
    with_unfolding_all decide

end Readers

end SqlSchema
