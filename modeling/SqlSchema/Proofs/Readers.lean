import SqlSchema.Proofs.Phrases
import SqlSchema.Statement.Read
/-!
# What the readers return

Each reader leaves a suffix of its tokens, each item of a list is a part of them, and every name in a
result is the name of a token.
-/
namespace SqlSchema

/-- The tokens behind the name that `CONSTRAINT` introduces, if it stands in front. -/
def behindConstraintName? (ts : List Token) : Option (List Token) :=
  match behind? ["CONSTRAINT"] ts with
  | some rest => (readName? rest).map (·.2)
  | none => some ts

/-- The tokens behind an index name, which may be missing in front of a column list. -/
def behindIndexName? (ts : List Token) : Option (List Token) :=
  if startsWith .leftParen ts then some ts else (readName? ts).map (·.2)

/-- A key without its constraint name. -/
def readKey? (ts : List Token) : Option TableElement :=
  match behind? ["PRIMARY", "KEY"] ts with
  | some rest => (readPrimaryKey? rest).map .primaryKey
  | none => (behind? ["FOREIGN", "KEY"] ts).bind fun rest => (readForeignKey? rest).map .foreignKey

/-- What follows `REFERENCES` in a foreign key over the given columns. -/
def readTarget? (columns : List String) (ts : List Token) : Option ForeignKeyClause :=
  (readDottedName ts).1.map fun target =>
    ⟨columns, target, ((readColumnList? (readDottedName ts).2).map (·.1)).getD []⟩

/-- The clause that adds a constraint of the given kind. -/
def readClause? (kind : ConstraintKind) (ts : List Token) : Option AddClause :=
  match kind with
  | .primaryKey => (readPrimaryKey? ts).map .primaryKey
  | .foreignKey => (readForeignKey? ts).map .foreignKey
  | .unique => (readUnique? ts).map .unique

/-- What follows the name in a CREATE TABLE statement. -/
def outlineOf (name : String) (ts : List Token) : TableOutline :=
  if startsWith .leftParen ts then
    if startsWith .rightParen (splitTopLevel true ts.tail).2 then
      .body name (splitTopLevel true ts.tail).1
    else .unclosed name
  else .withoutList name

/-- The words between `CREATE` and `TABLE`. -/
def skipTableOptions (ts : List Token) : List Token :=
  skipOneOf [["TEMPORARY"], ["TEMP"], ["UNLOGGED"]]
    (skipOneOf [["GLOBAL"], ["LOCAL"]] (skipPhrase ["OR", "REPLACE"] ts))

theorem readConstraint?_eq (ts : List Token) :
    readConstraint? ts = (behindConstraintName? ts).bind readKey? := by
  unfold readConstraint? behindConstraintName? readKey?
  cases behind? ["CONSTRAINT"] ts with
  | none =>
    simp only [Option.bind_eq_bind, Option.bind_some]
    cases behind? ["PRIMARY", "KEY"] ts <;> cases behind? ["FOREIGN", "KEY"] ts <;> rfl
  | some rest =>
    apply Option.bind_congr
    intro ts _
    dsimp only
    cases behind? ["PRIMARY", "KEY"] ts <;> cases behind? ["FOREIGN", "KEY"] ts <;> rfl

theorem readForeignKey?_eq (ts : List Token) :
    readForeignKey? ts = (behindIndexName? ts).bind fun ts =>
      (readColumnList? ts).bind fun r => (behind? ["REFERENCES"] r.2).bind (readTarget? r.1) := by
  have htarget : readTarget? = fun columns ts =>
      (readDottedName ts).1.bind fun target =>
        some ⟨columns, target, ((readColumnList? (readDottedName ts).2).map (·.1)).getD []⟩ := by
    funext columns ts
    unfold readTarget?
    cases (readDottedName ts).1 <;> rfl
  unfold readForeignKey? behindIndexName?
  rw [htarget]
  split <;> rfl

theorem readUnique?_eq (ts : List Token) :
    readUnique? ts = (behindIndexName? (skipOneOf [["KEY"], ["INDEX"]] ts)).bind fun ts =>
      (readColumnList? ts).map (·.1) := by
  unfold readUnique? behindIndexName?
  simp only [Option.bind_eq_bind]
  split <;> rfl

theorem readAddClause?_eq (ts : List Token) :
    readAddClause? ts = (behind? ["ADD"] ts).bind fun ts => (behindConstraintName? ts).bind fun ts =>
      (readKind? ts).bind fun r => readClause? r.1 r.2 := by
  unfold readAddClause? behindConstraintName? readClause?
  apply Option.bind_congr
  intro ts _
  cases behind? ["CONSTRAINT"] ts <;> rfl

theorem readAlter?_eq (ts : List Token) :
    readAlter? ts = (behind? ["ALTER", "TABLE"] ts).bind fun ts =>
      (readDottedName (skipPhrase ["ONLY"] (skipPhrase ["IF", "EXISTS"] ts))).1.map fun name =>
        ⟨name, (splitTopLevel false (readDottedName
          (skipPhrase ["ONLY"] (skipPhrase ["IF", "EXISTS"] ts))).2).1.filterMap readAddClause?⟩ := by
  unfold readAlter?
  simp only [Option.bind_eq_bind]
  cases behind? ["ALTER", "TABLE"] ts with
  | none => rfl
  | some ts =>
    simp only [Option.bind_some]
    cases (readDottedName (skipPhrase ["ONLY"] (skipPhrase ["IF", "EXISTS"] ts))).1 <;> rfl

theorem readOutline?_eq (ts : List Token) :
    readOutline? ts = (behind? ["CREATE"] ts).bind fun ts =>
      (behind? ["TABLE"] (skipTableOptions ts)).bind fun ts =>
        (readDottedName (skipPhrase ["IF", "NOT", "EXISTS"] ts)).1.map fun name =>
          outlineOf name (readDottedName (skipPhrase ["IF", "NOT", "EXISTS"] ts)).2 := by
  unfold readOutline? skipTableOptions outlineOf
  simp only [Option.bind_eq_bind]
  cases behind? ["CREATE"] ts with
  | none => rfl
  | some ts =>
    simp only [Option.bind_some]
    cases behind? ["TABLE"] (skipOneOf [["TEMPORARY"], ["TEMP"], ["UNLOGGED"]]
        (skipOneOf [["GLOBAL"], ["LOCAL"]] (skipPhrase ["OR", "REPLACE"] ts))) with
    | none => rfl
    | some ts =>
      simp only [Option.bind_some]
      cases (readDottedName (skipPhrase ["IF", "NOT", "EXISTS"] ts)).1 with
      | none => rfl
      | some name =>
        simp only [Option.bind_some, Option.map_some]
        split
        · split <;> rfl
        · rfl

/-- The names, bare and quoted, of the tokens. -/
def namesIn (ts : List Token) : List String := ts.filterMap Token.name?

theorem namesIn_subset {us ts : List Token} (h : us ⊆ ts) : namesIn us ⊆ namesIn ts :=
  List.filterMap_subset _ h

theorem behind?_suffix {phrase : List String} {ts rest : List Token}
    (h : behind? phrase ts = some rest) : rest <:+ ts := by
  obtain ⟨us, rfl, -⟩ := behind?_eq_some_iff.1 h
  exact List.suffix_append us rest

theorem behindOneOf?_suffix {phrases : List (List String)} {ts rest : List Token}
    (h : behindOneOf? phrases ts = some rest) : rest <:+ ts := by
  obtain ⟨phrase, _, hp⟩ := List.exists_of_findSome?_eq_some h
  exact behind?_suffix hp

theorem skipPhrase_suffix (phrase : List String) (ts : List Token) : skipPhrase phrase ts <:+ ts := by
  unfold skipPhrase
  cases h : behind? phrase ts with
  | none => exact List.suffix_refl _
  | some rest => exact behind?_suffix h

theorem skipOneOf_suffix (phrases : List (List String)) (ts : List Token) :
    skipOneOf phrases ts <:+ ts := by
  unfold skipOneOf
  cases h : behindOneOf? phrases ts with
  | none => exact List.suffix_refl _
  | some rest => exact behindOneOf?_suffix h

theorem skipKind_suffix (kind : TokenKind) (ts : List Token) : skipKind kind ts <:+ ts := by
  unfold skipKind
  split
  · exact List.tail_suffix ts
  · exact List.suffix_refl _

theorem readName?_eq_some {ts rest : List Token} {name : String}
    (h : readName? ts = some (name, rest)) : ∃ t : Token, t.name? = some name ∧ ts = t :: rest := by
  cases ts with
  | nil => simp [readName?] at h
  | cons t ts =>
    simp only [readName?, Option.map_eq_some_iff, Prod.mk.injEq] at h
    obtain ⟨_, hname, rfl, rfl⟩ := h
    exact ⟨t, hname, rfl⟩

theorem readName?_mem {ts rest : List Token} {name : String} (h : readName? ts = some (name, rest)) :
    name ∈ namesIn ts := by
  obtain ⟨t, hname, rfl⟩ := readName?_eq_some h
  exact List.mem_filterMap.2 ⟨t, by simp, hname⟩

theorem readName?_suffix {ts rest : List Token} {name : String}
    (h : readName? ts = some (name, rest)) : rest <:+ ts := by
  obtain ⟨t, -, rfl⟩ := readName?_eq_some h
  exact List.suffix_cons _ _

theorem readDottedName_suffix (ts : List Token) : (readDottedName ts).2 <:+ ts := by
  fun_induction readDottedName ts with
  | case1 => exact List.suffix_refl _
  | case2 => exact List.suffix_refl _
  | case3 _ _ _ _ _ _ ih => exact ih.trans ((List.suffix_cons _ _).trans (List.suffix_cons _ _))
  | case4 => exact List.suffix_cons _ _
  | case5 => exact List.suffix_cons _ _

theorem readDottedName_mem {ts : List Token} {name : String} (h : (readDottedName ts).1 = some name) :
    name ∈ namesIn ts := by
  fun_induction readDottedName ts with
  | case1 => simp at h
  | case2 => simp at h
  | case3 t n hn d rest hd ih =>
    exact namesIn_subset (by simp) (ih h)
  | case4 t n hn d rest hd =>
    obtain rfl := Option.some.inj h
    exact List.mem_filterMap.2 ⟨t, by simp, hn⟩
  | case5 t n hn =>
    obtain rfl := Option.some.inj h
    exact List.mem_filterMap.2 ⟨t, by simp, hn⟩

theorem splitCommas_isPrefix {depth : Nat} {ts first : List Token} {rest : List (List Token)}
    (h : splitCommas depth ts = first :: rest) : first <+: ts := by
  induction ts generalizing depth first rest with
  | nil =>
    obtain ⟨rfl, -⟩ := List.cons.inj h
    exact List.nil_prefix
  | cons t ts ih =>
    rw [splitCommas] at h
    split at h
    · obtain ⟨rfl, -⟩ := List.cons.inj h
      exact List.nil_prefix
    · split at h
      · obtain ⟨rfl, -⟩ := List.cons.inj h
        exact ⟨ts, rfl⟩
      · next item items heq =>
        obtain ⟨rfl, -⟩ := List.cons.inj h
        exact List.prefix_cons_inj t |>.2 (ih heq)

theorem splitCommas_isInfix {depth : Nat} {ts item : List Token} (h : item ∈ splitCommas depth ts) :
    item <:+: ts := by
  induction ts generalizing depth item with
  | nil =>
    obtain rfl := List.mem_singleton.1 h
    exact List.nil_infix
  | cons t ts ih =>
    have hfirst : ∀ rest, splitCommas depth (t :: ts) = item :: rest → item <+: t :: ts :=
      fun _ => splitCommas_isPrefix
    rw [splitCommas] at h hfirst
    split at h
    · rcases List.mem_cons.1 h with rfl | h
      · exact List.nil_infix
      · exact (ih h).trans (List.suffix_cons _ _).isInfix
    · next hgo =>
      rw [if_neg hgo] at hfirst
      split at h
      · next hnil =>
        obtain rfl := List.mem_singleton.1 h
        rw [hnil] at hfirst
        exact (hfirst [] rfl).isInfix
      · next first items heq =>
        rw [heq] at hfirst
        rcases List.mem_cons.1 h with rfl | h
        · exact (hfirst items rfl).isInfix
        · exact (ih (by rw [heq]; exact List.mem_cons_of_mem _ h)).trans (List.suffix_cons _ _).isInfix

theorem splitBody_isPrefix (closes : Bool) (depth : Nat) (ts : List Token) :
    (splitBody closes depth ts).1 <+: ts :=
  ⟨_, splitBody_append closes depth ts⟩

theorem splitTopLevel_isInfix {closes : Bool} {ts item : List Token}
    (h : item ∈ (splitTopLevel closes ts).1) : item <:+: ts :=
  (splitCommas_isInfix (List.mem_filter.1 h).1).trans (splitBody_isPrefix closes 0 ts).isInfix

theorem splitTopLevel_suffix (closes : Bool) (ts : List Token) : (splitTopLevel closes ts).2 <:+ ts :=
  ⟨_, splitBody_append closes 0 ts⟩

theorem splitGroup_suffix (depth : Nat) (ts : List Token) : (splitGroup depth ts).2 <:+ ts :=
  ⟨_, splitGroup_append depth ts⟩

theorem readColumnList?_spec {ts rest : List Token} {columns : List String}
    (h : readColumnList? ts = some (columns, rest)) : rest <:+ ts ∧ columns ⊆ namesIn ts := by
  unfold readColumnList? at h
  split at h
  · simp at h
  · next t more =>
    split at h
    · obtain ⟨rfl, rfl⟩ := Prod.mk.inj (Option.some.inj h)
      refine ⟨?_, fun name hname => ?_⟩
      · exact (skipKind_suffix _ _).trans
          ((splitTopLevel_suffix true more).trans (List.suffix_cons _ _))
      · obtain ⟨item, hitem, hread⟩ := List.mem_filterMap.1 hname
        obtain ⟨⟨_, r⟩, hitemName, rfl⟩ := Option.map_eq_some_iff.1 hread
        exact namesIn_subset (fun t ht => List.mem_cons_of_mem _ ((splitTopLevel_isInfix hitem).subset ht))
          (readName?_mem hitemName)
    · simp at h

theorem skipReferentialActions_suffix (ts : List Token) : skipReferentialActions ts <:+ ts := by
  fun_induction skipReferentialActions ts with
  | case1 => exact List.suffix_refl _
  | case2 t ts hon rest hrest ih =>
    exact (ih.trans (skipOneOf_suffix _ _)).trans
      ((behindOneOf?_suffix hrest).trans (List.suffix_cons _ _))
  | case3 t ts hon hnone ih => exact ih.trans (List.suffix_cons _ _)
  | case4 => exact List.suffix_refl _

theorem readInlineReference_suffix (ts : List Token) : (readInlineReference ts).2 <:+ ts := by
  have hsuffix := readDottedName_suffix ts
  unfold readInlineReference
  split
  · next h => rwa [h] at hsuffix
  · next h =>
    rw [h] at hsuffix
    split
    · exact hsuffix
    · next hc => exact (readColumnList?_spec hc).1.trans hsuffix

theorem readInlineReference_names {ts : List Token} {r : InlineReference}
    (h : (readInlineReference ts).1 = some r) :
    r.table ∈ namesIn ts ∧ ∀ column, r.column = some column → column ∈ namesIn ts := by
  have hsuffix := readDottedName_suffix ts
  unfold readInlineReference at h
  split at h
  · simp at h
  · next table rest hname =>
    have htable : table ∈ namesIn ts := readDottedName_mem (by rw [hname])
    rw [hname] at hsuffix
    split at h
    · obtain rfl := Option.some.inj h
      exact ⟨htable, by simp⟩
    · next columns more hc =>
      obtain rfl := Option.some.inj h
      refine ⟨htable, fun column hcolumn => ?_⟩
      exact namesIn_subset hsuffix.subset ((readColumnList?_spec hc).2 (List.mem_of_head? hcolumn))

/-- A part of a type without parentheses: an array suffix or words that continue the type. -/
inductive FlatPart : List Token → Prop
  | array {opening closing : Token} (hopen : opening.kind = .leftBracket)
      (hclose : closing.kind = .rightBracket) : FlatPart [opening, closing]
  | continuation {t : Token} (ht : t.isOneOf typeContinuations) : FlatPart [t]
  | zone {t time zone : Token} (ht : t.isOneOf ["WITH", "WITHOUT"]) (htime : time.isWord "TIME")
      (hzone : zone.isWord "ZONE") : FlatPart [t, time, zone]

private theorem readTypePart?_of_flatPart {part : List Token} (h : FlatPart part) (rest : List Token) :
    readTypePart? (part ++ rest) = some (part, rest) := by
  cases h with
  | array hopen hclose => simp [readTypePart?, hopen, startsWith, hclose]
  | continuation ht =>
    obtain ⟨text, hkind⟩ := kind_of_isOneOf ht
    simp [readTypePart?, hkind, ht]
  | zone ht htime hzone =>
    obtain ⟨text, hkind⟩ := kind_of_isOneOf ht
    have hcontinues := isOneOf_of_disjoint ht typeContinuations (by decide)
    simp [readTypePart?, behind?, hkind, ht, hcontinues, htime, hzone]

/-- What stands next in a type is a group in parentheses or a part without any. -/
theorem readTypePart?_eq_some_iff {ts part rest : List Token} :
    readTypePart? ts = some (part, rest) ↔
      (startsWith .leftParen ts ∧ splitGroup 0 ts = (part, rest)) ∨
        (FlatPart part ∧ ts = part ++ rest) := by
  constructor
  · intro h
    cases ts with
    | nil => simp [readTypePart?] at h
    | cons t ts =>
      rw [readTypePart?] at h
      split at h
      · next hopen => exact .inl ⟨by simp [startsWith, hopen], Option.some.inj h⟩
      right
      split at h
      · next hb =>
        obtain ⟨rfl, rfl⟩ := Prod.mk.inj (Option.some.inj h)
        cases ts with
        | nil => simp [startsWith] at hb
        | cons u ts => exact ⟨.array hb.1 (by simpa [startsWith] using hb.2), rfl⟩
      split at h
      · next ht =>
        obtain ⟨rfl, rfl⟩ := Prod.mk.inj (Option.some.inj h)
        exact ⟨.continuation ht, rfl⟩
      split at h
      · next ht =>
        obtain ⟨more, hmore, heq⟩ := Option.map_eq_some_iff.1 h
        obtain ⟨time, zone, rfl, htime, hzone⟩ := exists_words_of_behind? hmore
        obtain ⟨rfl, rfl⟩ := Prod.mk.inj heq
        exact ⟨.zone ht htime hzone, rfl⟩
      · simp at h
  · rintro (⟨hopen, hsplit⟩ | ⟨hpart, rfl⟩)
    · cases ts with
      | nil => simp [startsWith] at hopen
      | cons t ts => rw [readTypePart?, if_pos (by simpa [startsWith] using hopen), hsplit]
    · exact readTypePart?_of_flatPart hpart rest

theorem readTypePart?_append {ts part rest : List Token} (h : readTypePart? ts = some (part, rest)) :
    part ++ rest = ts := by
  rcases readTypePart?_eq_some_iff.1 h with ⟨-, hsplit⟩ | ⟨-, heq⟩
  · rw [← splitGroup_append 0 ts, hsplit]
  · exact heq.symm

theorem readTypeTail_of_none {ts : List Token} (h : readTypePart? ts = none) :
    readTypeTail ts = ([], ts) := by
  rw [readTypeTail]
  split
  · rfl
  · next hs => simp [h] at hs

theorem readTypeTail_of_some {ts part rest : List Token} (h : readTypePart? ts = some (part, rest)) :
    readTypeTail ts = (part ++ (readTypeTail rest).1, (readTypeTail rest).2) := by
  rw [readTypeTail]
  split
  · next hn => simp [h] at hn
  · next part' rest' hs =>
    rw [h, Option.some.injEq, Prod.mk.injEq] at hs
    rw [hs.1, hs.2]

theorem readTypeTail_append (ts : List Token) : (readTypeTail ts).1 ++ (readTypeTail ts).2 = ts := by
  fun_induction readTypeTail ts with
  | case1 => rfl
  | case2 ts part rest h more rest' hmore ih =>
    rw [hmore] at ih
    rw [List.append_assoc, ih]
    exact readTypePart?_append h

theorem readOptions_cons (c : ColumnDefinition) (t : Token) (ts : List Token) :
    readOptions c (t :: ts) =
      match behind? ["PRIMARY", "KEY"] (t :: ts), behind? ["NOT", "NULL"] (t :: ts) with
      | some rest, _ => readOptions { c with primaryKey := true } rest
      | none, some rest => readOptions { c with notNull := true } rest
      | none, none =>
        if t.isWord "REFERENCES" then
          readOptions { c with references := (readInlineReference ts).1 }
            (skipReferentialActions (readInlineReference ts).2)
        else if t.kind = .leftParen then readOptions c (splitGroup 0 (t :: ts)).2
        else readOptions c ts := by
  rw [readOptions]
  split
  · next h => rw [h]
  · next h =>
    split
    · next h' => rw [h, h']
    · next h' => rw [h, h']

/-- Options leave the name and the type alone, and their reference is over names of their tokens. -/
theorem readOptions_spec (c : ColumnDefinition) (ts : List Token) :
    (readOptions c ts).name = c.name ∧ (readOptions c ts).type = c.type ∧
      ∀ r, (readOptions c ts).references = some r → c.references = some r ∨
        (r.table ∈ namesIn ts ∧ ∀ column, r.column = some column → column ∈ namesIn ts) := by
  have hmono {us ts : List Token} {r : InlineReference} (hus : us <:+ ts)
      (h : r.table ∈ namesIn us ∧ ∀ column, r.column = some column → column ∈ namesIn us) :
      r.table ∈ namesIn ts ∧ ∀ column, r.column = some column → column ∈ namesIn ts :=
    ⟨namesIn_subset hus.subset h.1, fun column hc => namesIn_subset hus.subset (h.2 column hc)⟩
  fun_induction readOptions c ts with
  | case1 => exact ⟨rfl, rfl, fun r h => .inl h⟩
  | case2 c t ts rest h ih =>
    exact ⟨ih.1, ih.2.1, fun r hr => (ih.2.2 r hr).imp id (hmono (behind?_suffix h))⟩
  | case3 c t ts hkey rest h ih =>
    exact ⟨ih.1, ih.2.1, fun r hr => (ih.2.2 r hr).imp id (hmono (behind?_suffix h))⟩
  | case4 c t ts hkey hnull href reference ih =>
    refine ⟨ih.1, ih.2.1, fun r hr => .inr ?_⟩
    rcases ih.2.2 r hr with h | h
    · exact hmono (List.suffix_cons t ts) (readInlineReference_names h)
    · exact hmono ((skipReferentialActions_suffix _).trans
        ((readInlineReference_suffix ts).trans (List.suffix_cons t ts))) h
  | case5 c t ts hkey hnull href hparen ih =>
    exact ⟨ih.1, ih.2.1, fun r hr => (ih.2.2 r hr).imp id (hmono (splitGroup_suffix 0 (t :: ts)))⟩
  | case6 c t ts hkey hnull href hparen ih =>
    exact ⟨ih.1, ih.2.1, fun r hr => (ih.2.2 r hr).imp id (hmono (List.suffix_cons t ts))⟩

theorem outlineOf_isInfix {name name' : String} {ts item : List Token} {items : List (List Token)}
    (h : outlineOf name ts = .body name' items) (hitem : item ∈ items) : item <:+: ts := by
  unfold outlineOf at h
  split at h
  · split at h
    · obtain ⟨rfl, rfl⟩ := TableOutline.body.inj h
      exact (splitTopLevel_isInfix hitem).trans (List.tail_suffix ts).isInfix
    · cases h
  · cases h

theorem readOutline?_spec {ts : List Token} {name : String} {items : List (List Token)}
    (h : readOutline? ts = some (.body name items)) :
    name ∈ namesIn ts ∧ ∀ item ∈ items, item <:+: ts := by
  rw [readOutline?_eq] at h
  obtain ⟨ts1, h1, h⟩ := Option.bind_eq_some_iff.1 h
  obtain ⟨ts2, h2, h⟩ := Option.bind_eq_some_iff.1 h
  obtain ⟨name', hname, h⟩ := Option.map_eq_some_iff.1 h
  have hsuffix : skipPhrase ["IF", "NOT", "EXISTS"] ts2 <:+ ts :=
    ((skipPhrase_suffix _ _).trans (behind?_suffix h2)).trans
      ((skipOneOf_suffix _ _).trans ((skipOneOf_suffix _ _).trans
        ((skipPhrase_suffix _ _).trans (behind?_suffix h1))))
  obtain rfl : name' = name := by
    unfold outlineOf at h
    split at h
    · split at h
      · exact (TableOutline.body.inj h).1
      · cases h
    · cases h
  exact ⟨namesIn_subset hsuffix.subset (readDottedName_mem hname), fun item hitem =>
    (outlineOf_isInfix h hitem).trans ((readDottedName_suffix _).trans hsuffix).isInfix⟩

theorem readColumn?_eq_some {source : String} {ts : List Token} {c : ColumnDefinition}
    (h : readColumn? source ts = some c) :
    ∃ first name next text tail rest, ts = first :: next :: (tail ++ rest) ∧
      first.name? = some name ∧ next.kind = .word text ∧
      readTypeTail (tail ++ rest) = (tail, rest) ∧
      c = readOptions ⟨name, Text.collapse (sourceText source (next :: tail)), false, false, none⟩
        rest := by
  unfold readColumn? at h
  simp only [Option.bind_eq_bind, Option.bind_eq_some_iff, Prod.exists] at h
  obtain ⟨name, rest, hname, h⟩ := h
  obtain ⟨first, hfirst, rfl⟩ := readName?_eq_some hname
  split at h
  · next text start stop more =>
    refine ⟨first, name, ⟨.word text, start, stop⟩, text, (readTypeTail more).1,
      (readTypeTail more).2, ?_, hfirst, rfl, ?_, ?_⟩
    · rw [readTypeTail_append]
    · rw [readTypeTail_append]
    · exact (Option.some.inj h).symm
  · simp at h

theorem readColumn?_of_readTypeTail (source : String) {first next : Token} {name text : String}
    {tail rest : List Token} (hfirst : first.name? = some name) (hnext : next.kind = .word text)
    (h : readTypeTail (tail ++ rest) = (tail, rest)) :
    readColumn? source (first :: next :: (tail ++ rest)) =
      some (readOptions ⟨name, Text.collapse (sourceText source (next :: tail)), false, false, none⟩
        rest) := by
  obtain ⟨kind, start, stop⟩ := next
  subst hnext
  simp [readColumn?, readName?, hfirst, h]

theorem splitStatements_isInfix {ts statement : List Token} (h : statement ∈ splitStatements ts) :
    statement <:+: ts := by
  suffices key : (∃ first rest, splitStatements ts = first :: rest ∧ first <+: ts) ∧
      ∀ statement ∈ splitStatements ts, statement <:+: ts from key.2 statement h
  clear h statement
  induction ts with
  | nil => simp [splitStatements]
  | cons t ts ih =>
    rw [splitStatements]
    split
    · simp
    split
    · refine ⟨⟨[], _, rfl, List.nil_prefix⟩, fun statement h => ?_⟩
      rcases List.mem_cons.1 h with rfl | h
      · exact List.nil_infix
      · exact (ih.2 statement h).trans (List.suffix_cons _ _).isInfix
    · obtain ⟨⟨first, rest, heq, hfirst⟩, hall⟩ := ih
      have hpre : t :: first <+: t :: ts := List.prefix_cons_inj t |>.2 hfirst
      rw [heq] at hall ⊢
      refine ⟨⟨_, _, rfl, hpre⟩, fun statement h => ?_⟩
      rcases List.mem_cons.1 h with rfl | h
      · exact hpre.isInfix
      · exact (hall statement (by simp [h])).trans (List.suffix_cons _ _).isInfix

/-- The end of the text belongs to no statement. -/
theorem splitStatements_concat_end (ts : List Token) {t : Token} (ht : t.kind = .endOfText) :
    splitStatements (ts ++ [t]) = splitStatements ts := by
  induction ts with
  | nil => simp [splitStatements, ht]
  | cons u ts ih => simp only [List.cons_append, splitStatements, ih]

end SqlSchema
