import Mathlib.Data.List.ReduceOption
import SqlSchema.Proofs.AddedKeys
import SqlSchema.Proofs.Forms
/-!
# ALTER TABLE in every form

An ALTER TABLE statement is a list of actions. Those that add a key or a unique constraint are read,
with all of their optional parts; any other action is passed over, whatever tokens it is made of.
-/
namespace SqlSchema

section Actions

/-- `CONSTRAINT` with a name, or nothing. -/
inductive Label : List Token → Prop
  | missing : Label []
  | present {t name : Token} (ht : t.isWord "CONSTRAINT") (hname : name.name?.isSome) : Label [t, name]

/-- A name, bare or quoted, that is none of the words, or nothing. -/
inductive IndexName (reserved : List String) : List Token → Prop
  | missing : IndexName reserved []
  | present {t : Token} (hname : t.name?.isSome) (hfree : t.isOneOf reserved = false) :
      IndexName reserved [t]

/-- A list whose items start with the names of the columns. -/
def ColumnList (columns : List String) (ts : List Token) : Prop :=
  ∃ items, IsList items ts ∧ items.filterMap leadingName? = columns

/-- A list of columns, or nothing. -/
inductive TargetList : List String → List Token → Prop
  | missing : TargetList [] []
  | list {columns : List String} {ts : List Token} (hts : ColumnList columns ts) : TargetList columns ts

/-- An action on a table, with the constraint that it adds, if it adds one. -/
inductive AlterAction (table : String) : Option PendingConstraint → List Token → Prop
  | primaryKey {add : Token} {label words storage list : List Token} {columns : List String}
      (hadd : add.isWord "ADD") (hlabel : Label label) (hwords : Spells ["PRIMARY", "KEY"] words)
      (hstorage : MaySpell [["CLUSTERED"], ["NONCLUSTERED"]] storage) (hlist : ColumnList columns list) :
      AlterAction table (some ⟨table, .primaryKey, columns, none, []⟩)
        (add :: (label ++ (words ++ (storage ++ list))))
  | foreignKey {add references : Token} {label words index list names targetList actions : List Token}
      {columns targetColumns : List String} {target : String} (hadd : add.isWord "ADD")
      (hlabel : Label label) (hwords : Spells ["FOREIGN", "KEY"] words) (hindex : IndexName [] index)
      (hlist : ColumnList columns list) (hreferences : references.isWord "REFERENCES")
      (htarget : DottedName target names) (htargets : TargetList targetColumns targetList)
      (hactions : ReferentialActions actions) :
      AlterAction table (some ⟨table, .foreignKey, columns, some target, targetColumns⟩)
        (add :: (label ++ (words ++ (index ++
          (list ++ references :: (names ++ (targetList ++ actions)))))))
  | unique {add : Token} {label words kind index list : List Token} {columns : List String}
      (hadd : add.isWord "ADD") (hlabel : Label label) (hwords : Spells ["UNIQUE"] words)
      (hkind : MaySpell [["KEY"], ["INDEX"]] kind) (hindex : IndexName ["KEY", "INDEX"] index)
      (hlist : ColumnList columns list) :
      AlterAction table (some ⟨table, .unique, columns, none, []⟩)
        (add :: (label ++ (words ++ (kind ++ (index ++ list)))))
  | other {ts : List Token} (hts : Enclosed ts) (hadd : Avoids ["ADD"] ts)
      (hdot : startsWith .dot ts = false) : AlterAction table none ts

/-- Actions with commas between them. -/
inductive AlterActions (table : String) : List (Option PendingConstraint) → List Token → Prop
  | single {pending : Option PendingConstraint} {ts : List Token}
      (h : AlterAction table pending ts) : AlterActions table [pending] ts
  | cons {pending : Option PendingConstraint} {others : List (Option PendingConstraint)} {comma : Token}
      {us ts : List Token} (h : AlterAction table pending us) (hcomma : comma.kind = .comma)
      (hts : AlterActions table others ts) : AlterActions table (pending :: others) (us ++ comma :: ts)

/-- An ALTER TABLE statement on the given table, with what each of its actions adds. -/
inductive AlterForm (name : String) (pending : List (Option PendingConstraint)) : List Token → Prop
  | mk {alter table : Token} {guard only names actions : List Token} (halter : alter.isWord "ALTER")
      (htable : table.isWord "TABLE") (hguard : MaySpell [["IF", "EXISTS"]] guard)
      (honly : MaySpell [["ONLY"]] only) (hname : DottedName name names)
      (hbare : Avoids ["IF", "ONLY"] names) (hactions : AlterActions name pending actions) :
      AlterForm name pending (alter :: table :: (guard ++ (only ++ (names ++ actions))))

end Actions

section Readers

variable {table target : String} {columns targetColumns : List String} {ts rest : List Token}

theorem ColumnList.enclosed (h : ColumnList columns ts) : Enclosed ts := by
  obtain ⟨items, hts, -⟩ := h
  exact enclosed_of_isList hts

theorem ColumnList.exists_opening (h : ColumnList columns ts) :
    ∃ opening more, ts = opening :: more ∧ opening.kind = .leftParen := by
  obtain ⟨items, hts, -⟩ := h
  exact exists_opening_of_isList hts

theorem ColumnList.startsWith (h : ColumnList columns ts) (kind : TokenKind) (rest : List Token) :
    startsWith kind (ts ++ rest) = (.leftParen == kind) := by
  obtain ⟨opening, more, rfl, hopen⟩ := h.exists_opening
  simp [SqlSchema.startsWith, hopen]

theorem ColumnList.avoids (h : ColumnList columns ts) (words : List String) : Avoids words ts := by
  obtain ⟨opening, more, rfl, hopen⟩ := h.exists_opening
  exact avoids_of_kind (by simp [hopen]) more

theorem ColumnList.readColumnList? (h : ColumnList columns ts) (rest : List Token) :
    readColumnList? (ts ++ rest) = some (columns, rest) := by
  obtain ⟨items, hts, hcolumns⟩ := h
  rw [readColumnList?_of_isList hts, hcolumns]

theorem behindConstraintName?_of_label {label : List Token} (h : Label label)
    (hrest : behind? ["CONSTRAINT"] rest = none) :
    behindConstraintName? (label ++ rest) = some rest := by
  cases h with
  | missing => rw [List.nil_append, behindConstraintName?, hrest]
  | present ht hname =>
    obtain ⟨n, hn⟩ := Option.isSome_iff_exists.1 hname
    simp [behindConstraintName?, behind?, ht, readName?, hn]

theorem behindIndexName?_of_indexName {words : List String} {index : List Token}
    (h : IndexName words index) (hrest : startsWith .leftParen rest) :
    behindIndexName? (index ++ rest) = some rest := by
  cases h with
  | missing => rw [List.nil_append, behindIndexName?, if_pos hrest]
  | @present t hname hfree =>
    obtain ⟨n, hn⟩ := Option.isSome_iff_exists.1 hname
    have hopen : t.kind ≠ .leftParen := (isOrdinary_of_name? hname).2.1
    simp [behindIndexName?, startsWith, hopen, readName?, hn]

theorem readKind?_of_spells {phrase : List String} {kind : ConstraintKind} {words : List Token}
    (hphrase : (phrase, kind) ∈ kindPhrases) (h : Spells phrase words) (rest : List Token) :
    readKind? (words ++ rest) = some (kind, rest) := by
  have hfree : ∀ p ∈ kindPhrases, ∀ q ∈ kindPhrases, p.1 <+: q.1 ∨ q.1 <+: p.1 → q = p := by decide
  rw [readKind?_eq]
  exact findSome?_of_spells Prod.fst (fun p more => (p.2, more)) hphrase (hfree _ hphrase) h rest

/-- The words behind `ADD` and the name of a constraint decide how the rest is read. -/
theorem readAddClause?_of_label {phrase : List String} (kind : ConstraintKind) {add : Token}
    {label words : List Token} (hadd : add.isWord "ADD") (hlabel : Label label)
    (hphrase : (phrase, kind) ∈ kindPhrases) (hwords : Spells phrase words) (rest : List Token) :
    readAddClause? (add :: (label ++ (words ++ rest))) = readClause? kind rest := by
  have hopen : ∀ p ∈ kindPhrases, ¬p.1 <+: ["CONSTRAINT"] ∧ ¬["CONSTRAINT"] <+: p.1 := by decide
  have hfree : behind? ["CONSTRAINT"] (words ++ rest) = none :=
    behind?_eq_none_of_spells hwords (hopen _ hphrase).1 (hopen _ hphrase).2 rest
  rw [readAddClause?_eq, behind?, if_pos hadd, behind?, Option.bind_some,
    behindConstraintName?_of_label hlabel hfree, Option.bind_some, readKind?_of_spells hphrase hwords,
    Option.bind_some]

theorem readPrimaryKey?_of_columnList {storage list : List Token}
    (hstorage : MaySpell [["CLUSTERED"], ["NONCLUSTERED"]] storage) (hlist : ColumnList columns list) :
    readPrimaryKey? (storage ++ list) = some columns := by
  have hfree : behindOneOf? [["CLUSTERED"], ["NONCLUSTERED"]] list = none := by
    exact behindOneOf?_of_avoids (by decide) (hlist.avoids _)
  have hread := hlist.readColumnList? []
  rw [List.append_nil] at hread
  rw [readPrimaryKey?, skipOneOf_of_maySpell (by decide) hstorage hfree, hread, Option.map_some]

theorem readUnique?_of_columnList {kind index list : List Token}
    (hkind : MaySpell [["KEY"], ["INDEX"]] kind) (hindex : IndexName ["KEY", "INDEX"] index)
    (hlist : ColumnList columns list) : readUnique? (kind ++ (index ++ list)) = some columns := by
  have hread := hlist.readColumnList? []
  have hopen := hlist.startsWith .leftParen []
  rw [List.append_nil] at hread hopen
  have hfree : behindOneOf? [["KEY"], ["INDEX"]] (index ++ list) = none := by
    apply behindOneOf?_of_avoids (by decide)
    cases hindex with
    | missing => exact hlist.avoids _
    | present _ hfree => exact avoids_cons hfree _
  rw [readUnique?_eq, skipOneOf_of_maySpell (by decide) hkind hfree,
    behindIndexName?_of_indexName hindex hopen, Option.bind_some, hread, Option.map_some]

theorem readTarget?_of_targetList {names targetList actions : List Token}
    (htarget : DottedName target names) (htargets : TargetList targetColumns targetList)
    (hactions : ReferentialActions actions) :
    readTarget? columns (names ++ (targetList ++ actions)) = some ⟨columns, target, targetColumns⟩ := by
  have hsign (kind : TokenKind) (hkind : ∀ text, kind ≠ .word text) :
      startsWith kind actions = false := by
    have hend := startsWith_actions hactions hkind (show startsWith kind [] = false from rfl)
    rwa [List.append_nil] at hend
  cases htargets with
  | missing =>
    have hdotted := readDottedName_of_dottedName htarget (hsign .dot (by simp))
    rw [List.nil_append, readTarget?, hdotted, Option.map_some,
      readColumnList?_of_not_startsWith (hsign _ (by simp))]
    rfl
  | list hlist =>
    have hdot : startsWith .dot (targetList ++ actions) = false := hlist.startsWith .dot actions
    rw [readTarget?, readDottedName_of_dottedName htarget hdot, Option.map_some, hlist.readColumnList?]
    rfl

theorem readForeignKey?_of_columnList {references : Token}
    {index list names targetList actions : List Token} (hindex : IndexName [] index)
    (hlist : ColumnList columns list) (hreferences : references.isWord "REFERENCES")
    (htarget : DottedName target names) (htargets : TargetList targetColumns targetList)
    (hactions : ReferentialActions actions) :
    readForeignKey? (index ++ (list ++ references :: (names ++ (targetList ++ actions)))) =
      some ⟨columns, target, targetColumns⟩ := by
  rw [readForeignKey?_eq, behindIndexName?_of_indexName hindex (hlist.startsWith _ _), Option.bind_some,
    hlist.readColumnList?, Option.bind_some, behind?, if_pos hreferences, behind?, Option.bind_some,
    readTarget?_of_targetList htarget htargets hactions]

theorem AlterAction.readAddClause? {pending : Option PendingConstraint}
    (h : AlterAction table pending ts) :
    (readAddClause? ts).map (AddClause.pendingOn table) = pending := by
  cases h with
  | primaryKey hadd hlabel hwords hstorage hlist =>
    rw [readAddClause?_of_label .primaryKey hadd hlabel (by decide) hwords, readClause?,
      readPrimaryKey?_of_columnList hstorage hlist]
    rfl
  | foreignKey hadd hlabel hwords hindex hlist hreferences htarget htargets hactions =>
    rw [readAddClause?_of_label .foreignKey hadd hlabel (by decide) hwords, readClause?,
      readForeignKey?_of_columnList hindex hlist hreferences htarget htargets hactions]
    rfl
  | unique hadd hlabel hwords hkind hindex hlist =>
    rw [readAddClause?_of_label .unique hadd hlabel (by decide) hwords, readClause?,
      readUnique?_of_columnList hkind hindex hlist]
    rfl
  | other hts hadd hdot =>
    rw [readAddClause?_eq, behind?_of_avoids hadd]
    rfl

end Readers

section Items

variable {table : String} {pending : List (Option PendingConstraint)} {ts : List Token}

private theorem enclosed_append {us : List Token} (hu : ∀ t ∈ us, t.isOrdinary) (ht : Enclosed ts) :
    Enclosed (us ++ ts) :=
  (enclosed_of_isOrdinary hu).append ht

theorem isOrdinary_of_label (h : Label ts) : ∀ t ∈ ts, t.isOrdinary := by
  cases h with
  | missing => simp
  | present ht hname => simpa using ⟨isOrdinary_of_isWord ht, isOrdinary_of_name? hname⟩

theorem isOrdinary_of_indexName {words : List String} (h : IndexName words ts) :
    ∀ t ∈ ts, t.isOrdinary := by
  cases h with
  | missing => simp
  | present hname _ => simpa using isOrdinary_of_name? hname

theorem enclosed_of_targetList {columns : List String} (h : TargetList columns ts) : Enclosed ts := by
  cases h with
  | missing => exact enclosed_nil
  | list hlist => exact hlist.enclosed

theorem AlterAction.enclosed {added : Option PendingConstraint} (h : AlterAction table added ts) :
    Enclosed ts := by
  cases h with
  | primaryKey hadd hlabel hwords hstorage hlist =>
    apply (enclosed_cons_of_isOrdinary (isOrdinary_of_isWord hadd)).2
    apply enclosed_append (isOrdinary_of_label hlabel)
    apply enclosed_append (isOrdinary_of_spells hwords)
    exact enclosed_append (isOrdinary_of_maySpell hstorage) hlist.enclosed
  | foreignKey hadd hlabel hwords hindex hlist hreferences htarget htargets hactions =>
    apply (enclosed_cons_of_isOrdinary (isOrdinary_of_isWord hadd)).2
    apply enclosed_append (isOrdinary_of_label hlabel)
    apply enclosed_append (isOrdinary_of_spells hwords)
    apply enclosed_append (isOrdinary_of_indexName hindex)
    apply hlist.enclosed.append
    apply (enclosed_cons_of_isOrdinary (isOrdinary_of_isWord hreferences)).2
    apply enclosed_append (isOrdinary_of_dottedName htarget)
    apply (enclosed_of_targetList htargets).append
    exact enclosed_of_isOrdinary (isOrdinary_of_actions hactions)
  | unique hadd hlabel hwords hkind hindex hlist =>
    apply (enclosed_cons_of_isOrdinary (isOrdinary_of_isWord hadd)).2
    apply enclosed_append (isOrdinary_of_label hlabel)
    apply enclosed_append (isOrdinary_of_spells hwords)
    apply enclosed_append (isOrdinary_of_maySpell hkind)
    exact enclosed_append (isOrdinary_of_indexName hindex) hlist.enclosed
  | other hts hadd hdot => exact hts

theorem AlterActions.exists_items (h : AlterActions table pending ts) :
    ∃ items, Separated items ts ∧ List.Forall₂ (AlterAction table) pending items := by
  induction h with
  | single h => exact ⟨_, .single h.enclosed, .cons h .nil⟩
  | cons h hcomma _ ih =>
    obtain ⟨items, hitems, hactions⟩ := ih
    exact ⟨_, .cons h.enclosed hcomma hitems, .cons h hactions⟩

theorem AlterActions.startsWith_dot (h : AlterActions table pending ts) :
    startsWith .dot ts = false := by
  have haction {added : Option PendingConstraint} {us rest : List Token}
      (h : AlterAction table added us) (hrest : startsWith .dot rest = false) :
      startsWith .dot (us ++ rest) = false := by
    have hword {add : Token} (hadd : add.isWord "ADD") (more : List Token) :
        startsWith .dot (add :: more) = false := by
      obtain ⟨text, hkind⟩ := kind_of_isWord hadd
      simp [startsWith, hkind]
    cases h with
    | primaryKey hadd => exact hword hadd _
    | foreignKey hadd => exact hword hadd _
    | unique hadd => exact hword hadd _
    | other hts hadd hdot =>
      cases us with
      | nil => exact hrest
      | cons u us => exact hdot
  cases h with
  | single h => simpa using haction h (show startsWith .dot [] = false from rfl)
  | @cons _ _ comma _ ts h hcomma _ =>
    exact haction h (show startsWith .dot (comma :: ts) = false by simp [startsWith, hcomma])

theorem AlterActions.readAddClause? (h : AlterActions table pending ts) :
    ((splitTopLevel false ts).1.filterMap readAddClause?).map (AddClause.pendingOn table) =
      pending.reduceOption := by
  obtain ⟨items, hitems, hactions⟩ := h.exists_items
  have hsplit := filterMap_splitTopLevel readAddClause?_nil false ts
  rw [splitBody_of_not_closes (endsStatement_of_separated hitems), splitCommas_of_separated hitems]
    at hsplit
  rw [hsplit, List.map_filterMap]
  -- an action that adds nothing is left out on both sides
  clear h hsplit hitems
  induction hactions with
  | nil => rfl
  | @cons added item pending items h _ ih =>
    rw [List.filterMap_cons, h.readAddClause?, ih]
    cases added <;> rfl

end Items

section Statements

variable {name : String} {pending : List (Option PendingConstraint)} {ts : List Token}

theorem readDottedName_of_guards {guard only names actions : List Token}
    (hguard : MaySpell [["IF", "EXISTS"]] guard) (honly : MaySpell [["ONLY"]] only)
    (hname : DottedName name names) (hbare : Avoids ["IF", "ONLY"] names)
    (hactions : startsWith .dot actions = false) :
    readDottedName (skipPhrase ["ONLY"] (skipPhrase ["IF", "EXISTS"]
      (guard ++ (only ++ (names ++ actions))))) = (some name, actions) := by
  have hnames : Avoids ["IF", "ONLY"] (names ++ actions) := by
    cases hname <;> exact avoids_cons (hbare _ rfl) _
  have honlys : Avoids ["IF"] (only ++ (names ++ actions)) :=
    avoids_append honly (by decide) (by decide) (hnames.mono (by decide))
  rw [skipPhrase_of_maySpell hguard (behind?_of_avoids honlys _),
    skipPhrase_of_maySpell honly (behind?_of_avoids (hnames.mono (by decide)) _),
    readDottedName_of_dottedName hname hactions]

theorem AlterForm.readAlter? (h : AlterForm name pending ts) :
    ∃ a, readAlter? ts = some a ∧ a.name = name ∧ a.pending = pending.reduceOption := by
  obtain ⟨halter, htable, hguard, honly, hname, hbare, hactions⟩ := h
  have hdotted := readDottedName_of_guards hguard honly hname hbare hactions.startsWith_dot
  rw [readAlter?_eq, behind?, if_pos halter, behind?, if_pos htable, behind?, Option.bind_some, hdotted]
  exact ⟨_, rfl, rfl, hactions.readAddClause?⟩

theorem AlterForm.readStatement? (h : AlterForm name pending ts) (source : String) :
    ∃ a, readStatement? source ts = some (.alter a) ∧ a.name = name ∧
      a.pending = pending.reduceOption := by
  obtain ⟨a, hread, hname, hpending⟩ := h.readAlter?
  have hcreate : readCreate? source ts = none := by
    obtain ⟨halter, -, -, -, -, -, -⟩ := h
    rw [readCreate?, readOutline?_eq, behind?_of_avoids (avoids_of_isWord halter (by decide) _)]
    rfl
  rw [SqlSchema.readStatement?, hcreate, hread]
  exact ⟨a, rfl, hname, hpending⟩

theorem AlterForm.endsStatement (h : AlterForm name pending ts) :
    ∀ t ∈ ts, t.endsStatement = false := by
  obtain ⟨halter, htable, hguard, honly, hname, hbare, hactions⟩ := h
  obtain ⟨items, hitems, -⟩ := hactions.exists_items
  intro t ht
  simp only [List.mem_cons, List.mem_append] at ht
  rcases ht with rfl | rfl | ht | ht | ht | ht
  · exact (isOrdinary_of_isWord halter).1
  · exact (isOrdinary_of_isWord htable).1
  · exact (isOrdinary_of_maySpell hguard t ht).1
  · exact (isOrdinary_of_maySpell honly t ht).1
  · exact (isOrdinary_of_dottedName hname t ht).1
  · exact endsStatement_of_separated hitems t ht

/-- An ALTER TABLE statement gives just the constraints that its actions add, in order and all of them
on its own table. Nothing else in it has an effect. -/
theorem readStatements_alterForm (source : String) (h : AlterForm name pending ts) {semicolon : Token}
    (hsemi : semicolon.kind = .semicolon) (rest : List Token) :
    ∃ a, readStatements source (ts ++ semicolon :: rest) = .alter a :: readStatements source rest ∧
      a.name = name ∧ a.pending = pending.reduceOption := by
  obtain ⟨a, hread, hname, hpending⟩ := h.readStatement? source
  exact ⟨a, readStatements_of_readStatement? hread h.endsStatement hsemi rest, hname, hpending⟩

theorem readStatements_alterForm_mixed :
    ∃ (text : String) (ts rest : List Token) (semicolon : Token)
      (pending : List (Option PendingConstraint)) (a : AlterTable),
      text = "alter table if exists only s.\"t\" drop x, " ++
        "add constraint k primary key nonclustered (a desc, b(10)), " ++
        "add foreign key \"i\" (c) references u.v (p) on delete cascade; x" ∧
      tokenize .postgres text = .ok (ts ++ semicolon :: rest) ∧
      AlterForm "t" pending ts ∧ semicolon.kind = .semicolon ∧ pending.length = 3 ∧
      readStatements text (ts ++ semicolon :: rest) = [.alter a] ∧ a.name = "t" ∧
      a.pending = [⟨"t", .primaryKey, ["a", "b"], none, []⟩,
        ⟨"t", .foreignKey, ["c"], some "v", ["p"]⟩] := by
  have hguard : MaySpell [["IF", "EXISTS"]] [⟨.word "if", 12, 14⟩, ⟨.word "exists", 15, 21⟩] :=
    .present (List.mem_singleton_self _) (.cons (by decide) (.cons (by decide) .nil))
  have honly : MaySpell [["ONLY"]] [⟨.word "only", 22, 26⟩] :=
    .present (List.mem_singleton_self _) (.cons (by decide) .nil)
  have hname : DottedName "t" [⟨.word "s", 27, 28⟩, ⟨.dot, 28, 29⟩, ⟨.quoted "t", 29, 32⟩] :=
    .qualified rfl rfl (.last rfl)
  have hdrop : AlterAction "t" none [⟨.word "drop", 33, 37⟩, ⟨.word "x", 38, 39⟩] :=
    .other (by decide) (avoids_cons (by decide) _) rfl
  have hitems : Separated
      [[⟨.word "a", 84, 85⟩, ⟨.word "desc", 86, 90⟩],
        [⟨.word "b", 92, 93⟩, ⟨.leftParen, 93, 94⟩, ⟨.number "10", 94, 96⟩, ⟨.rightParen, 96, 97⟩]] _ :=
    @Separated.cons _ _ _ ⟨.comma, 90, 91⟩ (by decide) rfl (.single (by decide))
  have hprimary : AlterAction "t" (some ⟨"t", .primaryKey, ["a", "b"], none, []⟩)
      (⟨.word "add", 41, 44⟩ :: ([⟨.word "constraint", 45, 55⟩, ⟨.word "k", 56, 57⟩] ++
        ([⟨.word "primary", 58, 65⟩, ⟨.word "key", 66, 69⟩] ++
          ([⟨.word "nonclustered", 70, 82⟩] ++ _)))) :=
    .primaryKey (by decide) (.present (by decide) rfl) (.cons (by decide) (.cons (by decide) .nil))
      (@MaySpell.present _ ["NONCLUSTERED"] _ (by decide) (.cons (by decide) .nil))
      ⟨_, @IsList.mk _ ⟨.leftParen, 83, 84⟩ ⟨.rightParen, 97, 98⟩ _ rfl rfl hitems, rfl⟩
  have hcolumns : ColumnList ["c"]
      [⟨.leftParen, 120, 121⟩, ⟨.word "c", 121, 122⟩, ⟨.rightParen, 122, 123⟩] :=
    ⟨[[⟨.word "c", 121, 122⟩]], @IsList.mk _ _ _ [_] rfl rfl (.single (by decide)), rfl⟩
  have htargets : TargetList ["p"]
      [⟨.leftParen, 139, 140⟩, ⟨.word "p", 140, 141⟩, ⟨.rightParen, 141, 142⟩] :=
    .list ⟨[[⟨.word "p", 140, 141⟩]], @IsList.mk _ _ _ [_] rfl rfl (.single (by decide)), rfl⟩
  have hactions : ReferentialActions [⟨.word "on", 143, 145⟩, ⟨.word "delete", 146, 152⟩,
      ⟨.word "cascade", 153, 160⟩] :=
    @ReferentialActions.cons _ _ ["CASCADE"] _ _ (by decide) (by decide) (by decide)
      (.cons (by decide) .nil) .nil
  have hforeign : AlterAction "t" (some ⟨"t", .foreignKey, ["c"], some "v", ["p"]⟩)
      (⟨.word "add", 100, 103⟩ :: ([] ++ ([⟨.word "foreign", 104, 111⟩, ⟨.word "key", 112, 115⟩] ++
        ([⟨.quoted "i", 116, 119⟩] ++ (_ ++ ⟨.word "references", 124, 134⟩ ::
          ([⟨.word "u", 135, 136⟩, ⟨.dot, 136, 137⟩, ⟨.word "v", 137, 138⟩] ++ (_ ++ _))))))) :=
    .foreignKey (by decide) .missing (.cons (by decide) (.cons (by decide) .nil)) (.present rfl rfl)
      hcolumns (by decide) (.qualified rfl rfl (.last rfl)) htargets hactions
  have hlist := AlterActions.cons hdrop (show (⟨.comma, 39, 40⟩ : Token).kind = .comma from rfl)
    (.cons hprimary (show (⟨.comma, 98, 99⟩ : Token).kind = .comma from rfl) (.single hforeign))
  have hform := @AlterForm.mk _ _ ⟨.word "alter", 0, 5⟩ ⟨.word "table", 6, 11⟩ _ _ _ _ (by decide)
    (by decide) hguard honly hname (avoids_cons (by decide) _) hlist
  obtain ⟨a, hread, ha, hpending⟩ := readStatements_alterForm
    ("alter table if exists only s.\"t\" drop x, " ++
      "add constraint k primary key nonclustered (a desc, b(10)), " ++
      "add foreign key \"i\" (c) references u.v (p) on delete cascade; x")
    hform (show (⟨.semicolon, 160, 161⟩ : Token).kind = .semicolon from rfl)
    [⟨.word "x", 162, 163⟩, ⟨.endOfText, 163, 163⟩]
  refine ⟨_, _, _, _, _, a, rfl, ?_, hform, rfl, rfl,
    hread.trans (congrArg (List.cons _) ?_), ha, hpending⟩
  · rw [← String.ofList_append, ← String.ofList_append]
    set_option maxRecDepth 2000 in
    exact tokenize_ofList (by with_unfolding_all decide) (by with_unfolding_all decide)
  · decide

end Statements

end SqlSchema
