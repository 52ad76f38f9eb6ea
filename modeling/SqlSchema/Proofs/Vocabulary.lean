import SqlSchema.Proofs.Readers
import SqlSchema.Script
/-!
# The words of a schema

Every name of a schema is a name of its script and every type is a part of its text. So what holds of
all names in a script and of all types that can be read from it holds throughout the schema.
-/
namespace SqlSchema

/-- What is known of the names and of the types that a script can give. -/
structure Vocabulary where
  name : String → Prop
  type : String → Prop

/-- The type is read from a column definition: it follows the column's name. -/
def IsTypeIn (source : String) (item : List Token) (type : String) : Prop :=
  ∃ first next text tail rest, item = first :: next :: (tail ++ rest) ∧ first.name?.isSome ∧
    next.kind = .word text ∧ readTypeTail (tail ++ rest) = (tail, rest) ∧
    type = Text.collapse (sourceText source (next :: tail))

/-- The type is read from the body of a CREATE TABLE statement. -/
def IsTypeOf (source : String) (statement : List Token) (type : String) : Prop :=
  ∃ name items item, readOutline? statement = some (.body name items) ∧ item ∈ items ∧
    IsTypeIn source item type

section Definitions

variable (v : Vocabulary)

def InlineReference.Within (r : InlineReference) : Prop :=
  v.name r.table ∧ ∀ column, r.column = some column → v.name column

structure ColumnDefinition.Within (c : ColumnDefinition) : Prop where
  name : v.name c.name
  type : v.type c.type
  references : ∀ r, c.references = some r → r.Within v

structure ForeignKeyClause.Within (f : ForeignKeyClause) : Prop where
  columns : ∀ name ∈ f.columns, v.name name
  target : v.name f.target
  targetColumns : ∀ name ∈ f.targetColumns, v.name name

def TableElement.Within : TableElement → Prop
  | .column c => c.Within v
  | .primaryKey columns => ∀ name ∈ columns, v.name name
  | .foreignKey f => f.Within v

def AddClause.Within : AddClause → Prop
  | .foreignKey f => f.Within v
  | .primaryKey columns => ∀ name ∈ columns, v.name name
  | .unique columns => ∀ name ∈ columns, v.name name

def Statement.Within : Statement → Prop
  | .create c => v.name c.name ∧ ∀ e ∈ c.elements, e.Within v
  | .alter a => v.name a.name ∧ ∀ clause ∈ a.clauses, clause.Within v

def ColumnRef.Within (r : ColumnRef) : Prop := v.name r.table ∧ v.name r.column

structure Column.Within (c : Column) : Prop where
  name : v.name c.name
  type : v.type c.type
  reference : ∀ r, c.foreignKeyRef = some r → r.Within v

structure Table.Within (t : Table) : Prop where
  name : v.name t.name
  columns : ∀ c ∈ t.columns, c.Within v

structure TableDraft.Within (d : TableDraft) : Prop where
  name : v.name d.name
  columns : ∀ c ∈ d.columns, c.Within v
  bindings : ∀ b ∈ d.bindings, v.name b.1 ∧ b.2.Within v

structure PendingConstraint.Within (p : PendingConstraint) : Prop where
  columns : ∀ name ∈ p.columns, v.name name
  target : ∀ target, p.target = some target → v.name target
  targetColumns : ∀ name ∈ p.targetColumns, v.name name

end Definitions

section Readers

variable {v : Vocabulary} {source : String}

theorem readColumn?_within {item : List Token} {c : ColumnDefinition}
    (h : readColumn? source item = some c) (hnames : ∀ n ∈ namesIn item, v.name n)
    (htypes : ∀ type, IsTypeIn source item type → v.type type) : c.Within v := by
  obtain ⟨first, name, next, text, tail, rest, rfl, hname, hkind, htail, rfl⟩ :=
    readColumn?_eq_some h
  obtain ⟨hn, ht, hr⟩ := readOptions_spec
    ⟨name, Text.collapse (sourceText source (next :: tail)), false, false, none⟩ rest
  have hsub : namesIn rest ⊆ namesIn (first :: next :: (tail ++ rest)) :=
    namesIn_subset fun t ht => by simp [ht]
  refine ⟨?_, ?_, fun r hrefs => ?_⟩
  · rw [hn]
    exact hnames _ (List.mem_filterMap.2 ⟨first, by simp, hname⟩)
  · rw [ht]
    exact htypes _ ⟨first, next, text, tail, rest, rfl, by simp [hname], hkind, htail, rfl⟩
  · rcases hr r hrefs with h | ⟨htable, hcolumn⟩
    · simp at h
    · exact ⟨hnames _ (hsub htable), fun column hc => hnames _ (hsub (hcolumn column hc))⟩

theorem readForeignKey?_within {ts : List Token} {f : ForeignKeyClause}
    (h : readForeignKey? ts = some f) (hnames : ∀ n ∈ namesIn ts, v.name n) : f.Within v := by
  rw [readForeignKey?_eq] at h
  obtain ⟨ts1, h1, h⟩ := Option.bind_eq_some_iff.1 h
  obtain ⟨⟨columns, ts2⟩, h2, h⟩ := Option.bind_eq_some_iff.1 h
  obtain ⟨ts3, h3, h⟩ := Option.bind_eq_some_iff.1 h
  obtain ⟨target, htarget, rfl⟩ := Option.map_eq_some_iff.1 h
  have hs1 : ts1 <:+ ts := by
    unfold behindIndexName? at h1
    split at h1
    · obtain rfl := Option.some.inj h1
      exact List.suffix_refl _
    · obtain ⟨⟨name, rest⟩, hname, rfl⟩ := Option.map_eq_some_iff.1 h1
      exact readName?_suffix hname
  have hs2 := (readColumnList?_spec h2).1.trans hs1
  have hs3 := (behind?_suffix h3).trans hs2
  have hs4 := (readDottedName_suffix ts3).trans hs3
  refine ⟨fun n hn => ?_, ?_, fun n hn => ?_⟩
  · exact hnames n (namesIn_subset hs1.subset ((readColumnList?_spec h2).2 hn))
  · exact hnames _ (namesIn_subset hs3.subset (readDottedName_mem htarget))
  · cases hlist : readColumnList? (readDottedName ts3).2 with
    | none => simp [hlist] at hn
    | some r =>
      simp only [hlist, Option.map_some, Option.getD_some] at hn
      exact hnames n (namesIn_subset hs4.subset ((readColumnList?_spec hlist).2 hn))

theorem readPrimaryKey?_subset {ts : List Token} {columns : List String}
    (h : readPrimaryKey? ts = some columns) : columns ⊆ namesIn ts := by
  obtain ⟨r, hr, rfl⟩ := Option.map_eq_some_iff.1 h
  exact fun n hn =>
    namesIn_subset (skipOneOf_suffix _ ts).subset ((readColumnList?_spec hr).2 hn)

theorem behindConstraintName?_suffix {ts rest : List Token}
    (h : behindConstraintName? ts = some rest) : rest <:+ ts := by
  unfold behindConstraintName? at h
  split at h
  · next more hmore =>
    obtain ⟨r, hr, rfl⟩ := Option.map_eq_some_iff.1 h
    exact (readName?_suffix hr).trans (behind?_suffix hmore)
  · obtain rfl := Option.some.inj h
    exact List.suffix_refl _

theorem readElement?_within {item : List Token} {e : TableElement}
    (h : readElement? source item = some e) (hnames : ∀ n ∈ namesIn item, v.name n)
    (htypes : ∀ type, IsTypeIn source item type → v.type type) : e.Within v := by
  unfold readElement? at h
  split at h
  · rw [readConstraint?_eq] at h
    obtain ⟨ts, hts, h⟩ := Option.bind_eq_some_iff.1 h
    have hs := behindConstraintName?_suffix hts
    unfold readKey? at h
    split at h
    · next rest hrest =>
      obtain ⟨columns, hcolumns, rfl⟩ := Option.map_eq_some_iff.1 h
      exact fun n hn => hnames n (namesIn_subset ((behind?_suffix hrest).trans hs).subset
        (readPrimaryKey?_subset hcolumns hn))
    · obtain ⟨rest, hrest, h⟩ := Option.bind_eq_some_iff.1 h
      obtain ⟨f, hf, rfl⟩ := Option.map_eq_some_iff.1 h
      exact readForeignKey?_within hf fun n hn =>
        hnames n (namesIn_subset ((behind?_suffix hrest).trans hs).subset hn)
  · obtain ⟨c, hc, rfl⟩ := Option.map_eq_some_iff.1 h
    exact readColumn?_within hc hnames htypes

theorem readUnique?_subset {ts : List Token} {columns : List String}
    (h : readUnique? ts = some columns) : columns ⊆ namesIn ts := by
  rw [readUnique?_eq] at h
  obtain ⟨rest, hrest, h⟩ := Option.bind_eq_some_iff.1 h
  obtain ⟨r, hr, rfl⟩ := Option.map_eq_some_iff.1 h
  have hs : rest <:+ skipOneOf [["KEY"], ["INDEX"]] ts := by
    unfold behindIndexName? at hrest
    split at hrest
    · obtain rfl := Option.some.inj hrest
      exact List.suffix_refl _
    · obtain ⟨⟨name, rest⟩, hname, rfl⟩ := Option.map_eq_some_iff.1 hrest
      exact readName?_suffix hname
  exact fun n hn =>
    namesIn_subset (hs.trans (skipOneOf_suffix _ ts)).subset ((readColumnList?_spec hr).2 hn)

theorem readAddClause?_within {item : List Token} {clause : AddClause}
    (h : readAddClause? item = some clause) (hnames : ∀ n ∈ namesIn item, v.name n) :
    clause.Within v := by
  rw [readAddClause?_eq] at h
  obtain ⟨ts1, h1, h⟩ := Option.bind_eq_some_iff.1 h
  obtain ⟨ts2, h2, h⟩ := Option.bind_eq_some_iff.1 h
  obtain ⟨⟨kind, ts3⟩, h3, h⟩ := Option.bind_eq_some_iff.1 h
  have hs3 : ts3 <:+ ts2 := by
    unfold readKind? at h3
    simp only [Option.bind_eq_bind, Option.bind_eq_some_iff, Option.some.injEq, Prod.mk.injEq] at h3
    obtain ⟨size, -, kind, -, -, rfl⟩ := h3
    exact List.drop_suffix _ _
  have hsub : namesIn ts3 ⊆ namesIn item :=
    namesIn_subset (hs3.trans ((behindConstraintName?_suffix h2).trans (behind?_suffix h1))).subset
  cases kind with
  | primaryKey =>
    obtain ⟨columns, hcolumns, rfl⟩ := Option.map_eq_some_iff.1 h
    exact fun n hn => hnames n (hsub (readPrimaryKey?_subset hcolumns hn))
  | foreignKey =>
    obtain ⟨f, hf, rfl⟩ := Option.map_eq_some_iff.1 h
    exact readForeignKey?_within hf fun n hn => hnames n (hsub hn)
  | unique =>
    obtain ⟨columns, hcolumns, rfl⟩ := Option.map_eq_some_iff.1 h
    exact fun n hn => hnames n (hsub (readUnique?_subset hcolumns hn))

theorem readStatement?_within {ts : List Token} {s : Statement}
    (h : readStatement? source ts = some s) (hnames : ∀ n ∈ namesIn ts, v.name n)
    (htypes : ∀ type, IsTypeOf source ts type → v.type type) : s.Within v := by
  rcases Option.or_eq_some_iff.1 h with h | ⟨-, h⟩
  · obtain ⟨c, hc, rfl⟩ := Option.map_eq_some_iff.1 h
    unfold readCreate? at hc
    split at hc
    · next name items houtline =>
      obtain rfl := Option.some.inj hc
      obtain ⟨hname, hitems⟩ := readOutline?_spec houtline
      refine ⟨hnames _ hname, fun e he => ?_⟩
      obtain ⟨item, hitem, hread⟩ := List.mem_filterMap.1 he
      exact readElement?_within hread
        (fun n hn => hnames n (namesIn_subset (hitems item hitem).subset hn))
        fun type htype => htypes type ⟨name, items, item, houtline, hitem, htype⟩
    · simp at hc
  · obtain ⟨a, ha, rfl⟩ := Option.map_eq_some_iff.1 h
    rw [readAlter?_eq] at ha
    obtain ⟨ts1, h1, ha⟩ := Option.bind_eq_some_iff.1 ha
    obtain ⟨name, hname, rfl⟩ := Option.map_eq_some_iff.1 ha
    have hs : skipPhrase ["ONLY"] (skipPhrase ["IF", "EXISTS"] ts1) <:+ ts :=
      (skipPhrase_suffix _ _).trans ((skipPhrase_suffix _ _).trans (behind?_suffix h1))
    refine ⟨hnames _ (namesIn_subset hs.subset (readDottedName_mem hname)), fun clause hclause => ?_⟩
    obtain ⟨item, hitem, hread⟩ := List.mem_filterMap.1 hclause
    refine readAddClause?_within hread fun n hn => hnames n (namesIn_subset ?_ hn)
    exact ((splitTopLevel_isInfix hitem).trans ((readDottedName_suffix _).trans hs).isInfix).subset

end Readers

section Drafts

variable {v : Vocabulary}

theorem mem_columnPairs {columns targets : List String} {column target : String}
    (h : (column, target) ∈ columnPairs columns targets) :
    column ∈ columns ∧ (target ∈ targets ∨ target = column) := by
  obtain ⟨⟨name, i⟩, hmem, heq⟩ := List.mem_map.1 h
  obtain ⟨rfl, rfl⟩ := Prod.mk.inj heq
  refine ⟨List.fst_mem_of_mem_zipIdx hmem, ?_⟩
  cases hi : targets[i]? with
  | some target => exact .inl (by simpa using List.mem_of_getElem? hi)
  | none =>
    cases hh : targets.head? with
    | some target => exact .inl (by simpa using List.mem_of_head? hh)
    | none => exact .inr rfl

theorem TableDraft.Within.add {d : TableDraft} (hd : d.Within v) {e : TableElement}
    (he : e.Within v) : (d.add e).Within v := by
  cases e with
  | column c =>
    change (d.addColumn c).Within v
    unfold TableDraft.addColumn
    split
    · exact hd
    · refine ⟨hd.name, fun c' hc' => ?_, fun b hb => ?_⟩
      · rcases List.mem_append.1 hc' with h | h
        · exact hd.columns c' h
        · obtain rfl := List.mem_singleton.1 h
          exact he
      · rcases List.mem_append.1 hb with h | h
        · exact hd.bindings b h
        · rw [Option.mem_toList, inlineBinding, Option.map_eq_some_iff] at h
          obtain ⟨r, hr, rfl⟩ := h
          obtain ⟨htable, hcolumn⟩ := he.references r hr
          refine ⟨he.name, htable, ?_⟩
          cases hcol : r.column with
          | none => exact he.name
          | some column => exact hcolumn column hcol
  | primaryKey columns => exact ⟨hd.name, hd.columns, hd.bindings⟩
  | foreignKey f =>
    refine ⟨hd.name, hd.columns, fun b hb => ?_⟩
    rcases List.mem_append.1 hb with h | h
    · exact hd.bindings b h
    · obtain ⟨⟨column, targetColumn⟩, hpair, rfl⟩ := List.mem_map.1 h
      obtain ⟨hfirst, hsecond⟩ := mem_columnPairs hpair
      refine ⟨he.columns _ hfirst, he.target, ?_⟩
      rcases hsecond with h | rfl
      · exact he.targetColumns _ h
      · exact he.columns _ hfirst

theorem TableDraft.Within.addAll {d : TableDraft} (hd : d.Within v) {es : List TableElement}
    (hes : ∀ e ∈ es, e.Within v) : (d.addAll es).Within v := by
  induction es generalizing d with
  | nil => exact hd
  | cons e es ih => exact ih (hd.add (hes e (by simp))) fun e he => hes e (by simp [he])

theorem TableDraft.Within.table {d : TableDraft} (hd : d.Within v) : d.table.Within v := by
  refine ⟨hd.name, fun c hc => ?_⟩
  obtain ⟨definition, hdefinition, rfl⟩ := List.mem_map.1 hc
  have hw := hd.columns definition hdefinition
  refine ⟨hw.name, hw.type, fun r hr => ?_⟩
  obtain ⟨b, hb, rfl⟩ := Option.map_eq_some_iff.1 hr
  exact (hd.bindings b (List.mem_reverse.1 (List.mem_of_find?_eq_some hb))).2

theorem CreateTable.draft_within {c : CreateTable} (h : (Statement.create c).Within v) :
    c.draft.Within v :=
  TableDraft.Within.addAll ⟨h.1, by simp [TableDraft.empty], by simp [TableDraft.empty]⟩ h.2

theorem AlterTable.pending_within {a : AlterTable} (h : (Statement.alter a).Within v) :
    ∀ p ∈ a.pending, p.Within v := by
  intro p hp
  obtain ⟨clause, hclause, rfl⟩ := List.mem_map.1 hp
  have hw := h.2 clause hclause
  cases clause with
  | primaryKey columns => exact ⟨hw, by simp [AddClause.target?], by simp [AddClause.target?]⟩
  | unique columns => exact ⟨hw, by simp [AddClause.target?], by simp [AddClause.target?]⟩
  | foreignKey f =>
    refine ⟨hw.columns, fun target ht => ?_, by simpa [AddClause.target?] using hw.targetColumns⟩
    obtain rfl : f.target = target := by simpa [AddClause.target?] using ht
    exact hw.target

end Drafts

end SqlSchema
