import SqlSchema.Proofs.Keywords
/-!
# Other names for tokens

Readers hand the names of tokens on and do not look into them. So tokens that change their names and
keep their roles are read as the same statements with other names. The one text that does not come
from the tokens is a column's type, which is cut out of the source.
-/
namespace SqlSchema

/-- Other names and other types for a statement. -/
structure Rewording where
  name : String → String
  type : String → String

def Rewording.id : Rewording := ⟨fun s => s, fun s => s⟩

section Reword

variable (w : Rewording)

def InlineReference.reword (i : InlineReference) : InlineReference :=
  ⟨w.name i.table, i.column.map w.name⟩

def ColumnDefinition.reword (c : ColumnDefinition) : ColumnDefinition :=
  { c with
    name := w.name c.name
    type := w.type c.type
    references := c.references.map (InlineReference.reword w) }

def ForeignKeyClause.reword (k : ForeignKeyClause) : ForeignKeyClause :=
  ⟨k.columns.map w.name, w.name k.target, k.targetColumns.map w.name⟩

def TableElement.reword : TableElement → TableElement
  | .column c => .column (c.reword w)
  | .primaryKey columns => .primaryKey (columns.map w.name)
  | .foreignKey k => .foreignKey (k.reword w)

def AddClause.reword : AddClause → AddClause
  | .primaryKey columns => .primaryKey (columns.map w.name)
  | .foreignKey k => .foreignKey (k.reword w)
  | .unique columns => .unique (columns.map w.name)

def CreateTable.reword (c : CreateTable) : CreateTable :=
  ⟨w.name c.name, c.elements.map (TableElement.reword w)⟩

def AlterTable.reword (a : AlterTable) : AlterTable :=
  ⟨w.name a.name, a.clauses.map (AddClause.reword w)⟩

/-- The statement with other names and other types. -/
def Statement.reword : Statement → Statement
  | .create c => .create (c.reword w)
  | .alter a => .alter (a.reword w)

/-- The outline with other names and every token of its body changed. -/
def TableOutline.map (name : String → String) (f : Token → Token) : TableOutline → TableOutline
  | .withoutList n => .withoutList (name n)
  | .unclosed n => .unclosed (name n)
  | .body n items => .body (name n) (items.map (List.map f))

end Reword

section Id

@[simp] theorem Rewording.id_name : Rewording.id.name = fun s => s := rfl

@[simp] theorem Rewording.id_type : Rewording.id.type = fun s => s := rfl

@[simp] theorem InlineReference.reword_id : InlineReference.reword .id = fun i => i := by
  funext i
  simp [reword]

@[simp] theorem ColumnDefinition.reword_id : ColumnDefinition.reword .id = fun c => c := by
  funext c
  simp [reword]

@[simp] theorem ForeignKeyClause.reword_id : ForeignKeyClause.reword .id = fun k => k := by
  funext k
  simp [reword]

@[simp] theorem TableElement.reword_id : TableElement.reword .id = fun e => e := by
  funext e
  cases e <;> simp [reword]

@[simp] theorem AddClause.reword_id : AddClause.reword .id = fun c => c := by
  funext c
  cases c <;> simp [reword]

@[simp] theorem Statement.reword_id : Statement.reword .id = fun s => s := by
  funext s
  cases s <;> simp [reword, CreateTable.reword, AlterTable.reword]

end Id

/-- A change of tokens under which names that are reworded on both sides agree. -/
structure Renames (f : Token → Token) (v w : Rewording) : Prop extends KeepsRole f where
  name : ∀ t, (f t).name?.map w.name = t.name?.map v.name

section Readers

private theorem bind_congr_of_map {α α' β γ : Type} {o : Option α} {o' : Option α'}
    {p : α → γ} {p' : α' → γ} {k : α → Option β} {k' : α' → Option β} (h : o'.map p' = o.map p)
    (hk : ∀ a' a, p' a' = p a → k' a' = k a) : o'.bind k' = o.bind k := by
  cases o with
  | none =>
    rw [Option.map_none, Option.map_eq_none_iff] at h
    rw [h]
    rfl
  | some a =>
    obtain ⟨a', rfl, ha⟩ := Option.map_eq_some_iff.1 h
    exact hk a' a ha

variable {f : Token → Token} {v w : Rewording} (hf : Renames f v w)

include hf

theorem readName?_map (ts : List Token) :
    (readName? (ts.map f)).map (Prod.map w.name id) =
      (readName? ts).map (Prod.map v.name (List.map f)) := by
  cases ts with
  | nil => rfl
  | cons t ts =>
    have hname := hf.name t
    simp only [List.map_cons, readName?]
    cases ht : t.name? <;> cases hft : (f t).name? <;> simp_all

theorem readDottedName_map (ts : List Token) :
    Prod.map (Option.map w.name) id (readDottedName (ts.map f)) =
      Prod.map (Option.map v.name) (List.map f) (readDottedName ts) := by
  fun_induction readDottedName ts with
  | case1 => rfl
  | case2 t ts h =>
    have hname := hf.name t
    rw [h, Option.map_none, Option.map_eq_none_iff] at hname
    simp [readDottedName, hname]
  | case3 t n h d rest hd ih =>
    obtain ⟨n', h', -⟩ := Option.map_eq_some_iff.1 ((hf.name t).trans (by rw [h]; rfl))
    rw [List.map_cons, List.map_cons, readDottedName]
    simp only [h', (hf.kind_eq_iff .dot rfl d).2 hd, if_true, ih]
  | case4 t n h d rest hd =>
    obtain ⟨n', h', hn⟩ := Option.map_eq_some_iff.1 ((hf.name t).trans (by rw [h]; rfl))
    simp [readDottedName, h', hn, hf.kind_eq_iff .dot rfl d, hd]
  | case5 t n h =>
    obtain ⟨n', h', hn⟩ := Option.map_eq_some_iff.1 ((hf.name t).trans (by rw [h]; rfl))
    simp [readDottedName, h', hn]

theorem readColumnList?_map (ts : List Token) :
    (readColumnList? (ts.map f)).map (Prod.map (List.map w.name) id) =
      (readColumnList? ts).map (Prod.map (List.map v.name) (List.map f)) := by
  cases ts with
  | nil => rfl
  | cons t ts =>
    have hitem (item : List Token) : ((readName? (item.map f)).map (·.1)).map w.name =
        ((readName? item).map (·.1)).map v.name := by
      simpa [Function.comp_def] using congrArg (Option.map Prod.fst) (readName?_map hf item)
    simp only [List.map_cons, readColumnList?, hf.kind_eq_iff .leftParen rfl,
      splitTopLevel_map hf.toKeepsRole, skipKind_map hf.toKeepsRole .rightParen rfl]
    split
    · simp only [Option.map_some, Prod.map_apply, id, List.map_filterMap, List.filterMap_map,
        Function.comp_def, hitem]
    · rfl

private theorem columns_map (ts : List Token) :
    ((readColumnList? (ts.map f)).map (·.1)).map (List.map w.name) =
      ((readColumnList? ts).map (·.1)).map (List.map v.name) := by
  simpa [Function.comp_def] using congrArg (Option.map Prod.fst) (readColumnList?_map hf ts)

theorem readInlineReference_map (ts : List Token) :
    Prod.map (Option.map (InlineReference.reword w)) id (readInlineReference (ts.map f)) =
      Prod.map (Option.map (InlineReference.reword v)) (List.map f) (readInlineReference ts) := by
  have hdotted := readDottedName_map hf ts
  unfold readInlineReference
  generalize readDottedName (ts.map f) = r', readDottedName ts = r at hdotted ⊢
  obtain ⟨table, rest⟩ := r
  obtain ⟨table', rest'⟩ := r'
  obtain ⟨htable, rfl⟩ : table'.map w.name = table.map v.name ∧ rest' = rest.map f := by
    simpa using hdotted
  cases table <;> cases table' <;> simp only [Option.map_none, Option.map_some, reduceCtorEq,
    Option.some.injEq] at htable
  · rfl
  · have hlist := readColumnList?_map hf rest
    cases hc : readColumnList? rest <;> cases hc' : readColumnList? (rest.map f) <;>
      simp_all [InlineReference.reword, Prod.ext_iff, ← List.head?_map]

theorem readOptions_map {c c' : ColumnDefinition} (hc : c'.reword w = c.reword v) (ts : List Token) :
    (readOptions c' (ts.map f)).reword w = (readOptions c ts).reword v := by
  have hs := hf.toKeepsRole
  simp only [ColumnDefinition.reword, ColumnDefinition.mk.injEq] at hc
  fun_induction readOptions c ts generalizing c' with
  | case1 =>
    rw [List.map_nil, readOptions]
    simpa [ColumnDefinition.reword] using hc
  | case2 c t ts rest h ih =>
    rw [List.map_cons, readOptions_cons, ← List.map_cons, behind?_map hs, h]
    exact ih ⟨hc.1, hc.2.1, rfl, hc.2.2.2⟩
  | case3 c t ts hkey rest h ih =>
    rw [List.map_cons, readOptions_cons, ← List.map_cons, behind?_map hs, hkey, behind?_map hs, h]
    exact ih ⟨hc.1, hc.2.1, hc.2.2.1, rfl, hc.2.2.2.2⟩
  | case4 c t ts hkey hnull href reference =>
    rename_i ih
    have hreference := Prod.ext_iff.1 (readInlineReference_map hf ts)
    have hrest : (readInlineReference (ts.map f)).2 = reference.2.map f := hreference.2
    rw [List.map_cons, readOptions_cons, ← List.map_cons, behind?_map hs, hkey, behind?_map hs, hnull]
    simp only [Option.map_none, hs.isWord, if_pos href, hrest, skipReferentialActions_map hs]
    exact ih ⟨hc.1, hc.2.1, hc.2.2.1, hc.2.2.2.1, hreference.1⟩
  | case5 c t ts hkey hnull href hparen ih =>
    rw [List.map_cons, readOptions_cons, ← List.map_cons, behind?_map hs, hkey, behind?_map hs, hnull]
    simp only [Option.map_none, hs.isWord, if_neg href, hs.kind_eq_iff .leftParen rfl, if_pos hparen,
      splitGroup_map hs]
    exact ih hc
  | case6 c t ts hkey hnull href hparen ih =>
    rw [List.map_cons, readOptions_cons, ← List.map_cons, behind?_map hs, hkey, behind?_map hs, hnull]
    simp only [Option.map_none, hs.isWord, if_neg href, hs.kind_eq_iff .leftParen rfl, if_neg hparen]
    exact ih hc

theorem readTarget?_map {columns columns' : List String}
    (hc : columns'.map w.name = columns.map v.name) (ts : List Token) :
    (readTarget? columns' (ts.map f)).map (ForeignKeyClause.reword w) =
      (readTarget? columns ts).map (ForeignKeyClause.reword v) := by
  obtain ⟨htarget, hrest⟩ := Prod.ext_iff.1 (readDottedName_map hf ts)
  simp only [Prod.map_fst, Prod.map_snd, id] at htarget hrest
  have htargets : (((readColumnList? ((readDottedName ts).2.map f)).map (·.1)).getD []).map w.name =
      (((readColumnList? (readDottedName ts).2).map (·.1)).getD []).map v.name := by
    rw [← Option.getD_map (List.map w.name), ← Option.getD_map (List.map v.name), columns_map hf]
    rfl
  simp only [readTarget?, hrest, Option.map_map, Function.comp_def, ForeignKeyClause.reword, hc,
    htargets]
  simpa [Function.comp_def] using congrArg (Option.map fun target => ForeignKeyClause.mk
    (columns.map v.name) target
    ((((readColumnList? (readDottedName ts).2).map (·.1)).getD []).map v.name)) htarget

theorem readForeignKey?_map (ts : List Token) :
    (readForeignKey? (ts.map f)).map (ForeignKeyClause.reword w) =
      (readForeignKey? ts).map (ForeignKeyClause.reword v) := by
  rw [readForeignKey?_eq, readForeignKey?_eq, behindIndexName?_map hf.toKeepsRole]
  cases behindIndexName? ts with
  | none => rfl
  | some ts =>
    simp only [Option.map_some, Option.bind_some, Option.map_bind, Function.comp_def]
    refine bind_congr_of_map (readColumnList?_map hf ts) fun r' r hr => ?_
    obtain ⟨hcolumns, hrest⟩ := Prod.ext_iff.1 hr
    simp only [Prod.map_fst, Prod.map_snd, id] at hcolumns hrest
    rw [hrest, behind?_map hf.toKeepsRole]
    cases behind? ["REFERENCES"] r.2 with
    | none => rfl
    | some ts => exact readTarget?_map hf hcolumns ts

theorem readPrimaryKey?_map (ts : List Token) :
    (readPrimaryKey? (ts.map f)).map (List.map w.name) =
      (readPrimaryKey? ts).map (List.map v.name) := by
  rw [readPrimaryKey?, skipOneOf_map hf.toKeepsRole]
  exact columns_map hf _

theorem readUnique?_map (ts : List Token) :
    (readUnique? (ts.map f)).map (List.map w.name) = (readUnique? ts).map (List.map v.name) := by
  rw [readUnique?_eq, readUnique?_eq, skipOneOf_map hf.toKeepsRole, behindIndexName?_map hf.toKeepsRole]
  cases behindIndexName? (skipOneOf [["KEY"], ["INDEX"]] ts) with
  | none => rfl
  | some ts => exact columns_map hf ts

theorem readKey?_map (ts : List Token) :
    (readKey? (ts.map f)).map (TableElement.reword w) = (readKey? ts).map (TableElement.reword v) := by
  have hprimary (ts : List Token) :
      ((readPrimaryKey? (ts.map f)).map TableElement.primaryKey).map (TableElement.reword w) =
        ((readPrimaryKey? ts).map TableElement.primaryKey).map (TableElement.reword v) := by
    simpa [TableElement.reword, Function.comp_def] using
      congrArg (Option.map TableElement.primaryKey) (readPrimaryKey?_map hf ts)
  have hforeign (ts : List Token) :
      ((readForeignKey? (ts.map f)).map TableElement.foreignKey).map (TableElement.reword w) =
        ((readForeignKey? ts).map TableElement.foreignKey).map (TableElement.reword v) := by
    simpa [TableElement.reword, Function.comp_def] using
      congrArg (Option.map TableElement.foreignKey) (readForeignKey?_map hf ts)
  simp only [readKey?, behind?_map hf.toKeepsRole]
  cases behind? ["PRIMARY", "KEY"] ts with
  | some rest => exact hprimary rest
  | none =>
    cases behind? ["FOREIGN", "KEY"] ts with
    | some rest => exact hforeign rest
    | none => rfl

theorem readConstraint?_map (ts : List Token) :
    (readConstraint? (ts.map f)).map (TableElement.reword w) =
      (readConstraint? ts).map (TableElement.reword v) := by
  rw [readConstraint?_eq, readConstraint?_eq, behindConstraintName?_map hf.toKeepsRole]
  cases behindConstraintName? ts with
  | none => rfl
  | some ts => exact readKey?_map hf ts

theorem readClause?_map (kind : ConstraintKind) (ts : List Token) :
    (readClause? kind (ts.map f)).map (AddClause.reword w) =
      (readClause? kind ts).map (AddClause.reword v) := by
  cases kind with
  | primaryKey =>
    simpa [readClause?, AddClause.reword, Function.comp_def] using
      congrArg (Option.map AddClause.primaryKey) (readPrimaryKey?_map hf ts)
  | foreignKey =>
    simpa [readClause?, AddClause.reword, Function.comp_def] using
      congrArg (Option.map AddClause.foreignKey) (readForeignKey?_map hf ts)
  | unique =>
    simpa [readClause?, AddClause.reword, Function.comp_def] using
      congrArg (Option.map AddClause.unique) (readUnique?_map hf ts)

theorem readAddClause?_map (ts : List Token) :
    (readAddClause? (ts.map f)).map (AddClause.reword w) =
      (readAddClause? ts).map (AddClause.reword v) := by
  rw [readAddClause?_eq, readAddClause?_eq, behind?_map hf.toKeepsRole]
  cases behind? ["ADD"] ts with
  | none => rfl
  | some ts =>
    simp only [Option.map_some, Option.bind_some, behindConstraintName?_map hf.toKeepsRole]
    cases behindConstraintName? ts with
    | none => rfl
    | some ts =>
      simp only [Option.map_some, Option.bind_some, readKind?_map hf.toKeepsRole]
      cases readKind? ts with
      | none => rfl
      | some r => exact readClause?_map hf r.1 r.2

theorem readAlter?_map (ts : List Token) :
    (readAlter? (ts.map f)).map (AlterTable.reword w) =
      (readAlter? ts).map (AlterTable.reword v) := by
  have hs := hf.toKeepsRole
  rw [readAlter?_eq, readAlter?_eq, behind?_map hs]
  cases behind? ["ALTER", "TABLE"] ts with
  | none => rfl
  | some ts =>
    simp only [Option.map_some, Option.bind_some, skipPhrase_map hs]
    obtain ⟨hname, hrest⟩ := Prod.ext_iff.1
      (readDottedName_map hf (skipPhrase ["ONLY"] (skipPhrase ["IF", "EXISTS"] ts)))
    simp only [Prod.map_fst, Prod.map_snd, id] at hname hrest
    simp only [hrest, splitTopLevel_map hs, List.filterMap_map, Option.map_map, Function.comp_def,
      AlterTable.reword, List.map_filterMap, readAddClause?_map hf]
    simpa [Function.comp_def] using congrArg (Option.map fun name => AlterTable.mk name _) hname

theorem outlineOf_map {name name' : String} (hname : w.name name' = v.name name) (ts : List Token) :
    (outlineOf name' (ts.map f)).map w.name id = (outlineOf name ts).map v.name f := by
  have hs := hf.toKeepsRole
  simp only [outlineOf, startsWith_map hs .leftParen rfl, ← List.map_tail, splitTopLevel_map hs,
    startsWith_map hs .rightParen rfl]
  split
  · split <;> simp [TableOutline.map, hname]
  · simp [TableOutline.map, hname]

theorem readOutline?_map (ts : List Token) :
    (readOutline? (ts.map f)).map (TableOutline.map w.name id) =
      (readOutline? ts).map (TableOutline.map v.name f) := by
  have hs := hf.toKeepsRole
  rw [readOutline?_eq, readOutline?_eq, behind?_map hs]
  cases behind? ["CREATE"] ts with
  | none => rfl
  | some ts =>
    simp only [Option.map_some, Option.bind_some, skipTableOptions, skipPhrase_map hs,
      skipOneOf_map hs, behind?_map hs]
    cases behind? ["TABLE"] (skipOneOf [["TEMPORARY"], ["TEMP"], ["UNLOGGED"]]
        (skipOneOf [["GLOBAL"], ["LOCAL"]] (skipPhrase ["OR", "REPLACE"] ts))) with
    | none => rfl
    | some ts =>
      simp only [Option.map_some, Option.bind_some, skipPhrase_map hs]
      obtain ⟨hname, hrest⟩ := Prod.ext_iff.1
        (readDottedName_map hf (skipPhrase ["IF", "NOT", "EXISTS"] ts))
      simp only [Prod.map_fst, Prod.map_snd, id] at hname hrest
      rw [hrest, Option.map_map, Option.map_map, Option.map_eq_bind, Option.map_eq_bind]
      exact bind_congr_of_map hname fun name' name h => congrArg some (outlineOf_map hf h _)

end Readers

section Source

variable {f : Token → Token} {v w : Rewording} (hf : Renames f v w) {source source' : String}
  {ts : List Token} (htype : ∀ us, us <:+: ts →
    w.type (Text.collapse (sourceText source' (us.map f))) =
      v.type (Text.collapse (sourceText source us)))

include hf htype

theorem readColumn?_map :
    (readColumn? source' (ts.map f)).map (ColumnDefinition.reword w) =
      (readColumn? source ts).map (ColumnDefinition.reword v) := by
  have hs := hf.toKeepsRole
  have hname := readName?_map hf ts
  unfold readColumn?
  simp only [Option.bind_eq_bind]
  cases hread : readName? ts with
  | none =>
    rw [hread, Option.map_none, Option.map_eq_none_iff] at hname
    rw [hname]
    rfl
  | some r =>
    obtain ⟨name, rest⟩ := r
    obtain ⟨first, -, rfl⟩ := readName?_eq_some hread
    rw [hread, Option.map_some, Option.map_eq_some_iff] at hname
    obtain ⟨⟨name', rest'⟩, hread', heq⟩ := hname
    obtain ⟨hname, rfl⟩ : w.name name' = v.name name ∧ rest' = rest.map f := by simpa using heq
    rw [hread']
    simp only [Option.bind_some]
    cases rest with
    | nil => rfl
    | cons next rest =>
      have hinfix : next :: (readTypeTail rest).1 <:+: first :: next :: rest :=
        ⟨[first], (readTypeTail rest).2, by simp [readTypeTail_append]⟩
      have htext := htype _ hinfix
      have hrole := hf.role next
      have htail := readTypeTail_map hs rest
      rw [List.map_cons] at htext
      obtain ⟨kind, start, stop⟩ := next
      simp only [List.map_cons]
      generalize hnext : f ⟨kind, start, stop⟩ = next' at *
      obtain ⟨kind', start', stop'⟩ := next'
      cases kind <;> cases kind' <;> simp only [TokenKind.role, reduceCtorEq] at hrole
      case word.word text text' =>
        simp only [htail, Option.map_some]
        exact congrArg some (readOptions_map hf (by simp [ColumnDefinition.reword, hname, htext]) _)
      all_goals rfl

theorem readElement?_map :
    (readElement? source' (ts.map f)).map (TableElement.reword w) =
      (readElement? source ts).map (TableElement.reword v) := by
  have hs := hf.toKeepsRole
  simp only [readElement?, behind?_map hs, Option.isSome_map, opensConstraint_map hs]
  split
  · exact readConstraint?_map hf ts
  · simpa [TableElement.reword, Function.comp_def] using
      congrArg (Option.map TableElement.column) (readColumn?_map hf htype)

theorem readCreate?_map :
    (readCreate? source' (ts.map f)).map (CreateTable.reword w) =
      (readCreate? source ts).map (CreateTable.reword v) := by
  have hmap := readOutline?_map hf ts
  unfold readCreate?
  cases houtline : readOutline? ts with
  | none =>
    rw [houtline, Option.map_none, Option.map_eq_none_iff] at hmap
    rw [hmap]
    rfl
  | some outline =>
    rw [houtline, Option.map_some, Option.map_eq_some_iff] at hmap
    obtain ⟨outline', hread', heq⟩ := hmap
    rw [hread']
    cases outline <;> cases outline' <;> simp only [TableOutline.map, reduceCtorEq] at heq
    case body.body name items name' items' =>
      have hitems := (readOutline?_spec houtline).2
      obtain ⟨hname, rfl⟩ : w.name name' = v.name name ∧ items' = items.map (List.map f) := by
        simpa using heq
      simp only [Option.map_some, CreateTable.reword, hname, List.map_filterMap, List.filterMap_map,
        Option.some.injEq, CreateTable.mk.injEq, true_and]
      refine List.filterMap_congr fun item hitem => ?_
      exact readElement?_map hf fun us hus => htype us (hus.trans (hitems item hitem))
    all_goals rfl

theorem readStatement?_map :
    (readStatement? source' (ts.map f)).map (Statement.reword w) =
      (readStatement? source ts).map (Statement.reword v) := by
  have hcreate : ((readCreate? source' (ts.map f)).map Statement.create).map (Statement.reword w) =
      ((readCreate? source ts).map Statement.create).map (Statement.reword v) := by
    simpa [Statement.reword, Function.comp_def] using
      congrArg (Option.map Statement.create) (readCreate?_map hf htype)
  have halter : ((readAlter? (ts.map f)).map Statement.alter).map (Statement.reword w) =
      ((readAlter? ts).map Statement.alter).map (Statement.reword v) := by
    simpa [Statement.reword, Function.comp_def] using
      congrArg (Option.map Statement.alter) (readAlter?_map hf ts)
  rw [readStatement?, readStatement?, Option.map_or, Option.map_or, hcreate, halter]

/-- Tokens with other names are read as the same statements with other names. -/
theorem readStatements_map :
    (readStatements source' (ts.map f)).map (Statement.reword w) =
      (readStatements source ts).map (Statement.reword v) := by
  rw [readStatements, readStatements, splitStatements_map hf.toKeepsRole, List.filterMap_map,
    List.map_filterMap, List.map_filterMap]
  refine List.filterMap_congr fun statement h => ?_
  exact readStatement?_map hf fun us hus => htype us (hus.trans (splitStatements_isInfix h))

end Source

end SqlSchema
