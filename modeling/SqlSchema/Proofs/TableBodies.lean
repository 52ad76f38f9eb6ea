import Mathlib.Data.List.Induction
import SqlSchema.Proofs.EdgeSources
/-!
# Table bodies

What a table body declares, said of its elements at once and not of one after the other: its columns are
those that it defines, each by its first definition, keys count wherever they stand, and of several
bindings of a column the last one counts.
-/
namespace SqlSchema

section Elements

/-- The column that a foreign key refers to from its `i`-th column. -/
def ForeignKeyClause.targetAt (k : ForeignKeyClause) (i : Nat) (column : String) : String :=
  match k.targetColumns[i]?, k.targetColumns with
  | some target, _ => target
  | none, first :: _ => first
  | none, [] => column

namespace TableElement

def definition? : TableElement → Option ColumnDefinition
  | .column d => some d
  | _ => none

/-- The columns that an element makes primary keys. -/
def keys : TableElement → List String
  | .column d => if d.primaryKey then [d.name] else []
  | .primaryKey columns => columns
  | .foreignKey _ => []

/-- Whether the element is a primary key over the column. -/
def isKeyOver (name : String) : TableElement → Bool
  | .primaryKey columns => columns.contains name
  | _ => false

/-- The columns that an element binds, each with the column that it refers to. -/
def bindings : TableElement → List (String × ColumnRef)
  | .column d =>
    match d.references with
    | none => []
    | some r => [(d.name, ⟨r.table, r.column.getD d.name⟩)]
  | .primaryKey _ => []
  | .foreignKey k => k.columns.mapIdx fun i name => (name, ⟨k.target, k.targetAt i name⟩)

/-- Whether the element defines a column that one of those before it defines. -/
def repeats (e : TableElement) (before : List TableElement) : Bool :=
  e.definition?.any fun d => (before.filterMap definition?).any fun d' => d'.name == d.name

end TableElement

namespace CreateTable

/-- The elements without repeated definitions. -/
def retained (c : CreateTable) : List TableElement :=
  (c.elements.zipIdx.filter fun p => !p.1.repeats (c.elements.take p.2)).map (·.1)

def definitions (c : CreateTable) : List ColumnDefinition :=
  c.retained.filterMap TableElement.definition?

def bindings (c : CreateTable) : List (String × ColumnRef) := c.retained.flatMap TableElement.bindings

/-- The column that a name is bound to last. -/
def target? (c : CreateTable) (name : String) : Option ColumnRef :=
  (c.bindings.filter fun b => b.1 == name).getLast?.map (·.2)

/-- The column that a definition declares, with the keys of all elements. -/
def columnOf (c : CreateTable) (d : ColumnDefinition) : Column where
  name := d.name
  type := d.type
  isPrimaryKey := d.primaryKey || c.elements.any (·.isKeyOver d.name)
  isForeignKey := (c.target? d.name).isSome
  isNullable := !d.notNull
  foreignKeyRef := c.target? d.name

end CreateTable

end Elements

section Drafts

theorem TableElement.bindings_column (d : ColumnDefinition) :
    (TableElement.column d).bindings = (TableDraft.inlineBinding d).toList := by
  rw [bindings, TableDraft.inlineBinding]
  cases d.references <;> rfl

theorem TableElement.bindings_foreignKey (k : ForeignKeyClause) :
    (TableElement.foreignKey k).bindings = TableDraft.clauseBindings k := by
  have htarget (i : Nat) (column : String) :
      (k.targetColumns[i]?.or k.targetColumns.head?).getD column = k.targetAt i column := by
    unfold ForeignKeyClause.targetAt
    cases k.targetColumns[i]? <;> cases k.targetColumns <;> rfl
  simp only [bindings, TableDraft.clauseBindings, columnPairs, List.mapIdx_eq_zipIdx_map, List.map_map,
    Function.comp_def, htarget]

theorem mem_definitions_iff (es : List TableElement) (d : ColumnDefinition) :
    d ∈ es.filterMap TableElement.definition? ↔ .column d ∈ es := by
  rw [List.mem_filterMap]
  constructor
  · rintro ⟨e, he, hd⟩
    cases e <;> simp_all [TableElement.definition?]
  · intro h
    exact ⟨_, h, rfl⟩

namespace CreateTable

theorem retained_concat (name : String) (es : List TableElement) (e : TableElement) :
    (CreateTable.mk name (es ++ [e])).retained =
      (CreateTable.mk name es).retained ++ if e.repeats es then [] else [e] := by
  have hfront : es.zipIdx.filter (fun p => !p.1.repeats ((es ++ [e]).take p.2)) =
      es.zipIdx.filter fun p => !p.1.repeats (es.take p.2) := by
    apply List.filter_congr
    intro p hp
    have hlt : p.2 < es.length := by
      have := List.snd_lt_of_mem_zipIdx hp
      omega
    rw [List.take_append_of_le_length hlt.le]
  have hlast : ([e].zipIdx es.length).filter (fun p => !p.1.repeats ((es ++ [e]).take p.2)) =
      if e.repeats es then [] else [(e, es.length)] := by
    cases h : e.repeats es <;> simp [h]
  simp only [retained, List.zipIdx_append, List.filter_append, Nat.zero_add, hfront, hlast]
  split <;> simp

theorem hasColumn_draft (name : String) (es : List TableElement) (d : ColumnDefinition) :
    (CreateTable.mk name es).draft.hasColumn d.name = (TableElement.column d).repeats es := by
  have hmem := mem_draft_columns ⟨name, es⟩ d.name
  rw [Bool.eq_iff_iff, TableDraft.hasColumn, TableElement.repeats]
  simp only [List.any_eq_true, beq_iff_eq, TableElement.definition?, Option.any_some,
    mem_definitions_iff]
  simpa using hmem

/-- A draft holds what the retained elements give. -/
theorem draft_eq_retained (c : CreateTable) :
    c.draft = ⟨c.name, c.definitions, c.retained.flatMap TableElement.keys, c.bindings⟩ := by
  obtain ⟨name, elements⟩ := c
  induction elements using List.reverseRecOn with
  | nil => rfl
  | append_singleton es e ih =>
    rw [draft_concat, definitions, bindings, retained_concat]
    cases e with
    | primaryKey columns =>
      rw [ih, TableDraft.add]
      simp [definitions, bindings, TableElement.repeats, TableElement.definition?, TableElement.keys,
        TableElement.bindings]
    | foreignKey k =>
      rw [ih, TableDraft.add, ← TableElement.bindings_foreignKey]
      simp [definitions, bindings, TableElement.repeats, TableElement.definition?, TableElement.keys]
    | column d =>
      rw [TableDraft.add, TableDraft.addColumn, hasColumn_draft, ih, ← TableElement.bindings_column]
      cases (TableElement.column d).repeats es with
      | true => simp [definitions, bindings]
      | false =>
        cases hkey : d.primaryKey <;>
          simp [definitions, bindings, TableElement.definition?, TableElement.keys, hkey]

theorem draft_retained (c : CreateTable) : (CreateTable.mk c.name c.retained).draft = c.draft := by
  obtain ⟨name, elements⟩ := c
  induction elements using List.reverseRecOn with
  | nil => rfl
  | append_singleton es e ih =>
    rw [retained_concat, draft_concat]
    cases hrepeats : e.repeats es with
    | false => rw [if_neg (by simp), draft_concat, ih]
    | true =>
      rw [if_pos rfl, List.append_nil, ih]
      cases e with
      | column d => rw [TableDraft.add, TableDraft.addColumn, hasColumn_draft, hrepeats, if_pos rfl]
      | primaryKey columns => simp [TableElement.repeats, TableElement.definition?] at hrepeats
      | foreignKey k => simp [TableElement.repeats, TableElement.definition?] at hrepeats

theorem mem_retained_iff (c : CreateTable) (e : TableElement) :
    e ∈ c.retained ↔ ∃ i, c.elements[i]? = some e ∧ e.repeats (c.elements.take i) = false := by
  simp [retained, List.mem_zipIdx_iff_getElem?]

theorem primaryKey_mem_retained_iff (c : CreateTable) (columns : List String) :
    .primaryKey columns ∈ c.retained ↔ .primaryKey columns ∈ c.elements := by
  rw [mem_retained_iff, List.mem_iff_getElem?]
  simp [TableElement.repeats, TableElement.definition?]

theorem definitions_nodup (c : CreateTable) : (c.definitions.map (·.name)).Nodup := by
  have hnames := draft_table_names c
  rwa [TableDraft.table_names, draft_eq_retained] at hnames

theorem mem_keys_iff (c : CreateTable) {d : ColumnDefinition} (hd : d ∈ c.definitions) :
    d.name ∈ c.retained.flatMap TableElement.keys ↔
      d.primaryKey ∨ ∃ e ∈ c.elements, e.isKeyOver d.name := by
  rw [List.mem_flatMap]
  constructor
  · rintro ⟨e, he, hname⟩
    cases e with
    | column d' =>
      have hd' : d' ∈ c.definitions := (mem_definitions_iff c.retained d').2 he
      cases hkey : d'.primaryKey with
      | false => simp [TableElement.keys, hkey] at hname
      | true =>
        -- no two definitions share a name, so the one that is a key is `d`
        have hsame : d.name = d'.name := by simpa [TableElement.keys, hkey] using hname
        obtain rfl := List.inj_on_of_nodup_map c.definitions_nodup hd hd' hsame
        exact .inl hkey
    | primaryKey columns =>
      have hmem := (c.primaryKey_mem_retained_iff columns).1 he
      exact .inr ⟨_, hmem, by simpa [TableElement.keys, TableElement.isKeyOver] using hname⟩
    | foreignKey k => simp [TableElement.keys] at hname
  · rintro (hkey | ⟨e, he, hover⟩)
    · exact ⟨_, (mem_definitions_iff c.retained d).1 hd, by simp [TableElement.keys, hkey]⟩
    · cases e with
      | primaryKey columns =>
        have hmem := (c.primaryKey_mem_retained_iff columns).2 he
        exact ⟨_, hmem, by simpa [TableElement.keys, TableElement.isKeyOver] using hover⟩
      | column d' => simp [TableElement.isKeyOver] at hover
      | foreignKey k => simp [TableElement.isKeyOver] at hover

/-- A table has the columns that its body defines, each by its first definition: a primary key if that
definition or any primary key of the body says so, and with the last of its bindings as a reference. Every
binding gives a relationship, in order. Repeated definitions give nothing. -/
theorem draft_declared (c : CreateTable) :
    c.draft.table = ⟨c.name, c.definitions.map c.columnOf⟩ ∧
      c.draft.relationships =
        c.bindings.map (fun b => .oneToMany c.name b.1 b.2.table b.2.column) ∧
      (CreateTable.mk c.name c.retained).draft = c.draft := by
  refine ⟨?_, ?_, c.draft_retained⟩
  · rw [draft_eq_retained, TableDraft.table]
    congr 1
    apply List.map_congr_left
    intro d hd
    have hkey : (c.retained.flatMap TableElement.keys).contains d.name =
        (d.primaryKey || c.elements.any (·.isKeyOver d.name)) := by
      rw [Bool.eq_iff_iff, List.contains_iff_mem, c.mem_keys_iff hd, Bool.or_eq_true, List.any_eq_true]
    rw [TableDraft.columnOf, columnOf, hkey]
    simp only [TableDraft.binding?, target?, List.getLast?_filter]
  · rw [TableDraft.relationships_eq, draft_eq_retained]
    rfl

end CreateTable

end Drafts

end SqlSchema
