import SqlSchema.Proofs.References
import SqlSchema.Proofs.StatementTexts
/-!
# Keys that are added later

A key that an ALTER TABLE statement adds does to its table what it would have done inside of the
CREATE TABLE statement. Only a foreign key of columns that the table does not have differs: added later,
it gives no relationships for them.
-/
namespace SqlSchema

section Drafts

theorem TableDraft.addAll_name (d : TableDraft) (es : List TableElement) : (d.addAll es).name = d.name := by
  induction es generalizing d with
  | nil => rfl
  | cons e es ih =>
    have hadd : (d.add e).name = d.name := by
      cases e with
      | column c =>
        rw [add, addColumn]
        split <;> rfl
      | primaryKey columns => rfl
      | foreignKey clause => rfl
    exact (ih (d.add e)).trans hadd

theorem CreateTable.draft_name (c : CreateTable) : c.draft.name = c.name :=
  TableDraft.addAll_name (TableDraft.empty c.name) c.elements

theorem CreateTable.draft_concat (name : String) (es : List TableElement) (e : TableElement) :
    (CreateTable.mk name (es ++ [e])).draft = (CreateTable.mk name es).draft.add e := by
  simp [draft, TableDraft.addAll]

/-- The bindings that an element adds to those of columns. -/
def TableElement.keyBindings : TableElement → List (String × ColumnRef)
  | .foreignKey clause => TableDraft.clauseBindings clause
  | _ => []

variable {d : TableDraft} (hd : (d.table.columns.map (·.name)).Nodup)

include hd

theorem TableDraft.table_add_primaryKey (columns : List String) :
    (d.add (.primaryKey columns)).table = d.table.withKeys columns := by
  rw [Table.withKeys_eq hd]
  simp only [table, add, List.map_map]
  congr 1
  apply List.map_congr_left
  intro c _
  by_cases hc : c.name ∈ columns <;> simp [columnOf, Column.asPrimaryKey, binding?, hc]

theorem TableDraft.table_add_foreignKey (clause : ForeignKeyClause) :
    (d.add (.foreignKey clause)).table = d.table.bind (clauseBindings clause) := by
  rw [Table.bind_eq hd]
  simp only [table, add, List.map_map]
  congr 1
  apply List.map_congr_left
  intro c _
  have hbinding : binding? { d with bindings := d.bindings ++ clauseBindings clause } c.name =
      (lastBinding? (clauseBindings clause) c.name).or (d.binding? c.name) :=
    lastBinding?_append d.bindings (clauseBindings clause) c.name
  rw [columnOf, hbinding]
  cases hlast : lastBinding? (clauseBindings clause) c.name <;>
    simp [columnOf, hlast, Column.withReference]

end Drafts

section Missing

theorem lastBinding?_filter {p : String × ColumnRef → Bool} {name : String} (hp : ∀ r, p (name, r))
    (bindings : List (String × ColumnRef)) :
    lastBinding? (bindings.filter p) name = lastBinding? bindings name := by
  have hname : (fun b : String × ColumnRef => decide (p b ∧ b.1 == name)) = fun b => b.1 == name := by
    funext ⟨n, r⟩
    by_cases hn : n = name
    · simp [hn, hp r]
    · simp [hn]
  rw [lastBinding?, lastBinding?, ← List.filter_reverse, List.find?_filter, hname]

variable {t : Table}

theorem Table.isSome_column? {name : String} : (t.column? name).isSome ↔ name ∈ t.columns.map (·.name) := by
  simp [column?]

theorem Table.bind_filter (h : (t.columns.map (·.name)).Nodup) (bindings : List (String × ColumnRef)) :
    t.bind (bindings.filter fun b => (t.column? b.1).isSome) = t.bind bindings := by
  rw [bind_eq h, bind_eq h]
  congr 1
  apply List.map_congr_left
  intro c hc
  have hmem : (t.column? c.name).isSome := isSome_column?.2 (List.mem_map_of_mem hc)
  rw [lastBinding?_filter fun _ => hmem]

theorem Table.bind_names (h : (t.columns.map (·.name)).Nodup) (bindings : List (String × ColumnRef)) :
    (t.bind bindings).columns.map (·.name) = t.columns.map (·.name) := by
  rw [bind_eq h]
  simp [Function.comp_def]

end Missing

section Added

variable {k : TableElement} {clause : AddClause}

/-- What waits for its table to exist when a clause adds to it. -/
def AddClause.pendingOn (table : String) (clause : AddClause) : PendingConstraint where
  table := table
  kind := clause.kind
  columns := clause.columns
  target := clause.target?.map (·.1)
  targetColumns := (clause.target?.map (·.2)).getD []

theorem bindingsIn_clause (name : String) (f : ForeignKeyClause) (t : Table) :
    ((AddClause.foreignKey f).pendingOn name).bindingsIn t f.target =
      (TableDraft.clauseBindings f).filter fun b => (t.column? b.1).isSome := by
  simp [PendingConstraint.bindingsIn, PendingConstraint.pairsIn, TableDraft.clauseBindings,
    List.filter_map, Function.comp_def, AddClause.pendingOn, AddClause.columns, AddClause.target?]

/-- A key that is applied to a table does what it does inside of the table, less the relationships of
columns that the table does not have. -/
theorem apply_pendingOn (c : CreateTable) (hk : k.addClause? = some clause) :
    let table := (CreateTable.mk c.name (c.elements ++ [k])).draft.table
    (clause.pendingOn c.name).apply ⟨[c.draft.table], c.draft.relationships⟩ =
      ⟨[table], c.draft.relationships ++ (k.keyBindings.map (bindingEdge c.name)).filter
        fun r => (table.column? r.sourceColumn).isSome⟩ := by
  intro table
  have hnames := draft_table_names c
  have hname : c.draft.table.name = c.name := c.draft_name
  have htable : table = (c.draft.add k).table := by rw [← CreateTable.draft_concat]
  have hfound : Schema.table? ⟨[c.draft.table], c.draft.relationships⟩ c.name = some c.draft.table := by
    simp [Schema.table?, hname]
  have hupdate (f : Table → Table) :
      Schema.updateTable ⟨[c.draft.table], c.draft.relationships⟩ c.name f =
        ⟨[f c.draft.table], c.draft.relationships⟩ := by
    simp [Schema.updateTable, updateFirst, hname]
  cases k with
  | column definition => simp [TableElement.addClause?] at hk
  | primaryKey columns =>
    obtain rfl := Option.some.inj hk
    rw [PendingConstraint.apply_primaryKey hfound rfl, htable, TableDraft.table_add_primaryKey hnames]
    simp only [TableElement.keyBindings, List.map_nil, List.filter_nil, List.append_nil]
    exact hupdate _
  | foreignKey f =>
    obtain rfl := Option.some.inj hk
    have hbind := TableDraft.table_add_foreignKey hnames f
    -- the key defines no column, so both tables can be asked which columns there are
    have hcolumn (column : String) :
        (table.column? column).isSome = (c.draft.table.column? column).isSome := by
      rw [Bool.eq_iff_iff, Table.isSome_column?, Table.isSome_column?, htable, hbind,
        Table.bind_names hnames]
    rw [PendingConstraint.apply_foreignKey hfound rfl rfl, bindingsIn_clause, hname]
    simp only [AddClause.pendingOn] at hupdate ⊢
    rw [hupdate, Table.bind_filter hnames, ← hbind, ← htable]
    simp only [hcolumn, List.filter_map, TableElement.keyBindings]
    rfl

/-- Inside of its table, a key gives its relationships behind those of the other elements. -/
theorem relationships_concat (c : CreateTable) (hk : k.addClause? = some clause) :
    (CreateTable.mk c.name (c.elements ++ [k])).draft.relationships =
      c.draft.relationships ++ k.keyBindings.map (bindingEdge c.name) := by
  have hname : (c.draft.add k).name = c.name := by
    rw [← CreateTable.draft_concat, CreateTable.draft_name]
  rw [CreateTable.draft_concat, TableDraft.relationships_eq, TableDraft.relationships_eq, hname,
    c.draft_name, ← List.map_append]
  cases k with
  | column definition => simp [TableElement.addClause?] at hk
  | primaryKey columns => simp [TableDraft.add, TableElement.keyBindings]
  | foreignKey f => rfl

/-- The relationships that a key of a table declares, if there is one. -/
def addedEdges (name : String) (k? : Option TableElement) : List Relationship :=
  (k?.toList.flatMap TableElement.keyBindings).map (bindingEdge name)

/-- The schema with its relationships deduplicated, if that is asked for. -/
def Schema.dedupIf (s : Schema) (dedup : Bool) : Schema := if dedup then s.dedupRelationships else s

theorem schemaOf_create (dedup : Bool) (c : CreateTable) (alters : List AlterTable) :
    schemaOf dedup (.create c :: alters.map .alter) =
      ((Schema.mk [c.draft.table] c.draft.relationships).reconcile
        (alters.flatMap AlterTable.pending)).dedupIf dedup := by
  have hcreate : (Statement.create c :: alters.map .alter).filterMap Statement.create? = [c] := by
    rw [List.filterMap_cons]
    simp [Statement.create?, List.filterMap_map, Function.comp_def]
  have halter : (Statement.create c :: alters.map .alter).filterMap Statement.alter? = alters := by
    rw [List.filterMap_cons]
    simp [Statement.alter?, List.filterMap_map, Function.comp_def]
  rw [schemaOf, declaredSchema, pendingConstraints, hcreate, halter]
  simp [Schema.dedupIf]

/-- A key inside of the only table, and the same key in a clause behind it. -/
theorem schemaOf_added (dedup : Bool) (c : CreateTable) {k? : Option TableElement}
    (hk : ∀ k ∈ k?, ∃ clause, k.addClause? = some clause) :
    let table := (CreateTable.mk c.name (c.elements ++ k?.toList)).draft.table
    let edges := addedEdges c.name k?
    schemaOf dedup [.create ⟨c.name, c.elements ++ k?.toList⟩] =
        (Schema.mk [table] (c.draft.relationships ++ edges)).dedupIf dedup ∧
      schemaOf dedup [.create c, .alter ⟨c.name, (k?.bind TableElement.addClause?).toList⟩] =
        (Schema.mk [table] (c.draft.relationships ++
          edges.filter fun r => (table.column? r.sourceColumn).isSome)).dedupIf dedup := by
  intro table edges
  have hinside := schemaOf_create dedup ⟨c.name, c.elements ++ k?.toList⟩ []
  have hadded := schemaOf_create dedup c [⟨c.name, (k?.bind TableElement.addClause?).toList⟩]
  simp only [List.map_nil, List.map_cons, List.flatMap_nil, List.flatMap_singleton] at hinside hadded
  rw [hinside, hadded]
  cases k? with
  | none =>
    have hsame : table = c.draft.table := by simp [table]
    have hnone : edges = [] := rfl
    simp [hsame, hnone, Schema.reconcile, AlterTable.pending]
  | some k =>
    obtain ⟨clause, hclause⟩ := hk k rfl
    have hedges : edges = k.keyBindings.map (bindingEdge c.name) := by
      simp [edges, addedEdges]
    have happly := apply_pendingOn c hclause
    rw [Option.toList_some, relationships_concat c hclause, hedges, Option.bind_some, hclause]
    exact ⟨rfl, congrArg (Schema.dedupIf · dedup) happly⟩

end Added

section Scripts

theorem exists_addClause_of_opensKey {source : String} {ts : List Token} (h : opensKey ts)
    {k : TableElement} (hk : readElement? source ts = some k) : ∃ clause, k.addClause? = some clause := by
  cases k with
  | column c =>
    rw [readElement?_of_opensKey source h, readConstraint?_eq] at hk
    obtain ⟨rest, -, hkey⟩ := Option.bind_eq_some_iff.1 hk
    rw [readKey?] at hkey
    split at hkey
    · obtain ⟨columns, -, heq⟩ := Option.map_eq_some_iff.1 hkey
      cases heq
    · obtain ⟨more, -, hkey⟩ := Option.bind_eq_some_iff.1 hkey
      obtain ⟨clause, -, heq⟩ := Option.map_eq_some_iff.1 hkey
      cases heq
  | primaryKey columns => exact ⟨_, rfl⟩
  | foreignKey clause => exact ⟨_, rfl⟩

variable {options : ReadOptions} {d : Dialect} {t c name : String} {es : List String}

/-- A key means the same inside of CREATE TABLE and in an ALTER TABLE statement behind it: the tables are
the same, and so are the relationships, except that those are left out which start at a column that the
table does not have. -/
theorem readSchema_added_key (hsize : (createText t (es ++ [c])).utf8ByteSize ≤ options.maxBytes)
    (hsize' : (createText t es ++ " " ++ addText t c).utf8ByteSize ≤ options.maxBytes)
    (hd : options.dialect.resolve (Text.normalize (createText t (es ++ [c]))) = d)
    (ht : IsTableName d (Text.packed t) name) (hes : ∀ e ∈ es, IsElement d (Text.packed e))
    (hc : IsElement d (Text.packed c))
    (hkey : opensKey (tokensIn 0 (elementPieces d (Text.packed c)))) :
    ∃ table declared edges, edges = addedEdges name (elementOf? (elementPieces d (Text.packed c))) ∧
      readSchema options (createText t (es ++ [c])) =
        .ok ((Schema.mk [table] (declared ++ edges)).dedupIf options.dedup) ∧
      readSchema options (createText t es ++ " " ++ addText t c) =
        .ok ((Schema.mk [table] (declared ++
          edges.filter fun r => (table.column? r.sourceColumn).isSome)).dedupIf options.dedup) ∧
      ((∀ r ∈ edges, (table.column? r.sourceColumn).isSome) →
        readSchema options (createText t (es ++ [c])) =
          readSchema options (createText t es ++ " " ++ addText t c)) := by
  have hall : ∀ e ∈ (es ++ [c]).map Text.packed, IsElement d e := by
    simpa [or_imp, forall_and] using ⟨hes, hc⟩
  have hrows : ∀ e ∈ es.map Text.packed, IsElement d e := by simpa using hes
  have htexts : (es ++ [c]).map Text.packed = es.map Text.packed ++ [Text.packed c] := by simp
  have hnormal := normalize_createText t (es ++ [c])
  rw [hnormal] at hd
  have hinside := readSchema_of_normalize hnormal hd hsize (by rw [scan_createText ht hall])
  have hd' : options.dialect.resolve
      (createText (Text.packed t) (es.map Text.packed) ++ " " ++
        addText (Text.packed t) (Text.packed c)) = d := by
    rw [htexts] at hd
    exact (Dialect.resolve_congr (detect_addText _ _ _) options.dialect).trans hd
  have hadded := readSchema_of_normalize (normalize_addText t c es) hd' hsize'
    (by rw [scan_addText ht hrows hc])
  rw [readStatements_createText ht hall, htexts, List.map_append, List.filterMap_append] at hinside
  rw [readStatements_addText ht hrows hc hkey] at hadded
  have hclause : ∀ k ∈ elementOf? (elementPieces d (Text.packed c)),
      ∃ clause, k.addClause? = some clause :=
    fun k hk => exists_addClause_of_opensKey hkey hk
  have hlast : ([Text.packed c].map (elementPieces d)).filterMap elementOf? =
      (elementOf? (elementPieces d (Text.packed c))).toList := by
    cases hk : elementOf? (elementPieces d (Text.packed c)) <;> simp [hk]
  obtain ⟨hschema, hschema'⟩ := schemaOf_added options.dedup
    ⟨name, ((es.map Text.packed).map (elementPieces d)).filterMap elementOf?⟩ hclause
  rw [hlast, hschema] at hinside
  rw [hschema'] at hadded
  refine ⟨_, _, _, rfl, hinside, hadded, fun hcolumns => ?_⟩
  rw [hinside, hadded, List.filter_eq_self.2 hcolumns]

theorem readSchema_added_key_orders :
    ∃ table declared edges,
      edges = [.oneToMany "o" "u" "users" "id", .oneToMany "o" "x" "users" "id"] ∧
      readSchema { ReadOptions.default with dialect := .auto }
        (createText "o" (["id INT -- the key\n\n", "u INT"] ++
          ["CONSTRAINT k FOREIGN KEY (u, x) REFERENCES users (id)"])) =
          .ok ((Schema.mk [table] (declared ++ edges)).dedupIf false) ∧
      readSchema { ReadOptions.default with dialect := .auto }
        (createText "o" ["id INT -- the key\n\n", "u INT"] ++ " " ++
          addText "o" "CONSTRAINT k FOREIGN KEY (u, x) REFERENCES users (id)") =
          .ok ((Schema.mk [table] (declared ++
            edges.filter fun r => (table.column? r.sourceColumn).isSome)).dedupIf false) := by
  have ht : IsTableName .generic (Text.packed "o") "o" := by with_unfolding_all decide
  have hes : ∀ e ∈ ["id INT -- the key\n\n", "u INT"], IsElement .generic (Text.packed e) := by
    with_unfolding_all decide
  have hc : IsElement .generic
      (Text.packed "CONSTRAINT k FOREIGN KEY (u, x) REFERENCES users (id)") := by
    with_unfolding_all decide
  have hkey : opensKey (tokensIn 0 (elementPieces .generic
      (Text.packed "CONSTRAINT k FOREIGN KEY (u, x) REFERENCES users (id)"))) := by
    with_unfolding_all decide
  obtain ⟨table, declared, edges, hedges, hinside, hadded, -⟩ :=
    @readSchema_added_key { ReadOptions.default with dialect := .auto } _ _ _ _ _ (by decide)
      (by decide) (by decide) ht hes hc hkey
  refine ⟨table, declared, edges, ?_, hinside, hadded⟩
  rw [hedges]
  with_unfolding_all decide

end Scripts

end SqlSchema
