import SqlSchema.Proofs.AddedKeys
/-!
# Where relationships start

A relationship starts at a foreign key column of its table, unless a foreign key in a CREATE TABLE body
names a column that the body does not define. Of the three places that give relationships only that one
does not ask for the column.
-/
namespace SqlSchema

def Table.HasForeignKey (t : Table) (name : String) : Prop :=
  ∃ c ∈ t.columns, c.name = name ∧ c.isForeignKey

instance (t : Table) (name : String) : Decidable (t.HasForeignKey name) :=
  inferInstanceAs (Decidable (∃ c ∈ t.columns, c.name = name ∧ c.isForeignKey))

/-- The schema has the column that the relationship starts at, as a foreign key. -/
def Schema.StartsAtColumn (s : Schema) (r : Relationship) : Prop :=
  ∃ t ∈ s.tables, t.name = r.source ∧ t.HasForeignKey r.sourceColumn

instance (s : Schema) (r : Relationship) : Decidable (s.StartsAtColumn r) :=
  inferInstanceAs (Decidable (∃ t ∈ s.tables, t.name = r.source ∧ t.HasForeignKey r.sourceColumn))

/-- The relationship belongs to a foreign key in a CREATE TABLE body that does not define its column. -/
def IsLoose (statements : List Statement) (r : Relationship) : Prop :=
  ∃ c, .create c ∈ statements ∧ ∃ k, .foreignKey k ∈ c.elements ∧
    ∃ b ∈ TableDraft.clauseBindings k, r = bindingEdge c.name b ∧
      ∀ definition, .column definition ∈ c.elements → definition.name ≠ b.1

section Drafts

namespace TableDraft

theorem table_names (d : TableDraft) : d.table.columns.map (·.name) = d.columns.map (·.name) := by
  simp [table, columnOf, Function.comp_def]

theorem mem_add_columns (d : TableDraft) (e : TableElement) (name : String) :
    name ∈ (d.add e).columns.map (·.name) ↔
      name ∈ d.columns.map (·.name) ∨ ∃ c, e = .column c ∧ c.name = name := by
  cases e with
  | primaryKey columns => simp [add]
  | foreignKey k => simp [add]
  | column c =>
    rw [add, addColumn]
    split
    · next h =>
      have hmem : c.name ∈ d.columns.map (·.name) := by simpa [hasColumn] using h
      constructor
      · exact .inl
      · rintro (h | ⟨_, heq, rfl⟩)
        · exact h
        · obtain rfl := TableElement.column.inj heq
          exact hmem
    · simp [or_comm, eq_comm]

theorem mem_add_bindings {d : TableDraft} {e : TableElement} {b : String × ColumnRef}
    (h : b ∈ (d.add e).bindings) :
    b ∈ d.bindings ∨ b.1 ∈ (d.add e).columns.map (·.name) ∨
      ∃ k, e = .foreignKey k ∧ b ∈ clauseBindings k := by
  cases e with
  | primaryKey columns => exact .inl h
  | foreignKey k =>
    rcases List.mem_append.1 h with h | h
    · exact .inl h
    · exact .inr (.inr ⟨k, rfl, h⟩)
  | column c =>
    have hname : c.name ∈ (d.add (.column c)).columns.map (·.name) :=
      (mem_add_columns d _ _).2 (.inr ⟨c, rfl, rfl⟩)
    rw [add, addColumn] at h
    split at h
    · exact .inl h
    · rcases List.mem_append.1 h with h | h
      · exact .inl h
      · obtain ⟨r, -, rfl⟩ := Option.map_eq_some_iff.1 (Option.mem_toList.1 h)
        exact .inr (.inl hname)

theorem bindings_subset_add (d : TableDraft) (e : TableElement) : d.bindings ⊆ (d.add e).bindings := by
  cases e with
  | primaryKey columns => exact List.Subset.refl _
  | foreignKey k => exact List.subset_append_left _ _
  | column c =>
    rw [add, addColumn]
    split
    · exact List.Subset.refl _
    · exact List.subset_append_left _ _

theorem hasForeignKey_table {d : TableDraft} {b : String × ColumnRef} (hb : b ∈ d.bindings)
    (hname : b.1 ∈ d.columns.map (·.name)) : d.table.HasForeignKey b.1 := by
  obtain ⟨c, hc, hname⟩ := List.mem_map.1 hname
  refine ⟨d.columnOf c, List.mem_map_of_mem hc, hname, ?_⟩
  have hfind : (d.bindings.reverse.find? fun x => x.1 == c.name).isSome :=
    List.find?_isSome.2 ⟨b, List.mem_reverse.2 hb, by simp [hname]⟩
  simpa [columnOf, binding?] using hfind

end TableDraft

namespace CreateTable

theorem mem_draft_columns (c : CreateTable) (name : String) :
    name ∈ c.draft.columns.map (·.name) ↔
      ∃ definition, .column definition ∈ c.elements ∧ definition.name = name := by
  obtain ⟨table, elements⟩ := c
  induction elements using List.reverseRecOn with
  | nil => simp [draft, TableDraft.addAll, TableDraft.empty]
  | append_singleton es e ih =>
    rw [draft_concat, TableDraft.mem_add_columns, ih]
    simp only [List.mem_append, List.mem_singleton, or_and_right, exists_or, eq_comm]

theorem mem_draft_bindings {c : CreateTable} {b : String × ColumnRef} (h : b ∈ c.draft.bindings) :
    b.1 ∈ c.draft.columns.map (·.name) ∨
      ∃ k, .foreignKey k ∈ c.elements ∧ b ∈ TableDraft.clauseBindings k := by
  obtain ⟨table, elements⟩ := c
  induction elements using List.reverseRecOn with
  | nil => simp [draft, TableDraft.addAll, TableDraft.empty] at h
  | append_singleton es e ih =>
    rw [draft_concat] at h ⊢
    rcases TableDraft.mem_add_bindings h with h | h | ⟨k, rfl, hb⟩
    · rcases ih h with h | ⟨k, hk, hb⟩
      · exact .inl ((TableDraft.mem_add_columns _ _ _).2 (.inl h))
      · exact .inr ⟨k, by simp [hk], hb⟩
    · exact .inl h
    · exact .inr ⟨k, by simp, hb⟩

theorem mem_draft_bindings_of_foreignKey {c : CreateTable} {k : ForeignKeyClause}
    (hk : .foreignKey k ∈ c.elements) {b : String × ColumnRef} (hb : b ∈ TableDraft.clauseBindings k) :
    b ∈ c.draft.bindings := by
  obtain ⟨table, elements⟩ := c
  induction elements using List.reverseRecOn with
  | nil => simp at hk
  | append_singleton es e ih =>
    rw [draft_concat]
    rcases List.mem_append.1 hk with hk | hk
    · exact TableDraft.bindings_subset_add _ _ (ih hk)
    · obtain rfl := List.mem_singleton.1 hk
      exact List.mem_append_right _ hb

end CreateTable

end Drafts

section Tables

variable {t : Table} {name : String}

theorem Table.HasForeignKey.updateColumn (h : t.HasForeignKey name) (other : String)
    {f : Column → Column} (hname : ∀ c, (f c).name = c.name)
    (hkey : ∀ c, c.isForeignKey → (f c).isForeignKey) :
    (t.updateColumn other f).HasForeignKey name := by
  obtain ⟨c, hc, hcname, hckey⟩ := h
  rcases mem_updateFirst_of_mem hc with hc | hc
  · exact ⟨c, hc, hcname, hckey⟩
  · exact ⟨f c, hc, (hname c).trans hcname, hkey c hckey⟩

theorem Table.HasForeignKey.withKeys (h : t.HasForeignKey name) (names : List String) :
    (t.withKeys names).HasForeignKey name := by
  apply List.foldlRecOn (motive := fun u : Table => u.HasForeignKey name) _ _ h
  intro u hu other _
  exact hu.updateColumn other (fun _ => rfl) fun _ hc => hc

theorem Table.HasForeignKey.bind (h : t.HasForeignKey name) (bindings : List (String × ColumnRef)) :
    (t.bind bindings).HasForeignKey name := by
  apply List.foldlRecOn (motive := fun u : Table => u.HasForeignKey name) _ _ h
  intro u hu b _
  exact hu.updateColumn b.1 (f := (·.withReference b.2)) (fun _ => rfl) fun _ _ => rfl

theorem Table.hasForeignKey_bind {bindings : List (String × ColumnRef)} {b : String × ColumnRef}
    (hb : b ∈ bindings) (hc : (t.column? b.1).isSome) : (t.bind bindings).HasForeignKey b.1 := by
  induction bindings generalizing t with
  | nil => simp at hb
  | cons x bindings ih =>
    rcases List.mem_cons.1 hb with rfl | hb
    · obtain ⟨c, hc⟩ := Option.isSome_iff_exists.1 hc
      have hname : c.name = b.1 := by simpa using List.find?_some hc
      have hbound : (t.updateColumn b.1 (·.withReference b.2)).HasForeignKey b.1 :=
        ⟨c.withReference b.2, mem_updateFirst_of_find? hc, hname, rfl⟩
      exact hbound.bind bindings
    · have hrest : ((t.updateColumn x.1 (·.withReference x.2)).column? b.1).isSome := by
        rwa [isSome_column?, t.updateColumn_names x.1 (f := (·.withReference x.2)) fun _ => rfl,
          ← isSome_column?]
      exact ih hb hrest

theorem Table.withKeys_name (t : Table) (names : List String) : (t.withKeys names).name = t.name :=
  List.foldlRecOn (motive := fun u : Table => u.name = t.name) _ _ rfl fun _ hu _ _ => hu

theorem Table.bind_name (t : Table) (bindings : List (String × ColumnRef)) :
    (t.bind bindings).name = t.name :=
  List.foldlRecOn (motive := fun u : Table => u.name = t.name) _ _ rfl fun _ hu _ _ => hu

end Tables

section Reconcile

theorem Schema.StartsAtColumn.updateTable {s : Schema} {r : Relationship} (h : s.StartsAtColumn r)
    (name : String) {f : Table → Table} (hname : ∀ t, (f t).name = t.name)
    (hkey : ∀ t column, t.HasForeignKey column → (f t).HasForeignKey column) :
    (s.updateTable name f).StartsAtColumn r := by
  obtain ⟨t, ht, htname, htkey⟩ := h
  rcases mem_updateFirst_of_mem ht with ht | ht
  · exact ⟨t, ht, htname, htkey⟩
  · exact ⟨f t, ht, (hname t).trans htname, hkey t _ htkey⟩

theorem Schema.StartsAtColumn.apply {s : Schema} {r : Relationship} (h : s.StartsAtColumn r)
    (p : PendingConstraint) : (p.apply s).StartsAtColumn r := by
  rcases p.apply_cases s with heq | ⟨t, ht, heq⟩ | ⟨t, target, ht, heq⟩
  · rwa [heq]
  · rw [heq]
    exact h.updateTable p.table (fun t => t.withKeys_name _) fun _ _ hkey => hkey.withKeys _
  · rw [heq]
    exact h.updateTable p.table (fun t => t.bind_name _) fun _ _ hkey => hkey.bind _

/-- The relationships that a constraint adds start at columns that it makes foreign keys. -/
theorem startsAtColumn_of_mem_apply {s : Schema} {p : PendingConstraint} {r : Relationship}
    (hr : r ∈ (p.apply s).relationships) : r ∈ s.relationships ∨ (p.apply s).StartsAtColumn r := by
  rcases p.apply_cases s with heq | ⟨t, ht, heq⟩ | ⟨t, target, ht, heq⟩
  · rw [heq] at hr
    exact .inl hr
  · rw [heq] at hr
    exact .inl hr
  · rw [heq] at hr ⊢
    rcases List.mem_append.1 hr with hr | hr
    · exact .inl hr
    · obtain ⟨b, hb, rfl⟩ := List.mem_map.1 hr
      obtain ⟨pair, hpair, rfl⟩ := List.mem_map.1 hb
      have hcolumn : (t.column? pair.1).isSome := (List.mem_filter.1 hpair).2
      exact .inr ⟨t.bind (p.bindingsIn t target), mem_updateFirst_of_find? ht, t.bind_name _,
        Table.hasForeignKey_bind hb hcolumn⟩

theorem startsAtColumn_of_mem_reconcile {s : Schema} {pending : List PendingConstraint}
    {r : Relationship} (hr : r ∈ (s.reconcile pending).relationships) :
    (r ∈ s.relationships ∧ ¬s.StartsAtColumn r) ∨ (s.reconcile pending).StartsAtColumn r := by
  induction pending generalizing s with
  | nil =>
    by_cases hstart : s.StartsAtColumn r
    · exact .inr hstart
    · exact .inl ⟨hr, hstart⟩
  | cons p pending ih =>
    rcases ih hr with ⟨hmem, hnot⟩ | hstart
    · refine .inl ⟨(startsAtColumn_of_mem_apply hmem).resolve_right hnot, fun h => hnot (h.apply p)⟩
    · exact .inr hstart

theorem relationships_subset_reconcile (s : Schema) (pending : List PendingConstraint) :
    s.relationships ⊆ (s.reconcile pending).relationships := by
  induction pending generalizing s with
  | nil => exact List.Subset.refl _
  | cons p pending ih =>
    refine List.Subset.trans ?_ (ih (p.apply s))
    rcases p.apply_cases s with heq | ⟨t, ht, heq⟩ | ⟨t, target, ht, heq⟩
    · rw [heq]
      exact List.Subset.refl _
    · rw [heq]
      exact List.Subset.refl _
    · rw [heq]
      exact List.subset_append_left _ _

end Reconcile

section Declared

variable {statements : List Statement} {r : Relationship}

private theorem mem_creates {c : CreateTable} :
    c ∈ statements.filterMap Statement.create? ↔ .create c ∈ statements := by
  rw [List.mem_filterMap]
  constructor
  · rintro ⟨s, hs, hc⟩
    cases s with
    | create c' =>
      obtain rfl := Option.some.inj hc
      exact hs
    | alter => cases hc
  · exact fun h => ⟨_, h, rfl⟩

private theorem mem_declared_tables {t : Table} :
    t ∈ (declaredSchema statements).tables ↔ ∃ c, .create c ∈ statements ∧ c.draft.table = t := by
  simp only [declaredSchema, List.map_map, List.mem_map, mem_creates, Function.comp_apply]

private theorem mem_declared_relationships :
    r ∈ (declaredSchema statements).relationships ↔
      ∃ c, .create c ∈ statements ∧ ∃ b ∈ c.draft.bindings, bindingEdge c.name b = r := by
  simp only [declaredSchema, List.flatMap_map, List.mem_flatMap, mem_creates,
    TableDraft.relationships_eq, List.mem_map, CreateTable.draft_name]

theorem isLoose_or_startsAtColumn (hr : r ∈ (declaredSchema statements).relationships) :
    IsLoose statements r ∨ (declaredSchema statements).StartsAtColumn r := by
  obtain ⟨c, hc, b, hb, rfl⟩ := mem_declared_relationships.1 hr
  by_cases hname : b.1 ∈ c.draft.columns.map (·.name)
  · exact .inr ⟨c.draft.table, mem_declared_tables.2 ⟨c, hc, rfl⟩, c.draft_name,
      TableDraft.hasForeignKey_table hb hname⟩
  · obtain ⟨k, hk, hbk⟩ := (CreateTable.mem_draft_bindings hb).resolve_left hname
    refine .inl ⟨c, hc, k, hk, b, hbk, rfl, fun definition hdefinition heq => hname ?_⟩
    exact (c.mem_draft_columns b.1).2 ⟨definition, hdefinition, heq⟩

theorem IsLoose.mem_declared (h : IsLoose statements r) :
    r ∈ (declaredSchema statements).relationships := by
  obtain ⟨c, hc, k, hk, b, hb, rfl, -⟩ := h
  exact mem_declared_relationships.2
    ⟨c, hc, b, CreateTable.mem_draft_bindings_of_foreignKey hk hb, rfl⟩

/-- The names of a table and of its columns. -/
def Table.heading (t : Table) : String × List String := (t.name, t.columns.map (·.name))

theorem IsLoose.not_startsAtColumn (h : IsLoose statements r) (pending : List PendingConstraint)
    (hnames : ((declaredSchema statements).tables.map (·.name)).Nodup) :
    ¬((declaredSchema statements).reconcile pending).StartsAtColumn r := by
  obtain ⟨c, hc, k, -, b, -, rfl, hundefined⟩ := h
  rintro ⟨t, ht, htname, column, hcolumn, hcolumnName, -⟩
  have hheadings := map_reconcile (g := Table.heading)
    (fun t name f hf => congrArg (Prod.mk t.name) (t.updateColumn_names name hf))
    (declaredSchema statements) pending
  obtain ⟨u, hu, hut⟩ := List.mem_map.1 (hheadings ▸ List.mem_map_of_mem (f := Table.heading) ht)
  obtain ⟨huname, hucolumns⟩ := Prod.mk.inj hut
  have hdraft : c.draft.table ∈ (declaredSchema statements).tables := mem_declared_tables.2 ⟨c, hc, rfl⟩
  obtain rfl : u = c.draft.table :=
    List.inj_on_of_nodup_map hnames hu hdraft (huname.trans (htname.trans c.draft_name.symm))
  have hmem : b.1 ∈ c.draft.columns.map (·.name) := by
    rw [← TableDraft.table_names, hucolumns]
    exact List.mem_map.2 ⟨column, hcolumn, hcolumnName⟩
  obtain ⟨definition, hdefinition, heq⟩ := (c.mem_draft_columns b.1).1 hmem
  exact hundefined definition hdefinition heq

end Declared

/-- Every relationship of a schema starts at a foreign key column of the schema or belongs to a foreign
key in a CREATE TABLE body that does not define its column. Without two tables of one name none of the
second sort starts at a column, and without deduplication all of them are there. -/
theorem readSchema_startsAtColumn {options : ReadOptions} {input : String} {s : Schema}
    (h : readSchema options input = .ok s) :
    ∃ script, Script.read options input = .ok script ∧
      (∀ r ∈ s.relationships, IsLoose script.statements r ∨ s.StartsAtColumn r) ∧
      ((s.tables.map (·.name)).Nodup → ∀ r, IsLoose script.statements r → ¬s.StartsAtColumn r) ∧
      (options.dedup = false → ∀ r, IsLoose script.statements r → r ∈ s.relationships) := by
  obtain ⟨script, hscript, rfl⟩ : ∃ script, Script.read options input = .ok script ∧
      schemaOf options.dedup script.statements = s := by
    unfold readSchema at h
    cases hread : Script.read options input with
    | error e =>
      rw [hread] at h
      cases h
    | ok script =>
      rw [hread] at h
      exact ⟨script, rfl, Except.ok.inj h⟩
  refine ⟨script, hscript, ?_⟩
  generalize script.statements = statements
  rw [schemaOf]
  generalize hs : (declaredSchema statements).reconcile (pendingConstraints statements) = s
  have hstarts : ∀ r ∈ s.relationships, IsLoose statements r ∨ s.StartsAtColumn r := by
    subst hs
    intro r hr
    rcases startsAtColumn_of_mem_reconcile hr with ⟨hr, hnot⟩ | hstart
    · exact .inl ((isLoose_or_startsAtColumn hr).resolve_right hnot)
    · exact .inr hstart
  have hloose (hnames : (s.tables.map (·.name)).Nodup) (r : Relationship)
      (hr : IsLoose statements r) : ¬s.StartsAtColumn r := by
    subst hs
    rw [names_reconcile] at hnames
    exact hr.not_startsAtColumn _ hnames
  have hkept (r : Relationship) (hr : IsLoose statements r) : r ∈ s.relationships := by
    subst hs
    exact relationships_subset_reconcile _ _ hr.mem_declared
  cases options.dedup with
  | false => exact ⟨hstarts, hloose, fun _ => hkept⟩
  | true =>
    -- deduplication drops relationships and changes none
    refine ⟨fun r hr => ?_, hloose, by simp⟩
    exact hstarts r (mem_of_mem_firstOfEachId hr)

/-- A key of a column that comes later, one of a missing column, and one that is added to a missing column. -/
theorem readSchema_startsAtColumn_orders :
    ∃ s, readSchema ReadOptions.default
        ("CREATE TABLE o (FOREIGN KEY (c, x) REFERENCES u (id), c INT); " ++
          "ALTER TABLE o ADD FOREIGN KEY (y) REFERENCES v (id)") = .ok s ∧
      ∃ script, Script.read ReadOptions.default
          ("CREATE TABLE o (FOREIGN KEY (c, x) REFERENCES u (id), c INT); " ++
            "ALTER TABLE o ADD FOREIGN KEY (y) REFERENCES v (id)") = .ok script ∧
        (∀ r ∈ s.relationships, IsLoose script.statements r ∨ s.StartsAtColumn r) ∧
        ((s.tables.map (·.name)).Nodup → ∀ r, IsLoose script.statements r → ¬s.StartsAtColumn r) ∧
        (ReadOptions.default.dedup = false →
          ∀ r, IsLoose script.statements r → r ∈ s.relationships) := by
  have hread : readSchema ReadOptions.default
      ("CREATE TABLE o (FOREIGN KEY (c, x) REFERENCES u (id), c INT); " ++
        "ALTER TABLE o ADD FOREIGN KEY (y) REFERENCES v (id)") =
      .ok ⟨[⟨"o", [⟨"c", "INT", false, true, true, some ⟨"u", "id"⟩⟩]⟩],
        [.oneToMany "o" "c" "u" "id", .oneToMany "o" "x" "u" "id"]⟩ := by
    rw [← String.ofList_append]
    set_option maxRecDepth 1000 in
    refine readSchema_ofList (d := .generic) rfl (by decide) (by decide) (by with_unfolding_all decide) ?_
    with_unfolding_all decide
  exact ⟨_, hread, readSchema_startsAtColumn hread⟩

/-- The column of a foreign key in a body need not exist. -/
theorem readSchema_startsAtColumn_undefined :
    ∃ s r, readSchema ReadOptions.default
        "CREATE TABLE t (a INT, FOREIGN KEY (b) REFERENCES u (c))" = .ok s ∧
      r ∈ s.relationships ∧ ¬s.StartsAtColumn r := by
  have hread : readSchema ReadOptions.default
      "CREATE TABLE t (a INT, FOREIGN KEY (b) REFERENCES u (c))" =
      .ok ⟨[⟨"t", [⟨"a", "INT", false, false, true, none⟩]⟩], [.oneToMany "t" "b" "u" "c"]⟩ := by
    set_option maxRecDepth 1000 in
    refine readSchema_ofList (d := .generic) rfl (by decide) (by decide) (by with_unfolding_all decide) ?_
    with_unfolding_all decide
  exact ⟨_, _, hread, List.mem_singleton_self _, by decide⟩

end SqlSchema
