import Mathlib.Data.List.Induction
import Mathlib.Tactic.Conv
import SqlSchema.Proofs.WellFormed
/-!
# References and relationships

A schema shows a foreign key twice, as the reference of a column and as a relationship. The two agree
as long as no two tables share a name: a column refers to the end of the last relationship that starts
at it, and to nothing if none does.
-/
namespace SqlSchema

theorem updateFirst_of_nodup {α : Type} {key : α → String} {f : α → α} {xs : List α}
    (h : (xs.map key).Nodup) (k : String) :
    updateFirst (fun x => key x == k) f xs = xs.map fun x => if key x = k then f x else x := by
  induction xs with
  | nil => rfl
  | cons x xs ih =>
    obtain ⟨hx, hxs⟩ := List.nodup_cons.1 h
    rw [updateFirst, List.map_cons]
    by_cases hk : key x = k
    · have hrest : xs.map (fun y => if key y = k then f y else y) = xs := by
        conv_rhs => rw [← List.map_id xs]
        apply List.map_congr_left
        intro y hy
        have hne : key y ≠ k := fun he => hx (hk ▸ he ▸ List.mem_map_of_mem hy)
        simp [hne]
      simp [hk, hrest]
    · simp [hk, ih hxs]

/-- Updates that are made one after the other, at columns of distinct names, are made to each column on its
own. -/
theorem Table.foldl_updateColumn {α : Type} {key : α → String} {f : α → Column → Column}
    {g : List α → Column → Column} (hnil : g [] = id)
    (hconcat : ∀ xs x c, g (xs ++ [x]) c = if c.name = key x then f x (g xs c) else g xs c)
    (hname : ∀ xs c, (g xs c).name = c.name) {t : Table} (h : (t.columns.map (·.name)).Nodup)
    (xs : List α) :
    xs.foldl (fun t x => t.updateColumn (key x) (f x)) t = { t with columns := t.columns.map (g xs) } := by
  induction xs using List.reverseRecOn with
  | nil => simp [hnil]
  | append_singleton xs x ih =>
    have hnames : ((t.columns.map (g xs)).map (·.name)).Nodup := by
      simpa [Function.comp_def, hname] using h
    rw [List.foldl_append, ih, List.foldl_cons, List.foldl_nil, updateColumn, updateFirst_of_nodup hnames,
      List.map_map]
    congr 1
    apply List.map_congr_left
    intro c _
    simp only [Function.comp_apply, hname, hconcat]

section Bindings

/-- The column that a name is bound to last. -/
def lastBinding? (bindings : List (String × ColumnRef)) (name : String) : Option ColumnRef :=
  (bindings.reverse.find? fun b => b.1 == name).map (·.2)

theorem lastBinding?_append (xs ys : List (String × ColumnRef)) (name : String) :
    lastBinding? (xs ++ ys) name = (lastBinding? ys name).or (lastBinding? xs name) := by
  simp [lastBinding?, List.find?_append, Option.map_or]

theorem lastBinding?_singleton (b : String × ColumnRef) (name : String) :
    lastBinding? [b] name = if b.1 = name then some b.2 else none := by
  by_cases h : b.1 = name <;> simp [lastBinding?, h]

/-- The column with the reference it is bound to, if there is one. -/
def Column.bound (c : Column) : Option ColumnRef → Column
  | none => c
  | some r => c.withReference r

@[simp] theorem Column.bound_none (c : Column) : c.bound none = c := rfl

@[simp] theorem Column.bound_some (c : Column) (r : ColumnRef) : c.bound (some r) = c.withReference r :=
  rfl

@[simp] theorem Column.bound_name (c : Column) (r : Option ColumnRef) : (c.bound r).name = c.name := by
  cases r <;> rfl

@[simp] theorem Column.bound_foreignKeyRef (c : Column) (r : Option ColumnRef) :
    (c.bound r).foreignKeyRef = r.or c.foreignKeyRef := by
  cases r <;> rfl

@[simp] theorem Column.withReference_bound (c : Column) (r : Option ColumnRef) (target : ColumnRef) :
    (c.bound r).withReference target = c.withReference target := by
  cases r <;> rfl

/-- Binds columns one after the other. -/
def Table.bind (t : Table) (bindings : List (String × ColumnRef)) : Table :=
  bindings.foldl (fun t b => t.updateColumn b.1 (·.withReference b.2)) t

/-- Each column ends up with its last binding. -/
theorem Table.bind_eq {t : Table} (h : (t.columns.map (·.name)).Nodup)
    (bindings : List (String × ColumnRef)) :
    t.bind bindings =
      { t with columns := t.columns.map fun c => c.bound (lastBinding? bindings c.name) } := by
  apply foldl_updateColumn ?_ ?_ ?_ h
  · rfl
  · intro bindings b c
    rw [lastBinding?_append, lastBinding?_singleton]
    by_cases hb : b.1 = c.name
    · simp [hb]
    · have hc : c.name ≠ b.1 := fun he => hb he.symm
      simp [hb, hc]
  · intro bindings c
    exact c.bound_name _

/-- The relationship that a binding of a table gives. -/
def bindingEdge (source : String) (b : String × ColumnRef) : Relationship :=
  Relationship.oneToMany source b.1 b.2.table b.2.column

theorem TableDraft.relationships_eq (d : TableDraft) :
    d.relationships = d.bindings.map (bindingEdge d.name) :=
  rfl

end Bindings

section Apply

/-- The bindings of a foreign key whose columns the table has. -/
def PendingConstraint.bindingsIn (p : PendingConstraint) (t : Table) (target : String) :
    List (String × ColumnRef) :=
  (p.pairsIn t).map fun pair => (pair.1, ⟨target, pair.2⟩)

/-- Marks columns as primary keys. -/
def Table.withKeys (t : Table) (names : List String) : Table :=
  names.foldl (fun t name => t.updateColumn name Column.asPrimaryKey) t

theorem Table.withKeys_eq {t : Table} (h : (t.columns.map (·.name)).Nodup) (names : List String) :
    t.withKeys names =
      { t with columns := t.columns.map fun c => if c.name ∈ names then c.asPrimaryKey else c } := by
  apply foldl_updateColumn ?_ ?_ ?_ h
  · funext c
    simp
  · intro names name c
    by_cases hc : c.name = name <;> by_cases hm : c.name ∈ names <;>
      simp_all [Column.asPrimaryKey]
  · intro names c
    split <;> rfl

namespace PendingConstraint

variable {s : Schema} {p : PendingConstraint} {t : Table}

theorem apply_primaryKey (ht : s.table? p.table = some t) (hkind : p.kind = .primaryKey) :
    p.apply s = s.updateTable p.table (·.withKeys p.columns) := by
  simp only [apply, ht, hkind]
  rfl

theorem apply_foreignKey {target : String} (ht : s.table? p.table = some t)
    (hkind : p.kind = .foreignKey) (htarget : p.target = some target) :
    p.apply s =
      ⟨(s.updateTable p.table (·.bind (p.bindingsIn t target))).tables,
        s.relationships ++ (p.bindingsIn t target).map (bindingEdge t.name)⟩ := by
  simp only [apply, ht, hkind, htarget, Table.bind, bindingsIn, List.foldl_map, List.map_map]
  rfl

/-- All that applying a constraint can do. -/
theorem apply_cases (s : Schema) (p : PendingConstraint) :
    p.apply s = s ∨
      (∃ t, s.table? p.table = some t ∧ p.apply s = s.updateTable p.table (·.withKeys p.columns)) ∨
      ∃ t target, s.table? p.table = some t ∧ p.apply s =
        ⟨(s.updateTable p.table (·.bind (p.bindingsIn t target))).tables,
          s.relationships ++ (p.bindingsIn t target).map (bindingEdge t.name)⟩ := by
  cases ht : s.table? p.table with
  | none => exact .inl (by simp only [apply, ht])
  | some t =>
    cases hkind : p.kind with
    | primaryKey => exact .inr (.inl ⟨t, rfl, apply_primaryKey ht hkind⟩)
    | unique => exact .inl (by simp only [apply, ht, hkind])
    | foreignKey =>
      cases htarget : p.target with
      | none => exact .inl (by simp only [apply, ht, hkind, htarget])
      | some target => exact .inr (.inr ⟨t, target, rfl, apply_foreignKey ht hkind htarget⟩)

end PendingConstraint

end Apply

section Agreement

def Relationship.targetRef (r : Relationship) : ColumnRef := ⟨r.target, r.targetColumn⟩

/-- The relationships that start at a column. -/
def relationshipsOf (rs : List Relationship) (table column : String) : List Relationship :=
  rs.filter fun r => r.source == table && r.sourceColumn == column

/-- The end of the last relationship that starts at a column. -/
def lastTarget? (rs : List Relationship) (table column : String) : Option ColumnRef :=
  (relationshipsOf rs table column).getLast?.map Relationship.targetRef

theorem lastTarget?_append (xs ys : List Relationship) (table column : String) :
    lastTarget? (xs ++ ys) table column =
      (lastTarget? ys table column).or (lastTarget? xs table column) := by
  simp [lastTarget?, relationshipsOf, List.getLast?_append, Option.map_or]

theorem lastTarget?_bindings (source : String) (bindings : List (String × ColumnRef))
    (table column : String) :
    lastTarget? (bindings.map (bindingEdge source)) table column =
      if source = table then lastBinding? bindings column else none := by
  induction bindings using List.reverseRecOn with
  | nil => simp [lastTarget?, relationshipsOf, lastBinding?]
  | append_singleton bindings b ih =>
    rw [List.map_append, lastTarget?_append, ih, lastBinding?_append, lastBinding?_singleton]
    by_cases hs : source = table <;> by_cases hb : b.1 = column <;>
      simp [lastTarget?, relationshipsOf, bindingEdge, Relationship.oneToMany, Relationship.targetRef, hs, hb]

/-- Every column refers to the end of the last relationship that starts at it. -/
structure Schema.IsLinked (s : Schema) : Prop where
  tables : (s.tables.map (·.name)).Nodup
  columns : ∀ t ∈ s.tables, (t.columns.map (·.name)).Nodup
  references : ∀ t ∈ s.tables, ∀ c ∈ t.columns,
    c.foreignKeyRef = lastTarget? s.relationships t.name c.name

theorem Schema.updateTable_tables {s : Schema} (h : (s.tables.map (·.name)).Nodup) (name : String)
    (f : Table → Table) :
    (s.updateTable name f).tables = s.tables.map fun t => if t.name = name then f t else t :=
  updateFirst_of_nodup h name

private theorem names_map {cs : List Column} {f : Column → Column} (hf : ∀ c, (f c).name = c.name)
    (h : (cs.map (·.name)).Nodup) : ((cs.map f).map (·.name)).Nodup := by
  simpa [Function.comp_def, hf] using h

private theorem keyed_name (names : List String) (c : Column) :
    (if c.name ∈ names then c.asPrimaryKey else c).name = c.name := by
  split <;> rfl

private theorem isLinked_withKeys {s : Schema} (h : s.IsLinked) (name : String) (names : List String)
    (hnames : ((s.updateTable name (·.withKeys names)).tables.map (·.name)).Nodup) :
    (s.updateTable name (·.withKeys names)).IsLinked := by
  have htables := Schema.updateTable_tables h.tables name (·.withKeys names)
  refine ⟨hnames, ?_, ?_⟩
  all_goals
    rw [htables]
    intro t ht
    obtain ⟨u, hu, rfl⟩ := List.mem_map.1 ht
    split
  · rw [Table.withKeys_eq (h.columns u hu)]
    exact names_map (keyed_name names) (h.columns u hu)
  · exact h.columns u hu
  · rw [Table.withKeys_eq (h.columns u hu)]
    intro c hc
    obtain ⟨c, hcu, rfl⟩ := List.mem_map.1 hc
    rw [keyed_name]
    have hc := h.references u hu c hcu
    split
    · exact hc
    · exact hc
  · exact h.references u hu

/-- A foreign key moves the references of its columns to the ends of its relationships. -/
private theorem isLinked_bind {s : Schema} (h : s.IsLinked) (name : String)
    (bindings : List (String × ColumnRef))
    (hnames : ((s.updateTable name (·.bind bindings)).tables.map (·.name)).Nodup) :
    Schema.IsLinked ⟨(s.updateTable name (·.bind bindings)).tables,
      s.relationships ++ bindings.map (bindingEdge name)⟩ := by
  have htables := Schema.updateTable_tables h.tables name (·.bind bindings)
  refine ⟨hnames, ?_, ?_⟩
  all_goals
    simp only [htables]
    intro x hx
    obtain ⟨u, hu, rfl⟩ := List.mem_map.1 hx
    split
  · rw [Table.bind_eq (h.columns u hu)]
    exact names_map (fun c => Column.bound_name c _) (h.columns u hu)
  · exact h.columns u hu
  · next hname =>
    rw [Table.bind_eq (h.columns u hu)]
    intro c hc
    obtain ⟨c, hcu, rfl⟩ := List.mem_map.1 hc
    rw [lastTarget?_append, lastTarget?_bindings, if_pos hname.symm, Column.bound_foreignKeyRef,
      Column.bound_name, h.references u hu c hcu]
  · next hname =>
    intro c hc
    have hne : name ≠ u.name := fun he => hname he.symm
    rw [lastTarget?_append, lastTarget?_bindings, if_neg hne, Option.none_or, h.references u hu c hc]

theorem Schema.IsLinked.apply {s : Schema} (h : s.IsLinked) (p : PendingConstraint) :
    (p.apply s).IsLinked := by
  have hnames : ((p.apply s).tables.map (·.name)).Nodup := by
    rw [names_apply]
    exact h.tables
  rcases p.apply_cases s with heq | ⟨t, ht, heq⟩ | ⟨t, target, ht, heq⟩
  · rwa [heq]
  · rw [heq] at hnames ⊢
    exact isLinked_withKeys h p.table p.columns hnames
  · have hname : t.name = p.table := by simpa using List.find?_some ht
    rw [← hname] at heq
    rw [heq] at hnames ⊢
    exact isLinked_bind h t.name _ hnames

theorem Schema.IsLinked.reconcile {s : Schema} (h : s.IsLinked) (pending : List PendingConstraint) :
    (s.reconcile pending).IsLinked := by
  induction pending generalizing s with
  | nil => exact h
  | cons p pending ih => exact ih (h.apply p)

theorem names_reconcile (s : Schema) (pending : List PendingConstraint) :
    (s.reconcile pending).tables.map (·.name) = s.tables.map (·.name) :=
  map_reconcile (g := Table.name) (fun _ _ _ _ => rfl) s pending

private theorem lastTarget?_drafts {drafts : List TableDraft} (h : (drafts.map (·.name)).Nodup)
    {d : TableDraft} (hd : d ∈ drafts) (column : String) :
    lastTarget? (drafts.flatMap TableDraft.relationships) d.name column = d.binding? column := by
  induction drafts with
  | nil => simp at hd
  | cons e drafts ih =>
    obtain ⟨he, hrest⟩ := List.nodup_cons.1 h
    have hother (hne : ∀ x ∈ drafts, x.name ≠ d.name) :
        lastTarget? (drafts.flatMap TableDraft.relationships) d.name column = none := by
      clear ih h he hrest hd
      induction drafts with
      | nil => rfl
      | cons x drafts ih =>
        rw [List.flatMap_cons, lastTarget?_append, ih fun y hy => hne y (by simp [hy]),
          TableDraft.relationships_eq, lastTarget?_bindings, if_neg (hne x (by simp))]
        rfl
    rw [List.flatMap_cons, lastTarget?_append, TableDraft.relationships_eq e, lastTarget?_bindings]
    rcases List.mem_cons.1 hd with rfl | hd
    · have hne : ∀ x ∈ drafts, x.name ≠ d.name := by
        intro x hx hname
        exact he (List.mem_map.2 ⟨x, hx, hname⟩)
      rw [hother hne, Option.none_or, if_pos rfl]
      rfl
    · have hne : e.name ≠ d.name := by
        intro hname
        exact he (List.mem_map.2 ⟨d, hd, hname.symm⟩)
      rw [ih hrest hd, if_neg hne, Option.or_none]

theorem declaredSchema_isLinked {statements : List Statement}
    (h : ((declaredSchema statements).tables.map (·.name)).Nodup) :
    (declaredSchema statements).IsLinked := by
  refine ⟨h, ?_, ?_⟩
  · intro t ht
    simp only [declaredSchema, List.mem_map] at ht
    obtain ⟨_, ⟨c, -, rfl⟩, rfl⟩ := ht
    exact draft_table_names c
  · intro t ht c hc
    obtain ⟨d, hd, rfl⟩ := List.mem_map.1 ht
    obtain ⟨definition, -, rfl⟩ := List.mem_map.1 hc
    have hnames : (((statements.filterMap Statement.create?).map CreateTable.draft).map
        (·.name)).Nodup := by
      simpa [declaredSchema, TableDraft.table, Function.comp_def] using h
    exact (lastTarget?_drafts hnames hd definition.name).symm

/-- In a schema without two tables of one name, a column is a foreign key exactly if a relationship
starts at it, and refers to the end of the last one that does. -/
theorem readSchema_references {options : ReadOptions} {input : String} {s : Schema}
    (h : readSchema options input = .ok s) (hdedup : options.dedup = false)
    (hnames : (s.tables.map (·.name)).Nodup) {t : Table} (ht : t ∈ s.tables) {c : Column}
    (hc : c ∈ t.columns) :
    (c.isForeignKey ↔ ∃ r ∈ s.relationships, r.source = t.name ∧ r.sourceColumn = c.name) ∧
      c.foreignKeyRef =
        (relationshipsOf s.relationships t.name c.name).getLast?.map fun r =>
          ⟨r.target, r.targetColumn⟩ := by
  obtain ⟨ts, -, hs⟩ := readSchema_eq_ok h
  rw [hdedup] at hs
  subst hs
  generalize readStatements (Text.normalize input) ts = statements at *
  have hflag := (schemaOf_hasKeys false statements t ht).2 c hc
  have hdeclared : ((declaredSchema statements).tables.map (·.name)).Nodup := by
    rwa [← names_reconcile _ (pendingConstraints statements)]
  have hlinked := (declaredSchema_isLinked hdeclared).reconcile (pendingConstraints statements)
  have href : c.foreignKeyRef = lastTarget? (schemaOf false statements).relationships t.name c.name :=
    hlinked.references t ht c hc
  refine ⟨?_, href⟩
  rw [hflag, href, lastTarget?, Option.isSome_map, List.getLast?_isSome]
  simp [relationshipsOf, List.filter_eq_nil_iff]

/-- A column that is bound in its definition, in the table body and by a later constraint. -/
theorem readSchema_references_orders :
    ∃ s t c, readSchema ReadOptions.default
        ("CREATE TABLE o (c INT REFERENCES u, FOREIGN KEY (c) REFERENCES v (k)); " ++
          "ALTER TABLE o ADD FOREIGN KEY (c) REFERENCES w (x)") = .ok s ∧
      (s.tables.map (·.name)).Nodup ∧ t ∈ s.tables ∧ c ∈ t.columns ∧
      c.foreignKeyRef = some ⟨"w", "x"⟩ ∧ s.relationships.length = 3 ∧
      (c.isForeignKey ↔ ∃ r ∈ s.relationships, r.source = t.name ∧ r.sourceColumn = c.name) ∧
      c.foreignKeyRef =
        (relationshipsOf s.relationships t.name c.name).getLast?.map fun r =>
          ⟨r.target, r.targetColumn⟩ := by
  have hread : readSchema ReadOptions.default
      ("CREATE TABLE o (c INT REFERENCES u, FOREIGN KEY (c) REFERENCES v (k)); " ++
        "ALTER TABLE o ADD FOREIGN KEY (c) REFERENCES w (x)") =
      .ok ⟨[⟨"o", [⟨"c", "INT", false, true, true, some ⟨"w", "x"⟩⟩]⟩],
        [.oneToMany "o" "c" "u" "c", .oneToMany "o" "c" "v" "k", .oneToMany "o" "c" "w" "x"]⟩ := by
    rw [← String.ofList_append]
    set_option maxRecDepth 1000 in
    refine readSchema_ofList (d := .generic) rfl (by decide) (by decide) (by with_unfolding_all decide) ?_
    with_unfolding_all decide
  refine ⟨_, _, _, hread, by decide, List.mem_singleton_self _, List.mem_singleton_self _, rfl, rfl, ?_⟩
  exact readSchema_references hread rfl (by decide) (List.mem_singleton_self _)
    (List.mem_singleton_self _)

end Agreement

end SqlSchema
