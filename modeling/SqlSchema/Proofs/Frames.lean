import Mathlib.Data.List.Forall2
import SqlSchema.Proofs.EdgeSources
/-!
# What constraints leave alone

Constraints change the keys of the columns that they name, in the first table of its name, and they add
relationships behind those that are there. Everything else in a schema stays as it is, whatever tables
and columns share a name.
-/
namespace SqlSchema

/-- The column can have become a key or have another reference, and is the same otherwise. -/
structure Column.Keeps (c c' : Column) : Prop where
  name : c'.name = c.name
  type : c'.type = c.type
  isNullable : c'.isNullable = c.isNullable
  isPrimaryKey : c.isPrimaryKey → c'.isPrimaryKey
  isForeignKey : c.isForeignKey → c'.isForeignKey
  agrees : c.isForeignKey = c.foreignKeyRef.isSome → c'.isForeignKey = c'.foreignKeyRef.isSome

/-- The table has the same columns, and those that are not named are the same. -/
structure Table.Keeps (named : String → Prop) (t t' : Table) : Prop where
  name : t'.name = t.name
  columns : List.Forall₂ (fun c c' => c.Keeps c' ∧ (¬named c.name → c' = c)) t.columns t'.columns

/-- Whether the constraint names the column of the table. -/
def PendingConstraint.Names (p : PendingConstraint) (table column : String) : Prop :=
  p.table = table ∧ column ∈ p.columns

/-- Whether the first table of that name has the column. -/
def Schema.hasColumn (s : Schema) (table column : String) : Bool :=
  (s.table? table).any fun t => (t.column? column).isSome

/-- The relationships that a constraint adds: one for each pair of a foreign key whose column exists. -/
def PendingConstraint.edges (s : Schema) (p : PendingConstraint) : List Relationship :=
  match p.kind, p.target with
  | .foreignKey, some target =>
    ((columnPairs p.columns p.targetColumns).filter fun pair => s.hasColumn p.table pair.1).map
      fun pair => .oneToMany p.table pair.1 target pair.2
  | _, _ => []

section Columns

variable {c c' c'' : Column}

theorem Column.Keeps.refl (c : Column) : c.Keeps c := ⟨rfl, rfl, rfl, id, id, id⟩

theorem Column.Keeps.trans (h : c.Keeps c') (h' : c'.Keeps c'') : c.Keeps c'' where
  name := h'.name.trans h.name
  type := h'.type.trans h.type
  isNullable := h'.isNullable.trans h.isNullable
  isPrimaryKey hc := h'.isPrimaryKey (h.isPrimaryKey hc)
  isForeignKey hc := h'.isForeignKey (h.isForeignKey hc)
  agrees hc := h'.agrees (h.agrees hc)

theorem Column.keeps_asPrimaryKey (c : Column) : c.Keeps c.asPrimaryKey :=
  ⟨rfl, rfl, rfl, fun _ => rfl, id, id⟩

theorem Column.keeps_withReference (c : Column) (target : ColumnRef) :
    c.Keeps (c.withReference target) :=
  ⟨rfl, rfl, rfl, id, fun _ => rfl, fun _ => rfl⟩

end Columns

section Lists

variable {α : Type} {R : α → α → Prop}

private theorem forall₂_trans (hR : ∀ x y z, R x y → R y z → R x z) {xs ys zs : List α}
    (h : List.Forall₂ R xs ys) (h' : List.Forall₂ R ys zs) : List.Forall₂ R xs zs := by
  induction h generalizing zs with
  | nil => exact h'
  | cons hxy _ ih =>
    cases h' with
    | cons hyz hrest => exact .cons (hR _ _ _ hxy hyz) (ih hrest)

theorem forall₂_updateFirst {p : α → Bool} {f : α → α} (hsame : ∀ x, R x x)
    (hf : ∀ x, p x → R x (f x)) (xs : List α) : List.Forall₂ R xs (updateFirst p f xs) := by
  induction xs with
  | nil => exact .nil
  | cons x xs ih =>
    rw [updateFirst]
    split
    · next hp => exact .cons (hf x hp) (List.forall₂_same.2 fun y _ => hsame y)
    · exact .cons (hsame x) ih

theorem getElem?_updateFirst {p : α → Bool} {f : α → α} {xs : List α} {i : Nat} {x : α}
    (hx : xs[i]? = some x) (hbefore : p x → ∃ y ∈ xs.take i, p y) :
    (updateFirst p f xs)[i]? = some x := by
  induction xs generalizing i with
  | nil => simp at hx
  | cons y ys ih =>
    rw [updateFirst]
    cases i with
    | zero =>
      obtain rfl : y = x := by simpa using hx
      have hp : ¬p y := fun hp => by simpa using hbefore hp
      rw [if_neg hp, List.getElem?_cons_zero]
    | succ i =>
      rw [List.getElem?_cons_succ] at hx
      split
      · rw [List.getElem?_cons_succ, hx]
      · next hp =>
        rw [List.getElem?_cons_succ]
        apply ih hx
        intro hpx
        obtain ⟨z, hz, hpz⟩ := hbefore hpx
        rcases List.mem_cons.1 hz with rfl | hz
        · exact absurd hpz hp
        · exact ⟨z, hz, hpz⟩

end Lists

section Tables

variable {named : String → Prop} {t t' t'' : Table}

theorem Table.Keeps.refl (named : String → Prop) (t : Table) : t.Keeps named t :=
  ⟨rfl, List.forall₂_same.2 fun c _ => ⟨.refl c, fun _ => rfl⟩⟩

theorem Table.Keeps.trans (h : t.Keeps named t') (h' : t'.Keeps named t'') : t.Keeps named t'' := by
  refine ⟨h'.name.trans h.name, forall₂_trans ?_ h.columns h'.columns⟩
  rintro c c' c'' ⟨hkeeps, hsame⟩ ⟨hkeeps', hsame'⟩
  refine ⟨hkeeps.trans hkeeps', fun hc => ?_⟩
  have hc' : ¬named c'.name := by rwa [hkeeps.name]
  rw [hsame' hc', hsame hc]

theorem Table.Keeps.mono {others : String → Prop} (h : t.Keeps named t')
    (hsub : ∀ name, named name → others name) : t.Keeps others t' :=
  ⟨h.name, h.columns.imp fun _ _ hc => ⟨hc.1, fun hnot => hc.2 fun hnamed => hnot (hsub _ hnamed)⟩⟩

theorem Table.keeps_updateColumn (t : Table) {name : String} (hname : named name) {f : Column → Column}
    (hf : ∀ c : Column, c.Keeps (f c)) : t.Keeps named (t.updateColumn name f) := by
  refine ⟨rfl, forall₂_updateFirst (fun c => ⟨.refl c, fun _ => rfl⟩) ?_ _⟩
  intro c hc
  rw [beq_iff_eq] at hc
  exact ⟨hf c, fun hnot => absurd (hc ▸ hname) hnot⟩

theorem Table.keeps_withKeys (t : Table) (names : List String) :
    t.Keeps (· ∈ names) (t.withKeys names) := by
  apply List.foldlRecOn (motive := fun u : Table => t.Keeps (· ∈ names) u) _ _ (.refl _ t)
  intro u hu name hname
  exact hu.trans (u.keeps_updateColumn hname Column.keeps_asPrimaryKey)

theorem Table.keeps_bind (t : Table) (bindings : List (String × ColumnRef)) :
    t.Keeps (· ∈ bindings.map (·.1)) (t.bind bindings) := by
  apply List.foldlRecOn (motive := fun u : Table => t.Keeps (· ∈ bindings.map (·.1)) u) _ _ (.refl _ t)
  intro u hu b hb
  exact hu.trans (u.keeps_updateColumn (List.mem_map_of_mem hb) fun c => c.keeps_withReference b.2)

end Tables

section Steps

variable {s : Schema} {t : Table}

theorem fst_mem_columns_of_mem_bindingsIn {p : PendingConstraint} {target : String}
    {b : String × ColumnRef} (hb : b ∈ p.bindingsIn t target) : b.1 ∈ p.columns := by
  obtain ⟨pair, hpair, rfl⟩ := List.mem_map.1 hb
  obtain ⟨x, hx, rfl⟩ := List.mem_map.1 (List.mem_filter.1 hpair).1
  exact List.fst_mem_of_mem_zipIdx hx

/-- All that a constraint does to the tables of a schema is to change the first one of its name. -/
theorem exists_apply_tables (s : Schema) (p : PendingConstraint) :
    ∃ f : Table → Table, (∀ t : Table, t.Keeps (· ∈ p.columns) (f t)) ∧
      (p.apply s).tables = updateFirst (fun t => t.name == p.table) f s.tables := by
  rcases p.apply_cases s with heq | ⟨t, ht, heq⟩ | ⟨t, target, ht, heq⟩
  · have hid := @map_updateFirst _ _ (fun t : Table => t.name == p.table) id id (fun _ => rfl) s.tables
    rw [List.map_id, List.map_id] at hid
    exact ⟨id, .refl _, by rw [heq, hid]⟩
  · exact ⟨(·.withKeys p.columns), fun u => u.keeps_withKeys _, by rw [heq]; rfl⟩
  · refine ⟨(·.bind (p.bindingsIn t target)), fun u => ?_, by rw [heq]; rfl⟩
    apply (u.keeps_bind _).mono
    intro name hname
    obtain ⟨b, hb, rfl⟩ := List.mem_map.1 hname
    exact fst_mem_columns_of_mem_bindingsIn hb

theorem keeps_apply (s : Schema) (p : PendingConstraint) :
    List.Forall₂ (fun t t' : Table => t.Keeps (p.Names t.name) t') s.tables (p.apply s).tables := by
  obtain ⟨f, hf, heq⟩ := exists_apply_tables s p
  rw [heq]
  apply forall₂_updateFirst (fun t => .refl _ t)
  intro t ht
  apply (hf t).mono
  intro column hcolumn
  exact ⟨(beq_iff_eq.1 ht).symm, hcolumn⟩

theorem getElem?_apply {i : Nat} (hi : s.tables[i]? = some t)
    (hbefore : t.name ∈ (s.tables.map (·.name)).take i) (p : PendingConstraint) :
    (p.apply s).tables[i]? = some t := by
  obtain ⟨f, -, heq⟩ := exists_apply_tables s p
  rw [heq]
  apply getElem?_updateFirst hi
  intro ht
  rw [← List.map_take] at hbefore
  obtain ⟨u, hu, hname⟩ := List.mem_map.1 hbefore
  exact ⟨u, hu, by rwa [hname]⟩

theorem relationships_apply_eq (s : Schema) (p : PendingConstraint) :
    (p.apply s).relationships = s.relationships ++ p.edges s := by
  unfold PendingConstraint.edges Schema.hasColumn
  cases ht : s.table? p.table with
  | none =>
    rw [PendingConstraint.apply, ht]
    cases p.kind <;> cases p.target <;> simp
  | some t =>
    have hname : t.name = p.table := by simpa using List.find?_some ht
    cases hkind : p.kind with
    | primaryKey => simp [PendingConstraint.apply_primaryKey ht hkind, Schema.updateTable]
    | unique => simp [PendingConstraint.apply, ht, hkind]
    | foreignKey =>
      cases htarget : p.target with
      | none => simp [PendingConstraint.apply, ht, hkind, htarget]
      | some target =>
        rw [PendingConstraint.apply_foreignKey ht hkind htarget, hname]
        simp [PendingConstraint.bindingsIn, PendingConstraint.pairsIn, bindingEdge, Function.comp_def]

theorem Schema.hasColumn_eq (s : Schema) (table column : String) :
    s.hasColumn table column =
      ((s.tables.map Table.heading).find? fun h => h.1 == table).any fun h => h.2.contains column := by
  have hcolumn (t : Table) : (t.column? column).isSome = t.heading.2.contains column := by
    rw [Bool.eq_iff_iff, Table.isSome_column?, List.contains_iff_mem, Table.heading]
  rw [hasColumn, table?, List.find?_map, Option.any_map]
  simp only [hcolumn]
  rfl

theorem hasColumn_apply (s : Schema) (p : PendingConstraint) (table column : String) :
    (p.apply s).hasColumn table column = s.hasColumn table column := by
  have hheadings := map_apply (g := Table.heading)
    (fun t name f hf => congrArg (Prod.mk t.name) (t.updateColumn_names name hf)) s p
  rw [Schema.hasColumn_eq, hheadings, ← Schema.hasColumn_eq]

end Steps

section Runs

theorem edges_apply (s : Schema) (p q : PendingConstraint) : q.edges (p.apply s) = q.edges s := by
  unfold PendingConstraint.edges
  simp only [hasColumn_apply]

/-- Reconciliation changes no more than keys: those of the columns that some constraint names, in tables
that are the first of their name. It keeps the keys that are there, and it adds one relationship for each
pair of a foreign key whose column exists, in order. -/
theorem reconcile_frame (s : Schema) (pending : List PendingConstraint) :
    List.Forall₂
        (fun t t' : Table => t.Keeps (fun column => ∃ p ∈ pending, p.Names t.name column) t')
        s.tables (s.reconcile pending).tables ∧
      (∀ i t, s.tables[i]? = some t → t.name ∈ (s.tables.map (·.name)).take i →
        (s.reconcile pending).tables[i]? = some t) ∧
      (s.reconcile pending).relationships = s.relationships ++ pending.flatMap (·.edges s) := by
  induction pending generalizing s with
  | nil =>
    exact ⟨List.forall₂_same.2 fun t _ => .refl _ t, fun i t hi _ => hi, (List.append_nil _).symm⟩
  | cons p pending ih =>
    obtain ⟨htables, hbehind, hedges⟩ := ih (p.apply s)
    refine ⟨?_, fun i t hi hbefore => ?_, ?_⟩
    · have hfirst : List.Forall₂
          (fun t t' : Table => t.Keeps (fun column => ∃ q ∈ p :: pending, q.Names t.name column) t')
          s.tables (p.apply s).tables :=
        (keeps_apply s p).imp fun t t' h => h.mono fun column hnames => ⟨p, by simp, hnames⟩
      have hrest := htables.imp fun t t' h => h.mono fun column hnames =>
        show ∃ q ∈ p :: pending, q.Names t.name column from
          hnames.imp fun q hq => ⟨List.mem_cons_of_mem p hq.1, hq.2⟩
      refine forall₂_trans (fun t t' t'' h h' => ?_) hfirst hrest
      rw [h.name] at h'
      exact h.trans h'
    · -- the names are still those of before, so the table is still not the first of its name
      apply hbehind i t (getElem?_apply hi hbefore p)
      rwa [names_apply]
    · -- no constraint makes a column for another, so each can be asked about the schema of before
      simp only [edges_apply] at hedges
      rw [List.flatMap_cons, ← List.append_assoc, ← relationships_apply_eq]
      exact hedges

theorem reconcile_frame_duplicates :
    ∃ (s : Schema) (pending : List PendingConstraint) (t : Table),
      s.tables.map (·.name) = ["t", "t"] ∧ s.tables[1]? = some t ∧
      t.name ∈ (s.tables.map (·.name)).take 1 ∧
      pending = [⟨"t", .foreignKey, ["a", "b"], some "v", ["x"]⟩, ⟨"w", .primaryKey, ["b"], none, []⟩] ∧
      (s.reconcile pending).tables[1]? = some t ∧
      (s.reconcile pending).relationships =
        [.oneToMany "t" "a" "u" "id", .oneToMany "t" "a" "v" "x"] := by
  let t : Table := ⟨"t", [⟨"b", "INT", false, false, true, none⟩]⟩
  let s : Schema := ⟨[⟨"t", [⟨"a", "INT", false, true, true, some ⟨"u", "id"⟩⟩]⟩, t],
    [.oneToMany "t" "a" "u" "id"]⟩
  let pending : List PendingConstraint :=
    [⟨"t", .foreignKey, ["a", "b"], some "v", ["x"]⟩, ⟨"w", .primaryKey, ["b"], none, []⟩]
  obtain ⟨-, hbehind, hedges⟩ := reconcile_frame s pending
  refine ⟨s, pending, t, rfl, rfl, by decide, rfl, hbehind 1 t rfl (by decide), hedges.trans ?_⟩
  decide

end Runs

end SqlSchema
