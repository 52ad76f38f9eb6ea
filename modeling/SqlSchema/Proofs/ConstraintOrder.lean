import Mathlib.Data.List.Induction
import SqlSchema.Proofs.EdgeSources
/-!
# The order of constraints

Of the constraints that are applied to a schema only foreign keys depend on their order, since the last
one decides what a column refers to. To mark a column as a primary key commutes with every constraint, and
to mark it again changes nothing. So a run comes down to its foreign keys and a set of columns to mark.
-/
namespace SqlSchema

section Folds

variable {α σ : Type} {step : σ → α → σ}

private theorem foldl_step_of_mem (hcomm : ∀ s a b, step (step s a) b = step (step s b) a)
    (hidem : ∀ s a, step (step s a) a = step s a) {xs : List α} {a : α} (ha : a ∈ xs) (s : σ) :
    xs.foldl step (step s a) = xs.foldl step s := by
  induction xs generalizing s with
  | nil => simp at ha
  | cons x xs ih =>
    rw [List.foldl_cons, List.foldl_cons]
    rcases List.mem_cons.1 ha with rfl | ha
    · rw [hidem]
    · rw [hcomm, ih ha]

/-- Steps that commute and need not be repeated lead to what the set of steps decides. -/
theorem foldl_congr_of_mem_iff (hcomm : ∀ s a b, step (step s a) b = step (step s b) a)
    (hidem : ∀ s a, step (step s a) a = step s a) {xs ys : List α} (h : ∀ a, a ∈ xs ↔ a ∈ ys) (s : σ) :
    xs.foldl step s = ys.foldl step s := by
  -- steps in front of a run that makes them too can be left out
  have habsorb {xs ys : List α} (hsub : ys ⊆ xs) (s : σ) : xs.foldl step (ys.foldl step s) = xs.foldl step s :=
    List.foldlRecOn (motive := fun u => xs.foldl step u = xs.foldl step s) _ _ rfl
      fun u hu y hy => (foldl_step_of_mem hcomm hidem (hsub hy) u).trans hu
  calc xs.foldl step s
      = (ys ++ xs).foldl step s := by rw [List.foldl_append, habsorb fun a ha => (h a).2 ha]
    _ = (xs ++ ys).foldl step s := List.perm_append_comm.foldl_eq' (fun a _ b _ u => hcomm u a b) s
    _ = ys.foldl step s := by rw [List.foldl_append, habsorb fun a ha => (h a).1 ha]

end Folds

section Updates

variable {α : Type} {key : α → String} {f g : α → α}

theorem updateFirst_comm (hf : ∀ x, key (f x) = key x) (hg : ∀ x, key (g x) = key x)
    (hcomm : ∀ x, f (g x) = g (f x)) (m n : String) (xs : List α) :
    updateFirst (fun x => key x == m) f (updateFirst (fun x => key x == n) g xs) =
      updateFirst (fun x => key x == n) g (updateFirst (fun x => key x == m) f xs) := by
  induction xs with
  | nil => rfl
  | cons x xs ih =>
    cases hm : key x == m <;> cases hn : key x == n <;>
      simp only [updateFirst, hm, hn, hf, hg, hcomm, ih, if_true, if_false, Bool.false_eq_true]

theorem updateFirst_updateFirst (hf : ∀ x, key (f x) = key x) (n : String) (xs : List α) :
    updateFirst (fun x => key x == n) g (updateFirst (fun x => key x == n) f xs) =
      updateFirst (fun x => key x == n) (fun x => g (f x)) xs := by
  induction xs with
  | nil => rfl
  | cons x xs ih => by_cases hn : key x = n <;> simp [updateFirst, hn, hf, ih]

theorem foldl_updateFirst {β : Type} {step : α → β → α} (hstep : ∀ x b, key (step x b) = key x) (n : String)
    (bs : List β) (xs : List α) :
    bs.foldl (fun xs b => updateFirst (fun x => key x == n) (step · b) xs) xs =
      updateFirst (fun x => key x == n) (bs.foldl step ·) xs := by
  induction bs generalizing xs with
  | nil =>
    have hid := @map_updateFirst _ _ (fun x => key x == n) (fun x => x) id (fun _ => rfl) xs
    rw [List.map_id, List.map_id] at hid
    exact hid.symm
  | cons b bs ih =>
    rw [List.foldl_cons, ih, updateFirst_updateFirst fun x => hstep x b]
    rfl

theorem updateFirst_eq_self {p : α → Bool} {xs : List α} (h : xs.find? p = none) :
    updateFirst p f xs = xs := by
  induction xs with
  | nil => rfl
  | cons x xs ih =>
    obtain ⟨hx, hxs⟩ : p x = false ∧ xs.find? p = none := by
      cases hx : p x <;> simp_all
    rw [updateFirst, hx, ih hxs]
    rfl

theorem find?_updateFirst (hf : ∀ x, key (f x) = key x) (m n : String) (xs : List α) :
    (updateFirst (fun x => key x == m) f xs).find? (fun x => key x == n) =
      (xs.find? fun x => key x == n).map fun x => if m = n then f x else x := by
  induction xs with
  | nil => rfl
  | cons x xs ih =>
    by_cases hn : key x = n
    · by_cases hm : n = m
      · simp [updateFirst, hn, hm, hf]
      · have hmn : m ≠ n := fun h => hm h.symm
        simp [updateFirst, hn, hm, hmn]
    · by_cases hm : key x = m
      · have hmn : m ≠ n := fun h => hn (hm.trans h)
        simp [updateFirst, hm, hf, hmn]
      · simp [updateFirst, hm, hn, ih]

end Updates

section Keys

/-- Marks a column, given by the names of its table and its own, as a primary key. -/
def Schema.markKey (s : Schema) (key : String × String) : Schema :=
  s.updateTable key.1 (·.updateColumn key.2 Column.asPrimaryKey)

/-- The columns that a primary key names, with their table. -/
def PendingConstraint.keys (p : PendingConstraint) : List (String × String) :=
  if p.kind = .primaryKey then p.columns.map (p.table, ·) else []

theorem Table.updateColumn_comm {f g : Column → Column} (hf : ∀ c, (f c).name = c.name)
    (hg : ∀ c, (g c).name = c.name) (hcomm : ∀ c, f (g c) = g (f c)) (t : Table) (m n : String) :
    (t.updateColumn n g).updateColumn m f = (t.updateColumn m f).updateColumn n g := by
  simp only [updateColumn, updateFirst_comm hf hg hcomm]

theorem Schema.updateTable_comm {f g : Table → Table} (hf : ∀ t, (f t).name = t.name)
    (hg : ∀ t, (g t).name = t.name) (hcomm : ∀ t, f (g t) = g (f t)) (s : Schema) (m n : String) :
    (s.updateTable n g).updateTable m f = (s.updateTable m f).updateTable n g := by
  simp only [updateTable, updateFirst_comm hf hg hcomm]

private theorem asPrimaryKey_name (c : Column) : c.asPrimaryKey.name = c.name := rfl

private theorem withReference_name (target : ColumnRef) (c : Column) : (c.withReference target).name = c.name :=
  rfl

private theorem updateColumn_name (column : String) (t : Table) :
    (t.updateColumn column Column.asPrimaryKey).name = t.name :=
  rfl

theorem Schema.markKey_comm (s : Schema) (k l : String × String) :
    (s.markKey k).markKey l = (s.markKey l).markKey k := by
  refine updateTable_comm (updateColumn_name l.2) (updateColumn_name k.2) (fun t => ?_) s l.1 k.1
  exact t.updateColumn_comm asPrimaryKey_name asPrimaryKey_name (fun _ => rfl) l.2 k.2

theorem Schema.markKey_idem (s : Schema) (k : String × String) : (s.markKey k).markKey k = s.markKey k := by
  have hcolumns (t : Table) : (t.updateColumn k.2 Column.asPrimaryKey).updateColumn k.2 Column.asPrimaryKey =
      t.updateColumn k.2 Column.asPrimaryKey := by
    simp only [Table.updateColumn, updateFirst_updateFirst asPrimaryKey_name]
    rfl
  simp only [markKey, updateTable, updateFirst_updateFirst (updateColumn_name k.2), hcolumns]

theorem Schema.table?_markKey (s : Schema) (k : String × String) (name : String) :
    (s.markKey k).table? name =
      (s.table? name).map fun t => if k.1 = name then t.updateColumn k.2 Column.asPrimaryKey else t :=
  find?_updateFirst (updateColumn_name k.2) k.1 name s.tables

end Keys

section Runs

variable {p : PendingConstraint}

theorem PendingConstraint.apply_eq_of_primaryKey (hkind : p.kind = .primaryKey) (s : Schema) :
    p.apply s = p.keys.foldl Schema.markKey s := by
  have htables (s : Schema) : p.columns.foldl (fun s column => s.markKey (p.table, column)) s =
      ⟨p.columns.foldl (fun ts column => updateFirst (fun t => t.name == p.table)
        (·.updateColumn column Column.asPrimaryKey) ts) s.tables, s.relationships⟩ := by
    induction p.columns generalizing s with
    | nil => rfl
    | cons column columns ih => exact ih _
  have hkeys : p.keys.foldl Schema.markKey s = s.updateTable p.table (·.withKeys p.columns) := by
    rw [keys, if_pos hkind, List.foldl_map, htables, foldl_updateFirst fun t column => updateColumn_name column t]
    rfl
  rw [hkeys]
  cases ht : s.table? p.table with
  | some t => exact apply_primaryKey ht hkind
  | none =>
    simp only [apply, ht, Schema.updateTable]
    rw [updateFirst_eq_self ht]

/-- A foreign key binds the same columns before one of them is marked and behind it. -/
private theorem bindingsIn_asPrimaryKey (p : PendingConstraint) (t : Table) (column target : String) :
    p.bindingsIn (t.updateColumn column Column.asPrimaryKey) target = p.bindingsIn t target := by
  have hcolumn (name : String) :
      ((t.updateColumn column Column.asPrimaryKey).column? name).isSome = (t.column? name).isSome := by
    rw [Bool.eq_iff_iff, Table.isSome_column?, Table.isSome_column?, t.updateColumn_names column asPrimaryKey_name]
  simp only [PendingConstraint.bindingsIn, PendingConstraint.pairsIn, hcolumn]

theorem Table.bind_asPrimaryKey (t : Table) (column : String) (bindings : List (String × ColumnRef)) :
    (t.updateColumn column Column.asPrimaryKey).bind bindings =
      (t.bind bindings).updateColumn column Column.asPrimaryKey := by
  apply List.foldl_hom fun u : Table => u.updateColumn column Column.asPrimaryKey
  intro u b
  exact u.updateColumn_comm (withReference_name b.2) asPrimaryKey_name (fun _ => rfl) b.1 column

theorem PendingConstraint.apply_unique (hkind : p.kind = .unique) (s : Schema) : p.apply s = s := by
  cases ht : s.table? p.table <;> simp only [apply, ht, hkind]

theorem PendingConstraint.apply_markKey (hkind : p.kind ≠ .primaryKey) (s : Schema) (k : String × String) :
    p.apply (s.markKey k) = (p.apply s).markKey k := by
  cases ht : s.table? p.table with
  | none =>
    have ht' : (s.markKey k).table? p.table = none := by
      rw [Schema.table?_markKey, ht]
      rfl
    simp only [apply, ht, ht']
  | some t =>
    obtain ⟨t', ht', hname, hbindings⟩ : ∃ t', (s.markKey k).table? p.table = some t' ∧ t'.name = t.name ∧
        ∀ target, p.bindingsIn t' target = p.bindingsIn t target := by
      refine ⟨_, (s.table?_markKey k p.table).trans (by rw [ht]; rfl), ?_, fun target => ?_⟩
      · split <;> rfl
      · split
        · exact bindingsIn_asPrimaryKey p t k.2 target
        · rfl
    cases hkind' : p.kind with
    | primaryKey => exact absurd hkind' hkind
    | unique => simp only [apply, ht, ht', hkind']
    | foreignKey =>
      cases htarget : p.target with
      | none => simp only [apply, ht, ht', hkind', htarget]
      | some target =>
        rw [apply_foreignKey ht hkind' htarget, apply_foreignKey ht' hkind' htarget, hname, hbindings]
        have hcomm := s.updateTable_comm (fun u => u.bind_name (p.bindingsIn t target)) (updateColumn_name k.2)
          (fun u => u.bind_asPrimaryKey k.2 _) p.table k.1
        exact congrArg (fun u : Schema => Schema.mk u.tables _) hcomm

/-- A run is that of its foreign keys alone, with the columns of its primary keys marked in the end. -/
theorem reconcile_eq_foldl_markKey (s : Schema) (pending : List PendingConstraint) :
    s.reconcile pending =
      (pending.flatMap (·.keys)).foldl Schema.markKey
        (s.reconcile (pending.filter (·.kind = .foreignKey))) := by
  induction pending using List.reverseRecOn with
  | nil => rfl
  | append_singleton pending p ih =>
    have hconcat (pending : List PendingConstraint) :
        s.reconcile (pending ++ [p]) = p.apply (s.reconcile pending) := by
      rw [Schema.reconcile, List.foldl_append]
      rfl
    rw [hconcat, ih, List.flatMap_append, List.flatMap_singleton, List.foldl_append, List.filter_append,
      List.filter_singleton]
    -- a last constraint that marks nothing can be made before the columns are marked
    by_cases hkind : p.kind = .primaryKey
    · rw [p.apply_eq_of_primaryKey hkind, hkind]
      simp
    · have hkeys : p.keys = [] := if_neg hkind
      have hmarked (s : Schema) (keys : List (String × String)) :
          p.apply (keys.foldl Schema.markKey s) = keys.foldl Schema.markKey (p.apply s) :=
        (List.foldl_hom (p.apply ·) fun u k => (p.apply_markKey hkind u k).symm).symm
      rw [hkeys, List.foldl_nil, hmarked]
      cases hkind' : p.kind with
      | primaryKey => exact absurd hkind' hkind
      | foreignKey => rw [← hconcat]; simp
      | unique => rw [p.apply_unique hkind']; simp

/-- Constraints lead to the same schema if they have the same foreign keys in the same order and their
primary keys name the same columns, wherever, in whatever groups and however often they do. -/
theorem reconcile_congr {pending pending' : List PendingConstraint}
    (hforeign : pending.filter (·.kind = .foreignKey) = pending'.filter (·.kind = .foreignKey))
    (hkeys : ∀ key, key ∈ pending.flatMap (·.keys) ↔ key ∈ pending'.flatMap (·.keys)) (s : Schema) :
    s.reconcile pending = s.reconcile pending' := by
  rw [reconcile_eq_foldl_markKey s pending, reconcile_eq_foldl_markKey s pending', hforeign]
  exact foldl_congr_of_mem_iff Schema.markKey_comm Schema.markKey_idem hkeys _

/-- Keys that are named once or twice, in one group or two, in front of foreign keys over their columns or
behind them. -/
theorem reconcile_congr_groups :
    ∃ (s : Schema) (pending pending' : List PendingConstraint),
      s.tables.map (·.name) = ["t", "t"] ∧
      pending = [⟨"t", .primaryKey, ["a", "b"], none, []⟩, ⟨"t", .foreignKey, ["a"], some "u", ["x"]⟩,
        ⟨"t", .unique, ["a"], none, []⟩, ⟨"t", .foreignKey, ["a"], some "v", []⟩] ∧
      pending' = [⟨"t", .foreignKey, ["a"], some "u", ["x"]⟩, ⟨"t", .primaryKey, ["b"], none, []⟩,
        ⟨"t", .foreignKey, ["a"], some "v", []⟩, ⟨"t", .primaryKey, ["a"], none, []⟩,
        ⟨"t", .primaryKey, ["b"], none, []⟩] ∧
      pending.filter (·.kind = .foreignKey) = pending'.filter (·.kind = .foreignKey) ∧
      (∀ key, key ∈ pending.flatMap (·.keys) ↔ key ∈ pending'.flatMap (·.keys)) ∧
      s.reconcile pending = s.reconcile pending' ∧
      s.reconcile pending' =
        ⟨[⟨"t", [⟨"a", "INT", true, true, true, some ⟨"v", "a"⟩⟩, ⟨"a", "INT", false, false, true, none⟩,
            ⟨"b", "INT", true, false, true, none⟩]⟩, ⟨"t", [⟨"b", "INT", false, false, true, none⟩]⟩],
          [.oneToMany "t" "a" "u" "x", .oneToMany "t" "a" "v" "a"]⟩ := by
  let column (name : String) : Column := ⟨name, "INT", false, false, true, none⟩
  have hsame {xs ys : List (String × String)} (h : xs ⊆ ys ∧ ys ⊆ xs) : ∀ key, key ∈ xs ↔ key ∈ ys :=
    fun _ => ⟨fun hx => h.1 hx, fun hy => h.2 hy⟩
  exact ⟨⟨[⟨"t", [column "a", column "a", column "b"]⟩, ⟨"t", [column "b"]⟩], []⟩, _, _, rfl, rfl, rfl,
    by decide, hsame (by decide), reconcile_congr (by decide) (hsame (by decide)) _, by decide⟩

/-- The order of foreign keys cannot be left out: the last one decides what the column refers to. -/
example :
    let s : Schema := ⟨[⟨"t", [⟨"a", "INT", false, false, true, none⟩]⟩], []⟩
    let p : PendingConstraint := ⟨"t", .foreignKey, ["a"], some "u", ["x"]⟩
    let q : PendingConstraint := ⟨"t", .foreignKey, ["a"], some "v", ["x"]⟩
    s.reconcile [p, q] ≠ s.reconcile [q, p] := by decide

end Runs

end SqlSchema
