import SqlSchema.Proofs.Vocabulary
/-!
# Invariants of reconciliation

Constraints change the columns of tables in two ways only, so what both of them preserve holds of every
table of a schema if it holds of the tables as they were declared.
-/
namespace SqlSchema

section UpdateFirst

variable {α β : Type} {p : α → Bool} {f : α → α}

theorem mem_updateFirst {xs : List α} {x : α} (h : x ∈ updateFirst p f xs) :
    x ∈ xs ∨ ∃ y ∈ xs, p y ∧ x = f y := by
  induction xs with
  | nil => simp [updateFirst] at h
  | cons y ys ih =>
    rw [updateFirst] at h
    split at h
    · next hp =>
      rcases List.mem_cons.1 h with rfl | h
      · exact .inr ⟨y, by simp, hp, rfl⟩
      · exact .inl (by simp [h])
    · rcases List.mem_cons.1 h with rfl | h
      · exact .inl (by simp)
      · rcases ih h with h | ⟨z, hz, hp, rfl⟩
        · exact .inl (by simp [h])
        · exact .inr ⟨z, by simp [hz], hp, rfl⟩

theorem mem_updateFirst_of_mem {xs : List α} {x : α} (h : x ∈ xs) :
    x ∈ updateFirst p f xs ∨ f x ∈ updateFirst p f xs := by
  induction xs with
  | nil => simp at h
  | cons y ys ih =>
    rw [updateFirst]
    rcases List.mem_cons.1 h with rfl | h
    · split <;> simp
    · split
      · exact .inl (List.mem_cons_of_mem _ h)
      · exact (ih h).imp (List.mem_cons_of_mem _) (List.mem_cons_of_mem _)

theorem mem_updateFirst_of_find? {xs : List α} {x : α} (h : xs.find? p = some x) :
    f x ∈ updateFirst p f xs := by
  induction xs with
  | nil => simp at h
  | cons y ys ih =>
    rw [updateFirst]
    by_cases hp : p y
    · obtain rfl : y = x := by simpa [hp] using h
      simp [hp]
    · have hrest : ys.find? p = some x := by simpa [hp] using h
      simp [hp, ih hrest]

theorem map_updateFirst {g : α → β} (hg : ∀ x, g (f x) = g x) (xs : List α) :
    (updateFirst p f xs).map g = xs.map g := by
  induction xs with
  | nil => rfl
  | cons x xs ih =>
    rw [updateFirst]
    split <;> simp [hg, ih]

end UpdateFirst

theorem mem_updateColumn {t : Table} {name : String} {f : Column → Column} {c : Column}
    (h : c ∈ (t.updateColumn name f).columns) : c ∈ t.columns ∨ ∃ c' ∈ t.columns, c = f c' := by
  rcases mem_updateFirst h with h | ⟨c', hc', -, rfl⟩
  · exact .inl h
  · exact .inr ⟨c', hc', rfl⟩

theorem Table.updateColumn_names (t : Table) (name : String) {f : Column → Column}
    (hf : ∀ c, (f c).name = c.name) :
    (t.updateColumn name f).columns.map (·.name) = t.columns.map (·.name) :=
  map_updateFirst hf t.columns

section Invariants

variable {T : Table → Prop}
  (hkey : ∀ t name, T t → T (t.updateColumn name Column.asPrimaryKey))

include hkey

theorem apply_tables {s : Schema} {p : PendingConstraint} (hs : ∀ t ∈ s.tables, T t)
    (href : ∀ t target name column, p.target = some target →
      (name, column) ∈ columnPairs p.columns p.targetColumns → T t →
      T (t.updateColumn name (·.withReference ⟨target, column⟩))) :
    ∀ t ∈ (p.apply s).tables, T t := by
  intro t ht
  unfold PendingConstraint.apply at ht
  split at ht
  · rcases mem_updateFirst ht with h | ⟨t', ht', -, rfl⟩
    · exact hs t h
    · exact List.foldlRecOn _ _ (hs t' ht') fun u hu name _ => hkey u name hu
  · next target _ _ htarget =>
    rcases mem_updateFirst ht with h | ⟨t', ht', -, rfl⟩
    · exact hs t h
    · exact List.foldlRecOn _ _ (hs t' ht') fun u hu pair hpair =>
        href u _ pair.1 pair.2 htarget (List.mem_filter.1 hpair).1 hu
  · exact hs t ht

theorem reconcile_tables {s : Schema} {pending : List PendingConstraint} (hs : ∀ t ∈ s.tables, T t)
    (href : ∀ p ∈ pending, ∀ t target name column, p.target = some target →
      (name, column) ∈ columnPairs p.columns p.targetColumns → T t →
      T (t.updateColumn name (·.withReference ⟨target, column⟩))) :
    ∀ t ∈ (s.reconcile pending).tables, T t := by
  induction pending generalizing s with
  | nil => exact hs
  | cons p pending ih =>
    exact ih (apply_tables hkey hs (href p (by simp))) fun q hq => href q (by simp [hq])

/-- An invariant of the tables of a script: it holds of the tables as they are declared, and both
changes of a column preserve it. -/
theorem schemaOf_tables {dedup : Bool} {statements : List Statement}
    (hdraft : ∀ c, .create c ∈ statements → T c.draft.table)
    (href : ∀ a, .alter a ∈ statements → ∀ p ∈ a.pending, ∀ t target name column,
      p.target = some target → (name, column) ∈ columnPairs p.columns p.targetColumns → T t →
      T (t.updateColumn name (·.withReference ⟨target, column⟩))) :
    ∀ t ∈ (schemaOf dedup statements).tables, T t := by
  have key : ∀ t ∈ ((declaredSchema statements).reconcile (pendingConstraints statements)).tables,
      T t := by
    refine reconcile_tables hkey (fun t ht => ?_) fun p hp => ?_
    · simp only [declaredSchema, List.mem_map, List.mem_filterMap] at ht
      obtain ⟨_, ⟨c, ⟨s, hs, hc⟩, rfl⟩, rfl⟩ := ht
      cases s with
      | create c' =>
        obtain rfl := Option.some.inj hc
        exact hdraft _ hs
      | alter => cases hc
    · simp only [pendingConstraints, List.mem_flatMap, List.mem_filterMap] at hp
      obtain ⟨a, ⟨s, hs, ha⟩, hp⟩ := hp
      cases s with
      | create => cases ha
      | alter a' =>
        obtain rfl := Option.some.inj ha
        exact href _ hs p hp
  unfold schemaOf
  split
  · exact key
  · exact key

end Invariants

theorem Table.Within.asPrimaryKey {v : Vocabulary} {t : Table} (ht : t.Within v) (name : String) :
    (t.updateColumn name Column.asPrimaryKey).Within v := by
  refine ⟨ht.name, fun c hc => ?_⟩
  rcases mem_updateColumn hc with h | ⟨c, h, rfl⟩
  · exact ht.columns c h
  · have hw := ht.columns c h
    exact ⟨hw.name, hw.type, hw.reference⟩

theorem Table.Within.withReference {v : Vocabulary} {t : Table} (ht : t.Within v) (name : String)
    {r : ColumnRef} (hr : r.Within v) : (t.updateColumn name (·.withReference r)).Within v := by
  refine ⟨ht.name, fun c hc => ?_⟩
  rcases mem_updateColumn hc with h | ⟨c, h, rfl⟩
  · exact ht.columns c h
  · have hw := ht.columns c h
    refine ⟨hw.name, hw.type, fun r' hr' => ?_⟩
    obtain rfl : r = r' := Option.some.inj hr'
    exact hr

theorem schemaOf_within {v : Vocabulary} {dedup : Bool} {statements : List Statement}
    (h : ∀ s ∈ statements, s.Within v) : ∀ t ∈ (schemaOf dedup statements).tables, t.Within v := by
  refine schemaOf_tables (fun t name ht => ht.asPrimaryKey name)
    (fun c hc => (CreateTable.draft_within (h _ hc)).table)
    fun a ha p hp t target name column htarget hpair ht => ht.withReference name ?_
  have hw := AlterTable.pending_within (h _ ha) p hp
  obtain ⟨hname, hcolumn⟩ := mem_columnPairs hpair
  refine ⟨hw.target target htarget, ?_⟩
  rcases hcolumn with h | rfl
  · exact hw.targetColumns _ h
  · exact hw.columns _ hname

/-- The names and types of a schema are among those that its statements give. -/
theorem readStatements_within {v : Vocabulary} {source : String} {ts : List Token}
    (hnames : ∀ n ∈ namesIn ts, v.name n)
    (htypes : ∀ statement ∈ splitStatements ts, ∀ type, IsTypeOf source statement type → v.type type)
    (dedup : Bool) : ∀ t ∈ (schemaOf dedup (readStatements source ts)).tables, t.Within v := by
  refine schemaOf_within fun s hs => ?_
  obtain ⟨statement, hstatement, hread⟩ := List.mem_filterMap.1 hs
  exact readStatement?_within hread
    (fun n hn => hnames n (namesIn_subset (splitStatements_isInfix hstatement).subset hn))
    (htypes statement hstatement)

end SqlSchema
