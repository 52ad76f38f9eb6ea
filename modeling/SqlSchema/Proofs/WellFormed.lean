import SqlSchema.Proofs.Blanks
import SqlSchema.Proofs.Reconciliation
import SqlSchema.Proofs.Spans
/-!
# Well-formed schemas

What every schema that is read from a script satisfies, whatever constraints are applied to it and
whether or not its relationships are deduplicated.
-/
namespace SqlSchema

structure Column.WellFormed (c : Column) : Prop where
  isForeignKey : c.isForeignKey = c.foreignKeyRef.isSome
  type_ne_empty : c.type ≠ ""
  type_collapsed : Text.collapse c.type = c.type
  type_blanks : Text.IsCollapsed c.type.toList

structure Table.WellFormed (t : Table) : Prop where
  names_nodup : (t.columns.map (·.name)).Nodup
  columns : ∀ c ∈ t.columns, c.WellFormed

/-- The relationship starts at one of the tables and its id spells out its columns. -/
structure Relationship.WellFormed (tables : List Table) (r : Relationship) : Prop where
  kind : r.kind = .oneToMany
  id : r.id = r.source ++ "_" ++ r.sourceColumn ++ "_" ++ r.target ++ "_" ++ r.targetColumn
  source : ∃ t ∈ tables, t.name = r.source

structure Schema.WellFormed (s : Schema) : Prop where
  tables : ∀ t ∈ s.tables, t.WellFormed
  relationships : ∀ r ∈ s.relationships, r.WellFormed s.tables

theorem exists_run_of_isTypeIn {d : Dialect} {text : String} {item : List Token} {type : String}
    (hscan : (scan d text.toList).2 = [])
    (hitem : item <:+: tokensIn 0 (scan d text.toList).1) (h : IsTypeIn text item type) :
    ∃ qs run rs first next word tail rest, (scan d text.toList).1 = qs ++ run ++ rs ∧ IsRun run ∧
      item = first :: next :: (tail ++ rest) ∧ first.name?.isSome ∧ next.kind = .word word ∧
      readTypeTail (tail ++ rest) = (tail, rest) ∧
      tokensIn (Text.byteSize (rawText qs)) run = next :: tail ∧
      type = Text.collapse (String.ofList (rawText run)) := by
  obtain ⟨first, next, word, tail, rest, rfl, hfirst, hkind, htail, rfl⟩ := h
  obtain ⟨before, after, heq⟩ := hitem
  have hsplit : tokensIn 0 (scan d text.toList).1 =
      (before ++ [first]) ++ (next :: tail) ++ (rest ++ after) := by simp [← heq]
  obtain ⟨qs, run, rs, hpieces, hrun, -, htokens⟩ := exists_run_of_tokensIn hsplit (by simp)
  rw [Nat.zero_add] at htokens
  have hraw := rawText_scan d text.toList
  have htext : text = String.ofList (rawText qs ++ rawText run ++ rawText rs) := by
    rw [hscan, List.append_nil, hpieces, rawText_append, rawText_append] at hraw
    rw [hraw, String.ofList_toList]
  refine ⟨qs, run, rs, first, next, word, tail, rest, hpieces, hrun, rfl, hfirst, hkind, htail,
    htokens, ?_⟩
  have hsource := sourceText_tokensIn hrun (rawText qs) (rawText rs)
  rw [htokens, ← htext] at hsource
  rw [hsource]

theorem type_of_isTypeIn {d : Dialect} {text : String} {item : List Token} {type : String}
    (hscan : (scan d text.toList).2 = [])
    (hitem : item <:+: tokensIn 0 (scan d text.toList).1) (h : IsTypeIn text item type) :
    type ≠ "" ∧ Text.collapse type = type := by
  obtain ⟨qs, run, rs, first, next, word, tail, rest, hpieces, hrun, -, -, hkind, -, htokens, rfl⟩ :=
    exists_run_of_isTypeIn hscan hitem h
  refine ⟨?_, Text.collapse_collapse _⟩
  obtain ⟨p, run, rfl⟩ : ∃ p tail, run = p :: tail := by
    cases run with
    | nil => simp at htokens
    | cons p run => exact ⟨p, run, rfl⟩
  have htoken : p.token? = some (.word word) := by
    have hsome : p.token?.isSome := by simpa using hrun.1
    obtain ⟨kind, hk⟩ := Option.isSome_iff_exists.1 hsome
    rw [tokensIn_cons, Piece.tokenAt?, hk, Option.map_some, Option.toList_some,
      List.singleton_append, List.cons.injEq] at htokens
    rw [hk, ← hkind, ← htokens.1]
  have huncut : p.isCut = false := by
    unfold Piece.token? at htoken
    unfold Piece.isCut
    split at htoken <;> simp_all
  obtain ⟨_, hlexeme⟩ := exists_lexeme_of_mem_scan (d := d) (p := p)
    (by rw [hpieces]; simp) huncut
  obtain ⟨c, hc, hblank⟩ := hlexeme.exists_not_blank (by simp [htoken])
  exact Text.collapse_ne_empty (c := c) (by simp [hc]) hblank

private theorem names_addColumn {d : TableDraft} (hd : (d.columns.map (·.name)).Nodup)
    (c : ColumnDefinition) : ((d.addColumn c).columns.map (·.name)).Nodup := by
  unfold TableDraft.addColumn
  split
  · exact hd
  · next h =>
    rw [List.map_append, List.nodup_append]
    refine ⟨hd, by simp, fun name hname other hother => ?_⟩
    obtain rfl : other = c.name := by simpa using hother
    rintro rfl
    obtain ⟨c', hc', heq⟩ := List.mem_map.1 hname
    exact h (List.any_eq_true.2 ⟨c', hc', by simpa using heq⟩)

private theorem names_addAll {d : TableDraft} (hd : (d.columns.map (·.name)).Nodup)
    (elements : List TableElement) : ((d.addAll elements).columns.map (·.name)).Nodup := by
  induction elements generalizing d with
  | nil => exact hd
  | cons e elements ih =>
    refine ih ?_
    cases e with
    | column c => exact names_addColumn hd c
    | primaryKey columns => exact hd
    | foreignKey clause => exact hd

theorem draft_table_names (c : CreateTable) : (c.draft.table.columns.map (·.name)).Nodup := by
  have hnames := names_addAll (d := TableDraft.empty c.name) (by simp [TableDraft.empty]) c.elements
  simpa [TableDraft.table, TableDraft.columnOf, CreateTable.draft, Function.comp_def] using hnames

/-- What columns keep when constraints are applied: distinct names, and references that agree with
their flags. -/
def Table.HasKeys (t : Table) : Prop :=
  (t.columns.map (·.name)).Nodup ∧ ∀ c ∈ t.columns, c.isForeignKey = c.foreignKeyRef.isSome

private theorem hasKeys_updateColumn {t : Table} (ht : t.HasKeys) (name : String)
    {f : Column → Column} (hname : ∀ c, (f c).name = c.name)
    (hf : ∀ c, c.isForeignKey = c.foreignKeyRef.isSome → (f c).isForeignKey = (f c).foreignKeyRef.isSome) :
    (t.updateColumn name f).HasKeys := by
  refine ⟨?_, fun c hc => ?_⟩
  · rw [t.updateColumn_names name hname]
    exact ht.1
  · rcases mem_updateColumn hc with h | ⟨c, h, rfl⟩
    · exact ht.2 c h
    · exact hf c (ht.2 c h)

theorem schemaOf_hasKeys (dedup : Bool) (statements : List Statement) :
    ∀ t ∈ (schemaOf dedup statements).tables, t.HasKeys := by
  refine schemaOf_tables
    (fun t name ht => hasKeys_updateColumn ht name (f := Column.asPrimaryKey) (fun _ => rfl) fun _ h => h)
    (fun c _ => ⟨draft_table_names c, fun column hcolumn => ?_⟩)
    fun _ _ _ _ t _ name _ _ _ ht => hasKeys_updateColumn ht name (fun _ => rfl) fun _ _ => rfl
  obtain ⟨definition, -, rfl⟩ := List.mem_map.1 hcolumn
  rfl

/-- What no change of a column changes about a table survives the application of a constraint. -/
theorem map_apply {β : Type} {g : Table → β}
    (hg : ∀ t name, ∀ f : Column → Column, (∀ c, (f c).name = c.name) → g (t.updateColumn name f) = g t)
    (s : Schema) (p : PendingConstraint) : (p.apply s).tables.map g = s.tables.map g := by
  unfold PendingConstraint.apply
  split
  · refine map_updateFirst (fun t => ?_) _
    exact List.foldlRecOn (motive := fun u => g u = g t) _ _ rfl
      fun u hu name _ => (hg u name Column.asPrimaryKey fun _ => rfl).trans hu
  · next target _ _ _ =>
    refine map_updateFirst (fun t => ?_) _
    exact List.foldlRecOn (motive := fun u => g u = g t) _ _ rfl
      fun u hu pair _ => (hg u pair.1 (·.withReference ⟨target, pair.2⟩) fun _ => rfl).trans hu
  · rfl

theorem map_reconcile {β : Type} {g : Table → β}
    (hg : ∀ t name, ∀ f : Column → Column, (∀ c, (f c).name = c.name) → g (t.updateColumn name f) = g t)
    (s : Schema) (pending : List PendingConstraint) :
    (s.reconcile pending).tables.map g = s.tables.map g := by
  induction pending generalizing s with
  | nil => rfl
  | cons p pending ih => exact (ih (p.apply s)).trans (map_apply hg s p)

theorem names_apply (s : Schema) (p : PendingConstraint) :
    (p.apply s).tables.map (·.name) = s.tables.map (·.name) :=
  map_apply (g := Table.name) (fun _ _ _ _ => rfl) s p

private theorem wellFormed_of_names {tables tables' : List Table} {r : Relationship}
    (h : r.WellFormed tables) (hnames : tables'.map (·.name) = tables.map (·.name)) :
    r.WellFormed tables' := by
  refine ⟨h.kind, h.id, ?_⟩
  have hsource : r.source ∈ tables.map (·.name) := by simpa using h.source
  rw [← hnames] at hsource
  simpa using hsource

private theorem relationships_apply {s : Schema} (hs : ∀ r ∈ s.relationships, r.WellFormed s.tables)
    (p : PendingConstraint) : ∀ r ∈ (p.apply s).relationships, r.WellFormed (p.apply s).tables := by
  intro r hr
  refine wellFormed_of_names ?_ (names_apply s p)
  unfold PendingConstraint.apply at hr
  split at hr
  · exact hs r hr
  · next t target ht _ _ =>
    rcases List.mem_append.1 hr with hr | hr
    · exact hs r hr
    · obtain ⟨pair, -, rfl⟩ := List.mem_map.1 hr
      exact ⟨rfl, rfl, t, List.mem_of_find?_eq_some ht, rfl⟩
  · exact hs r hr

private theorem relationships_reconcile {s : Schema}
    (hs : ∀ r ∈ s.relationships, r.WellFormed s.tables) (pending : List PendingConstraint) :
    ∀ r ∈ (s.reconcile pending).relationships, r.WellFormed (s.reconcile pending).tables := by
  induction pending generalizing s with
  | nil => exact hs
  | cons p pending ih => exact ih (relationships_apply hs p)

private theorem relationships_declared (statements : List Statement) :
    ∀ r ∈ (declaredSchema statements).relationships, r.WellFormed (declaredSchema statements).tables := by
  intro r hr
  obtain ⟨draft, hdraft, hr⟩ := List.mem_flatMap.1 hr
  obtain ⟨b, -, rfl⟩ := List.mem_map.1 hr
  exact ⟨rfl, rfl, draft.table, List.mem_map_of_mem hdraft, rfl⟩

theorem mem_of_mem_firstOfEachId {seen : List String} {rs : List Relationship} {r : Relationship}
    (h : r ∈ firstOfEachId seen rs) : r ∈ rs := by
  induction rs generalizing seen with
  | nil => simp [firstOfEachId] at h
  | cons s rs ih =>
    rw [firstOfEachId] at h
    split at h
    · exact List.mem_cons_of_mem _ (ih h)
    · rcases List.mem_cons.1 h with rfl | h
      · simp
      · exact List.mem_cons_of_mem _ (ih h)

theorem schemaOf_relationships (dedup : Bool) (statements : List Statement) :
    ∀ r ∈ (schemaOf dedup statements).relationships,
      r.WellFormed (schemaOf dedup statements).tables := by
  have key := relationships_reconcile (relationships_declared statements) (pendingConstraints statements)
  unfold schemaOf
  split
  · exact fun r hr => key r (mem_of_mem_firstOfEachId hr)
  · exact key

/-- The vocabulary of all names and of types that are collapsed and not empty. -/
def collapsedTypes : Vocabulary where
  name _ := True
  type type := type ≠ "" ∧ Text.collapse type = type

theorem readStatements_collapsedTypes {d : Dialect} {text : String} {ts : List Token}
    (h : tokenize d text = .ok ts) (dedup : Bool) :
    ∀ t ∈ (schemaOf dedup (readStatements text ts)).tables, t.Within collapsedTypes := by
  obtain ⟨hscan, rfl⟩ := tokenize_eq_ok_iff.1 h
  refine readStatements_within (fun _ _ => trivial) (fun statement hstatement type htype => ?_) dedup
  obtain ⟨name, items, item, houtline, hitem, htype⟩ := htype
  rw [tokensOf_eq, splitStatements_concat_end _ rfl] at hstatement
  exact type_of_isTypeIn hscan
    (((readOutline?_spec houtline).2 item hitem).trans (splitStatements_isInfix hstatement)) htype

theorem readSchema_eq_ok {options : ReadOptions} {input : String} {s : Schema}
    (h : readSchema options input = .ok s) :
    ∃ ts, tokenize (options.dialect.resolve (Text.normalize input)) (Text.normalize input) = .ok ts ∧
      s = schemaOf options.dedup (readStatements (Text.normalize input) ts) := by
  unfold readSchema Script.read at h
  split at h
  · cases h
  · simp only at h
    split at h
    · next ts hts => exact ⟨ts, hts, (Except.ok.inj h).symm⟩
    · cases h

theorem readSchema_of_tokenize {options : ReadOptions} {input : String} {ts : List Token}
    (hsize : input.utf8ByteSize ≤ options.maxBytes)
    (hts : tokenize (options.dialect.resolve (Text.normalize input)) (Text.normalize input) = .ok ts) :
    readSchema options input =
      .ok (schemaOf options.dedup (readStatements (Text.normalize input) ts)) := by
  rw [readSchema, Script.read, if_neg (by omega)]
  simp only [hts, Except.map, Script.statements]

theorem readSchema_of_normalize {options : ReadOptions} {d : Dialect} {script text : String}
    (h : Text.normalize script = text) (hd : options.dialect.resolve text = d)
    (hsize : script.utf8ByteSize ≤ options.maxBytes) (hleft : (scan d text.toList).2 = []) :
    readSchema options script =
      .ok (schemaOf options.dedup (readStatements text (tokensOf 0 (scan d text.toList).1))) := by
  subst h hd
  exact readSchema_of_tokenize hsize (tokenize_eq_ok_iff.2 ⟨hleft, rfl⟩)

/-- A normalized script is read from its characters. They are cheap to compute with, other than those that
are decoded from its bytes. -/
theorem readSchema_ofList {options : ReadOptions} {d : Dialect} {cs : List Char} {s : Schema}
    (hd : options.dialect.resolve (String.ofList cs) = d) (hsize : Text.byteSize cs ≤ options.maxBytes)
    (hnormal : Text.normalizeChars cs = cs) (hleft : (scan d cs).2 = [])
    (hs : schemaOf options.dedup (readStatements (String.ofList cs) (tokensOf 0 (scan d cs).1)) = s) :
    readSchema options (String.ofList cs) = .ok s := by
  have hchars : (String.ofList cs).toList = cs := String.toList_ofList
  have hnormalize : Text.normalize (String.ofList cs) = String.ofList cs := by
    rw [Text.normalize, hchars, hnormal]
  have hread := @readSchema_of_normalize options _ _ _ hnormalize hd
  rw [hchars, ← Text.byteSize_toList, hchars, hs] at hread
  exact hread hsize hleft

/-- Every schema that is read is well-formed. -/
theorem readSchema_wellFormed {options : ReadOptions} {input : String} {s : Schema}
    (h : readSchema options input = .ok s) : s.WellFormed := by
  obtain ⟨ts, hts, rfl⟩ := readSchema_eq_ok h
  refine ⟨fun t ht => ?_, schemaOf_relationships _ _⟩
  obtain ⟨hnames, hflags⟩ := schemaOf_hasKeys _ _ t ht
  have hwithin := readStatements_collapsedTypes hts _ t ht
  refine ⟨hnames, fun c hc => ?_⟩
  obtain ⟨hne, hcollapse⟩ := (hwithin.columns c hc).type
  exact ⟨hflags c hc, hne, hcollapse, (Text.collapse_eq_self_iff c.type).1 hcollapse⟩

theorem readSchema_wellFormed_orders :
    ∃ s, readSchema ReadOptions.default
        "CREATE TABLE o (id INT, c INT REFERENCES u); ALTER TABLE o ADD PRIMARY KEY (id)" = .ok s ∧
      s.tables ≠ [] ∧ s.WellFormed := by
  have h : readSchema ReadOptions.default
      "CREATE TABLE o (id INT, c INT REFERENCES u); ALTER TABLE o ADD PRIMARY KEY (id)" =
        .ok ⟨[⟨"o", [⟨"id", "INT", true, false, true, none⟩,
          ⟨"c", "INT", false, true, true, some ⟨"u", "c"⟩⟩]⟩], [.oneToMany "o" "c" "u" "c"]⟩ := by
    refine readSchema_ofList (d := .generic) rfl (by decide) (by decide) (by with_unfolding_all decide) ?_
    with_unfolding_all decide
  exact ⟨_, h, by decide, readSchema_wellFormed h⟩

end SqlSchema
