import Mathlib.Data.List.Nodup
import SqlSchema.Proofs.Blanks
import SqlSchema.Proofs.ElementLines
import SqlSchema.Proofs.Vocabulary
/-!
# Reading exported tables

A table is read back as it is if each of its lines reads as the element that it was written for.
-/
namespace SqlSchema

/-- One relationship for each reference, in the order of the columns. -/
def Table.references (t : Table) : List Relationship :=
  t.columns.filterMap fun c => c.foreignKeyRef.map fun r =>
    Relationship.oneToMany t.name c.name r.table r.column

namespace Ddl

section Keys

def foreignKeyPart? (c : Column) : Option (List Piece × TableElement) :=
  c.foreignKeyRef.map fun r =>
    (foreignKeyPieces c.name r.table r.column, .foreignKey ⟨[c.name], r.table, [r.column]⟩)

/-- The lines of a table behind its columns. -/
def keyLines (t : Table) : List (List Piece × TableElement) :=
  (if t.primaryKey = [] then []
    else [(primaryKeyPieces (t.primaryKey.map (·.name)), .primaryKey (t.primaryKey.map (·.name)))]) ++
  t.columns.filterMap foreignKeyPart?

theorem forall_keyLines {p : List Piece × TableElement → Prop}
    (hprimary : ∀ names, p (primaryKeyPieces names, .primaryKey names))
    (hforeign : ∀ name table column,
      p (foreignKeyPieces name table column, .foreignKey ⟨[name], table, [column]⟩)) (t : Table) :
    ∀ line ∈ keyLines t, p line := by
  intro line hline
  rcases List.mem_append.1 hline with hline | hline
  · split at hline
    · simp at hline
    · rw [List.mem_singleton.1 hline]
      exact hprimary _
  · obtain ⟨c, -, hc⟩ := List.mem_filterMap.1 hline
    obtain ⟨r, -, rfl⟩ := Option.map_eq_some_iff.1 hc
    exact hforeign c.name r.table r.column

theorem isLine_keyLines (d : Dialect) (next : Char) (t : Table) :
    ∀ line ∈ keyLines t, IsLine d next line.1 line.2 :=
  forall_keyLines (isLine_primaryKey d next) (isLine_foreignKey d next) t

private theorem rawText_primaryKeyPieces (names : List String) :
    rawText (primaryKeyPieces names) =
      ("  PRIMARY KEY (" ++ ", ".intercalate (names.map quote) ++ ")").toList := by
  simp [primaryKeyPieces, keywordPieces, rawText_nameGroup, blankPiece, wordPiece]

private theorem rawText_foreignKeyPieces (name table column : String) :
    rawText (foreignKeyPieces name table column) =
      ("  FOREIGN KEY (" ++ quote name ++ ") REFERENCES " ++ quote table ++ "(" ++ quote column ++
        ")").toList := by
  simp [foreignKeyPieces, keywordPieces, targetPieces, rawText_nameGroup, blankPiece, wordPiece,
    String.intercalate_singleton]

theorem rawText_keyLines (t : Table) : (keyLines t).map (fun line => rawText line.1) =
    (primaryKeyLines t ++ t.columns.filterMap foreignKeyLine?).map String.toList := by
  rw [keyLines, List.map_append, List.map_append, List.map_filterMap, List.map_filterMap]
  congr 1
  · cases hkey : t.primaryKey with
    | nil => simp [primaryKeyLines, hkey]
    | cons c cs =>
      simp [primaryKeyLines, hkey, rawText_primaryKeyPieces, Function.comp_def]
  · refine List.filterMap_congr fun c _ => ?_
    cases hc : c.foreignKeyRef with
    | none => simp [foreignKeyPart?, foreignKeyLine?, hc]
    | some r => simp [foreignKeyPart?, foreignKeyLine?, hc, rawText_foreignKeyPieces]

end Keys

section Drafts

/-- The elements that the lines of a table are written for. -/
def elements (t : Table) : List TableElement :=
  t.columns.map (fun c => .column (definition c)) ++ (keyLines t).map (·.2)

def bindings (cs : List Column) : List (String × ColumnRef) :=
  cs.filterMap fun c => c.foreignKeyRef.map (c.name, ·)

private theorem addAll_append (d : TableDraft) (xs ys : List TableElement) :
    d.addAll (xs ++ ys) = (d.addAll xs).addAll ys :=
  List.foldl_append

private theorem addAll_columns {d : TableDraft} {cs : List Column}
    (h : (d.columns.map (·.name) ++ cs.map (·.name)).Nodup) :
    d.addAll (cs.map fun c => .column (definition c)) =
      { d with columns := d.columns ++ cs.map definition } := by
  induction cs generalizing d with
  | nil => simp [TableDraft.addAll]
  | cons c cs ih =>
    have hnew : d.hasColumn (definition c).name = false := by
      rw [TableDraft.hasColumn, List.any_eq_false]
      intro x hx hname
      have hne := (List.nodup_append.1 h).2.2 x.name (List.mem_map_of_mem hx) c.name (by simp)
      exact hne (by simpa [definition] using hname)
    have hstep : d.add (.column (definition c)) = { d with columns := d.columns ++ [definition c] } := by
      rw [TableDraft.add, TableDraft.addColumn, hnew]
      simp [definition, TableDraft.inlineBinding]
    have hrest := ih (d := { d with columns := d.columns ++ [definition c] }) (by
      simpa [definition] using h)
    rw [List.map_cons, TableDraft.addAll, List.foldl_cons, hstep, ← TableDraft.addAll, hrest]
    simp

private theorem addAll_foreignKeys (d : TableDraft) (cs : List Column) :
    d.addAll ((cs.filterMap foreignKeyPart?).map (·.2)) =
      { d with bindings := d.bindings ++ bindings cs } := by
  induction cs generalizing d with
  | nil => simp [TableDraft.addAll, bindings]
  | cons c cs ih =>
    cases hc : c.foreignKeyRef with
    | none =>
      have hnone : foreignKeyPart? c = none := by simp [foreignKeyPart?, hc]
      rw [List.filterMap_cons_none hnone, ih]
      simp [bindings, hc]
    | some r =>
      have hsome : foreignKeyPart? c = some
          (foreignKeyPieces c.name r.table r.column, .foreignKey ⟨[c.name], r.table, [r.column]⟩) := by
        simp [foreignKeyPart?, hc]
      have hstep : d.add (.foreignKey ⟨[c.name], r.table, [r.column]⟩) =
          { d with bindings := d.bindings ++ [(c.name, r)] } := rfl
      rw [List.filterMap_cons_some hsome, List.map_cons, TableDraft.addAll, List.foldl_cons, hstep,
        ← TableDraft.addAll, ih]
      simp [bindings, hc]

private theorem draft_elements {t : Table} (h : (t.columns.map (·.name)).Nodup) :
    (CreateTable.mk t.name (elements t)).draft =
      ⟨t.name, t.columns.map definition, t.primaryKey.map (·.name), bindings t.columns⟩ := by
  have hkeys (d : TableDraft) (hd : d.keys = []) : d.addAll ((if t.primaryKey = [] then []
      else [(primaryKeyPieces (t.primaryKey.map (·.name)),
        TableElement.primaryKey (t.primaryKey.map (·.name)))]).map (·.2)) =
      { d with keys := t.primaryKey.map (·.name) } := by
    obtain ⟨name, columns, keys, bindings⟩ := d
    obtain rfl : keys = [] := hd
    split
    · next hnone => simp [TableDraft.addAll, hnone]
    · simp [TableDraft.addAll, TableDraft.add]
  rw [CreateTable.draft, elements, keyLines, List.map_append, addAll_append, addAll_append,
    addAll_columns (by simpa [TableDraft.empty] using h), hkeys _ rfl, addAll_foreignKeys]
  simp [TableDraft.empty]

private theorem mem_bindings {cs : List Column} {b : String × ColumnRef} :
    b ∈ bindings cs ↔ ∃ c ∈ cs, c.name = b.1 ∧ c.foreignKeyRef = some b.2 := by
  obtain ⟨name, r⟩ := b
  simp [bindings, and_comm]

private theorem find?_bindings {cs : List Column} (h : (cs.map (·.name)).Nodup) {c : Column}
    (hc : c ∈ cs) :
    ((bindings cs).reverse.find? fun b => b.1 == c.name).map (·.2) = c.foreignKeyRef := by
  cases hfind : (bindings cs).reverse.find? fun b => b.1 == c.name with
  | some b =>
    have hname : b.1 = c.name := by simpa using List.find?_some hfind
    have hb : b ∈ bindings cs := by simpa using List.mem_of_find?_eq_some hfind
    obtain ⟨c', hc', hname', href⟩ := mem_bindings.1 hb
    obtain rfl := List.inj_on_of_nodup_map h hc' hc (hname'.trans hname)
    rw [href]
    rfl
  | none =>
    cases href : c.foreignKeyRef with
    | none => rfl
    | some r =>
      have hb : (c.name, r) ∈ (bindings cs).reverse := by simpa using mem_bindings.2 ⟨c, hc, rfl, href⟩
      exact absurd (List.find?_eq_none.1 hfind _ hb) (by simp)

private theorem contains_primaryKey {t : Table} (h : (t.columns.map (·.name)).Nodup) {c : Column}
    (hc : c ∈ t.columns) : (t.primaryKey.map (·.name)).contains c.name = c.isPrimaryKey := by
  rw [Bool.eq_iff_iff, List.contains_iff_mem, List.mem_map]
  constructor
  · rintro ⟨c', hc', hname⟩
    obtain ⟨hmem, hkey⟩ := List.mem_filter.1 hc'
    obtain rfl := List.inj_on_of_nodup_map h hmem hc hname
    exact hkey
  · exact fun hkey => ⟨c, List.mem_filter.2 ⟨hc, hkey⟩, rfl⟩

theorem draft_elements_table {t : Table} (h : (t.columns.map (·.name)).Nodup)
    (hflags : ∀ c ∈ t.columns, c.isForeignKey = c.foreignKeyRef.isSome) :
    (CreateTable.mk t.name (elements t)).draft.table = t ∧
      (CreateTable.mk t.name (elements t)).draft.relationships = t.references := by
  rw [draft_elements h]
  refine ⟨?_, ?_⟩
  · have hcolumn : ∀ c ∈ t.columns, TableDraft.columnOf
        ⟨t.name, t.columns.map definition, t.primaryKey.map (·.name), bindings t.columns⟩
        (definition c) = c := by
      intro c hc
      have hkey := contains_primaryKey h hc
      have href := find?_bindings h hc
      have hflag := hflags c hc
      obtain ⟨name, type, isPrimaryKey, isForeignKey, isNullable, foreignKeyRef⟩ := c
      simp only at hkey href hflag
      simp only [TableDraft.columnOf, TableDraft.binding?, definition, hkey, href, ← hflag, Bool.not_not]
    rw [TableDraft.table, List.map_map]
    exact congrArg (Table.mk t.name) ((List.map_congr_left hcolumn).trans (List.map_id _))
  · simp only [TableDraft.relationships, bindings, List.map_filterMap, Table.references]
    refine List.filterMap_congr fun c _ => ?_
    cases c.foreignKeyRef <;> rfl

end Drafts

section Texts

/-- Names that keep their lines when they are read as a part of a text, and types of one line. -/
def solid : Vocabulary where
  name := Text.IsSolid
  type type := Text.collapse type = type

/-- Text that keeps its lines behind a character that is not blank. -/
structure KeepsLine (cs : List Char) : Prop where
  noReturn : '\r' ∉ cs
  closes : Text.lineState? false cs = some false

private theorem KeepsLine.append {xs ys : List Char} (hx : KeepsLine xs) (hy : KeepsLine ys) :
    KeepsLine (xs ++ ys) := by
  refine ⟨by simp [hx.noReturn, hy.noReturn], ?_⟩
  rw [Text.lineState?_append, hx.closes, Option.bind_some, hy.closes]

private theorem IsSolidLine.append {xs ys : List Char} (hx : IsSolidLine xs) (hy : KeepsLine ys) :
    IsSolidLine (xs ++ ys) := by
  refine ⟨by simp [hx.noReturn, hy.noReturn], ?_⟩
  rw [Text.lineState?_append, hx.closes, Option.bind_some, hy.closes]

private theorem not_mem_quote {name : String} (h : Text.IsSolid name) : '\r' ∉ (quote name).toList := by
  intro hm
  rcases mem_quote hm with h' | h'
  · simp at h'
  · exact h.noReturn h'

private theorem keepsLine_quote {name : String} (h : Text.IsSolid name) :
    KeepsLine (quote name).toList :=
  ⟨not_mem_quote h, lineState?_quote h.noBlankLine false⟩

private theorem keepsLine_of_not_mem {cs : List Char} (hr : '\r' ∉ cs) (hn : '\n' ∉ cs) :
    KeepsLine cs :=
  ⟨hr, by rw [Text.lineState?_of_not_mem hn, Bool.false_and]⟩

private theorem keepsLine_names {names : List String} (h : ∀ name ∈ names, Text.IsSolid name) :
    KeepsLine (", ".intercalate (names.map quote)).toList := by
  rw [String.toList_intercalate]
  induction names with
  | nil => exact ⟨by simp, rfl⟩
  | cons name names ih =>
    have hname := keepsLine_quote (h name (by simp))
    cases names with
    | nil => simpa using hname
    | cons next names =>
      have hrest := ih fun n hn => h n (by simp [hn])
      simp only [List.map_cons] at hrest ⊢
      rw [List.intercalate_cons_cons]
      exact (hname.append (keepsLine_of_not_mem (by decide) (by decide))).append hrest

theorem not_mem_of_collapse {type : String} (h : Text.collapse type = type) {c : Char}
    (hb : Text.isBlank c) (hc : c ≠ ' ') : c ∉ type.toList := by
  intro hm
  rw [← h, Text.collapse, String.toList_ofList] at hm
  rcases Text.mem_intercalate hm with hm | ⟨word, hword, hm⟩
  · exact hc (by simpa using hm)
  · simp [Text.not_isBlank_of_mem_words hword c hm] at hb

private theorem solid_columnLine {c : Column} (h : c.Within solid) :
    IsSolidLine (columnLine c).toList := by
  have htype : KeepsLine c.type.toList := keepsLine_of_not_mem
    (not_mem_of_collapse h.type rfl (by decide)) (not_mem_of_collapse h.type rfl (by decide))
  have hname : IsSolidLine ("  ".toList ++ (quote c.name).toList) := by
    refine ⟨by simpa using not_mem_quote h.name, ?_⟩
    rw [Text.lineState?_append, show Text.lineState? true "  ".toList = some true from rfl,
      Option.bind_some, lineState?_quote h.name.noBlankLine]
  have hnull : KeepsLine (if c.isNullable then "" else " NOT NULL").toList := by
    cases c.isNullable <;> exact ⟨by decide, rfl⟩
  simp only [columnLine, String.toList_append]
  exact ((hname.append ⟨by decide, rfl⟩).append htype).append hnull

theorem solid_bodyLines {t : Table} (h : t.Within solid) :
    ∀ line ∈ bodyLines t, IsSolidLine line.toList := by
  intro line hline
  rw [bodyLines, List.append_assoc] at hline
  rcases List.mem_append.1 hline with hline | hline
  · obtain ⟨c, hc, rfl⟩ := List.mem_map.1 hline
    exact solid_columnLine (h.columns c hc)
  rcases List.mem_append.1 hline with hline | hline
  · unfold primaryKeyLines at hline
    split at hline
    · simp at hline
    · next hkey =>
      obtain rfl := List.mem_singleton.1 hline
      have hnames : ∀ name ∈ t.primaryKey.map (·.name), Text.IsSolid name := by
        intro name hname
        obtain ⟨c, hc, rfl⟩ := List.mem_map.1 hname
        exact (h.columns c (List.mem_filter.1 hc).1).name
      have hlist := keepsLine_names hnames
      rw [List.map_map] at hlist
      simp only [String.toList_append]
      exact (IsSolidLine.append ⟨by decide, rfl⟩ hlist).append ⟨by decide, rfl⟩
  · obtain ⟨c, hc, hkey⟩ := List.mem_filterMap.1 hline
    obtain ⟨r, hr, rfl⟩ := Option.map_eq_some_iff.1 hkey
    obtain ⟨htable, hcolumn⟩ := (h.columns c hc).reference r hr
    simp only [String.toList_append]
    refine IsSolidLine.append ?_ ⟨by decide, rfl⟩
    refine IsSolidLine.append ?_ (keepsLine_quote hcolumn)
    refine IsSolidLine.append ?_ ⟨by decide, rfl⟩
    refine IsSolidLine.append ?_ (keepsLine_quote htable)
    refine IsSolidLine.append ?_ ⟨by decide, rfl⟩
    exact IsSolidLine.append ⟨by decide, rfl⟩ (keepsLine_quote (h.columns c hc).name)

theorem normalize_render {s : Schema} (h : ∀ t ∈ s.tables, t.Within solid) :
    Text.normalize (render s) = String.ofList (['\n'].intercalate (s.tables.map compact)) := by
  rw [Text.normalize, normalizeChars_render]
  exact fun t ht => solid_parts (h t ht).name (solid_bodyLines (h t ht))

end Texts

/-- A table that is read back as it is. -/
structure IsExportable (d : Dialect) (t : Table) : Prop where
  within : t.Within solid
  names : (t.columns.map (·.name)).Nodup
  flags : ∀ c ∈ t.columns, c.isForeignKey = c.foreignKeyRef.isSome
  lines : ∃ lines, IsBody d lines ∧
    lines.map (fun line => rawText line.1) = (bodyLines t).map String.toList ∧
    lines.map (·.2) = elements t

theorem readStatements_render {d : Dialect} {s : Schema} (h : ∀ t ∈ s.tables, IsExportable d t) :
    ∃ ts, tokenize d (Text.normalize (render s)) = .ok ts ∧
      readStatements (Text.normalize (render s)) ts =
        s.tables.map fun t => .create ⟨t.name, elements t⟩ := by
  have hstatements : (s.tables.map fun t => Statement.create ⟨t.name, elements t⟩) =
      s.tables.flatMap fun t => [.create ⟨t.name, elements t⟩] := List.map_eq_flatMap
  rw [normalize_render fun t ht => (h t ht).within, hstatements]
  refine readStatements_intercalate fun t ht => ?_
  obtain ⟨lines, hbody, hraw, helements⟩ := (h t ht).lines
  obtain ⟨ts, hts, hclosed, hread⟩ := readStatements_compact hbody hraw
  exact ⟨ts, hts, hclosed, by rw [hread, helements]⟩

private theorem declaredSchema_elements {d : Dialect} {tables : List Table}
    (h : ∀ t ∈ tables, IsExportable d t) :
    declaredSchema (tables.map fun t => .create ⟨t.name, elements t⟩) =
      ⟨tables, tables.flatMap Table.references⟩ := by
  have hcreate : (tables.map fun t => Statement.create ⟨t.name, elements t⟩).filterMap
      Statement.create? = tables.map fun t => ⟨t.name, elements t⟩ := by
    simp [List.filterMap_map, Function.comp_def, Statement.create?]
  have hdraft : ∀ t ∈ tables, _ := fun t ht => draft_elements_table (h t ht).names (h t ht).flags
  simp only [declaredSchema, hcreate, List.map_map, List.flatMap_map]
  refine congrArg₂ Schema.mk ?_ (List.flatMap_congr fun t ht => (hdraft t ht).2)
  exact (List.map_congr_left fun t ht => (hdraft t ht).1).trans (List.map_id _)

theorem resolve_of_ne_auto {d : Dialect} (hd : d ≠ .auto) (text : String) : d.resolve text = d := by
  cases d with
  | auto => exact absurd rfl hd
  | _ => rfl

/-- Exported tables are read back, with one relationship for each reference. -/
theorem readSchema_render {options : ReadOptions} {s : Schema} (hd : options.dialect ≠ .auto)
    (hdedup : options.dedup = false) (hsize : (render s).utf8ByteSize ≤ options.maxBytes)
    (h : ∀ t ∈ s.tables, IsExportable options.dialect t) :
    readSchema options (render s) = .ok ⟨s.tables, s.tables.flatMap Table.references⟩ := by
  obtain ⟨ts, hts, hread⟩ := readStatements_render h
  have hpending : pendingConstraints (s.tables.map fun t => .create ⟨t.name, elements t⟩) = [] := by
    simp [pendingConstraints, List.filterMap_map, Function.comp_def, Statement.alter?]
  rw [readSchema, Script.read, if_neg (by omega)]
  simp only [resolve_of_ne_auto hd, hts, Except.map, Script.statements, hread, hdedup, schemaOf,
    declaredSchema_elements h, hpending, Schema.reconcile, List.foldl_nil]
  rfl

end Ddl

end SqlSchema
