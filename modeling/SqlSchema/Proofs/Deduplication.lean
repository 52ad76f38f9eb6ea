import Mathlib.Data.List.Nodup
import SqlSchema.Proofs.WellFormed
/-!
# Deduplication

Relationships are deduplicated by their ids. That drops nothing but repetitions as long as relationships
of one id lead from the same column to the same column. An id spells out four names with underscores
between them, so names that hold underscores themselves can give two foreign keys the same id.
-/
namespace SqlSchema

section FirstOfEachId

theorem exists_of_mem_firstOfEachId {seen : List String} {rs : List Relationship} {r : Relationship}
    (hr : r ∈ rs) (hseen : r.id ∉ seen) : ∃ kept ∈ firstOfEachId seen rs, kept.id = r.id := by
  induction rs generalizing seen with
  | nil => simp at hr
  | cons s rs ih =>
    rw [firstOfEachId]
    split
    · next hs =>
      have hne : r ≠ s := by
        rintro rfl
        exact hseen (List.contains_iff_mem.1 hs)
      exact ih ((List.mem_cons.1 hr).resolve_left hne) hseen
    · by_cases hid : r.id = s.id
      · exact ⟨s, by simp, hid.symm⟩
      · have hne : r ≠ s := fun he => hid (he ▸ rfl)
        have hnew : r.id ∉ s.id :: seen := by simp [hid, hseen]
        obtain ⟨kept, hkept, heq⟩ := ih ((List.mem_cons.1 hr).resolve_left hne) hnew
        exact ⟨kept, List.mem_cons_of_mem _ hkept, heq⟩

theorem ids_firstOfEachId (seen : List String) (rs : List Relationship) :
    ((firstOfEachId seen rs).map (·.id)).Nodup ∧ ∀ r ∈ firstOfEachId seen rs, r.id ∉ seen := by
  induction rs generalizing seen with
  | nil => simp [firstOfEachId]
  | cons s rs ih =>
    rw [firstOfEachId]
    split
    · exact ih seen
    · next hs =>
      obtain ⟨hnodup, hnew⟩ := ih (s.id :: seen)
      constructor
      · rw [List.map_cons, List.nodup_cons]
        refine ⟨fun hm => ?_, hnodup⟩
        obtain ⟨r, hr, heq⟩ := List.mem_map.1 hm
        exact hnew r hr (by simp [heq])
      · intro r hr
        rcases List.mem_cons.1 hr with rfl | hr
        · simpa using hs
        · exact fun hm => hnew r hr (List.mem_cons_of_mem _ hm)

end FirstOfEachId

/-- The column that a relationship starts at and the column that it leads to. -/
def Relationship.edge (r : Relationship) : ColumnRef × ColumnRef :=
  (⟨r.source, r.sourceColumn⟩, ⟨r.target, r.targetColumn⟩)

theorem Relationship.WellFormed.id_eq {tables : List Table} {r s : Relationship}
    (hr : r.WellFormed tables) (hs : s.WellFormed tables) (h : r.edge = s.edge) : r.id = s.id := by
  simp only [edge, Prod.mk.injEq, ColumnRef.mk.injEq] at h
  rw [hr.id, hs.id, h.1.1, h.1.2, h.2.1, h.2.2]

/-- Deduplication keeps all edges exactly if the ids tell them apart. -/
theorem mem_edges_firstOfEachId_iff {tables : List Table} {rs : List Relationship}
    (h : ∀ r ∈ rs, r.WellFormed tables) :
    (∀ e, e ∈ (firstOfEachId [] rs).map Relationship.edge ↔ e ∈ rs.map Relationship.edge) ↔
      ∀ r ∈ rs, ∀ s ∈ rs, r.id = s.id → r.edge = s.edge := by
  have hkept {r : Relationship} (hr : r ∈ firstOfEachId [] rs) : r ∈ rs := mem_of_mem_firstOfEachId hr
  constructor
  · intro hedges r hr s hs hid
    obtain ⟨a, ha, hra⟩ := List.mem_map.1 ((hedges r.edge).2 (List.mem_map_of_mem hr))
    obtain ⟨b, hb, hsb⟩ := List.mem_map.1 ((hedges s.edge).2 (List.mem_map_of_mem hs))
    have hab : a.id = b.id := calc
      a.id = r.id := (h a (hkept ha)).id_eq (h r hr) hra
      _ = s.id := hid
      _ = b.id := ((h b (hkept hb)).id_eq (h s hs) hsb).symm
    obtain rfl := List.inj_on_of_nodup_map (ids_firstOfEachId [] rs).1 ha hb hab
    rw [← hra, hsb]
  · intro hids e
    constructor
    · intro he
      obtain ⟨r, hr, rfl⟩ := List.mem_map.1 he
      exact List.mem_map_of_mem (hkept hr)
    · intro he
      obtain ⟨r, hr, rfl⟩ := List.mem_map.1 he
      obtain ⟨kept, hmem, hid⟩ := exists_of_mem_firstOfEachId hr (List.not_mem_nil (a := r.id))
      rw [← hids kept (hkept hmem) r hr hid]
      exact List.mem_map_of_mem hmem

theorem readSchema_dedup (options : ReadOptions) (input : String) :
    readSchema { options with dedup := true } input =
      (readSchema { options with dedup := false } input).map Schema.dedupRelationships := by
  have hread : Script.read { options with dedup := true } input =
      Script.read { options with dedup := false } input := rfl
  rw [readSchema, readSchema, hread]
  cases Script.read { options with dedup := false } input <;> rfl

/-- A script that is read without deduplication is read with it, to the same tables. The same edges
are left exactly if no two foreign keys of different columns share an id. -/
theorem readSchema_dedup_edges_iff {options : ReadOptions} {input : String} {s : Schema}
    (h : readSchema { options with dedup := false } input = .ok s) :
    ∃ s', readSchema { options with dedup := true } input = .ok s' ∧ s'.tables = s.tables ∧
      ((∀ e, e ∈ s'.relationships.map Relationship.edge ↔ e ∈ s.relationships.map Relationship.edge) ↔
        ∀ r ∈ s.relationships, ∀ r' ∈ s.relationships, r.id = r'.id → r.edge = r'.edge) := by
  have hdedup := readSchema_dedup options input
  rw [h] at hdedup
  have hrelationships : ∀ r ∈ s.relationships, r.WellFormed s.tables := by
    obtain ⟨ts, -, rfl⟩ := readSchema_eq_ok h
    exact schemaOf_relationships _ _
  refine ⟨s.dedupRelationships, hdedup, rfl, ?_⟩
  exact mem_edges_firstOfEachId_iff hrelationships

theorem readSchema_dedup_edges_iff_posts :
    ∃ s s', readSchema { ReadOptions.default with dedup := false }
        "CREATE TABLE p (u_id INT REFERENCES u (id)); ALTER TABLE p ADD FOREIGN KEY (u_id) REFERENCES u (id)" =
          .ok s ∧
      readSchema { ReadOptions.default with dedup := true }
        "CREATE TABLE p (u_id INT REFERENCES u (id)); ALTER TABLE p ADD FOREIGN KEY (u_id) REFERENCES u (id)" =
          .ok s' ∧
      s.relationships.length = 2 ∧ s'.tables = s.tables ∧
      ((∀ e, e ∈ s'.relationships.map Relationship.edge ↔ e ∈ s.relationships.map Relationship.edge) ↔
        ∀ r ∈ s.relationships, ∀ r' ∈ s.relationships, r.id = r'.id → r.edge = r'.edge) := by
  have h : readSchema { ReadOptions.default with dedup := false }
      "CREATE TABLE p (u_id INT REFERENCES u (id)); ALTER TABLE p ADD FOREIGN KEY (u_id) REFERENCES u (id)" =
        .ok ⟨[⟨"p", [⟨"u_id", "INT", false, true, true, some ⟨"u", "id"⟩⟩]⟩],
          [.oneToMany "p" "u_id" "u" "id", .oneToMany "p" "u_id" "u" "id"]⟩ := by
    set_option maxRecDepth 1000 in
    refine readSchema_ofList (d := .generic) rfl (by decide) (by decide) (by with_unfolding_all decide) ?_
    with_unfolding_all decide
  obtain ⟨s', hs', htables, hedges⟩ := readSchema_dedup_edges_iff h
  exact ⟨_, s', h, hs', rfl, htables, hedges⟩

/-- Two foreign keys that are each declared once, of which deduplication drops the second: column `b_c`
of table `a` and column `c` of table `a_b` spell the same id. -/
theorem readSchema_dedup_underscore :
    ∃ s s' e, readSchema { ReadOptions.default with dedup := false }
        "CREATE TABLE a (b_c INT REFERENCES d(e)); CREATE TABLE a_b (c INT REFERENCES d(e))" = .ok s ∧
      readSchema { ReadOptions.default with dedup := true }
        "CREATE TABLE a (b_c INT REFERENCES d(e)); CREATE TABLE a_b (c INT REFERENCES d(e))" = .ok s' ∧
      e ∈ s.relationships.map Relationship.edge ∧ e ∉ s'.relationships.map Relationship.edge := by
  refine ⟨⟨[⟨"a", [⟨"b_c", "INT", false, true, true, some ⟨"d", "e"⟩⟩]⟩,
      ⟨"a_b", [⟨"c", "INT", false, true, true, some ⟨"d", "e"⟩⟩]⟩],
      [.oneToMany "a" "b_c" "d" "e", .oneToMany "a_b" "c" "d" "e"]⟩,
    ⟨[⟨"a", [⟨"b_c", "INT", false, true, true, some ⟨"d", "e"⟩⟩]⟩,
      ⟨"a_b", [⟨"c", "INT", false, true, true, some ⟨"d", "e"⟩⟩]⟩],
      [.oneToMany "a" "b_c" "d" "e"]⟩, (⟨"a_b", "c"⟩, ⟨"d", "e"⟩), ?_, ?_, by decide, by decide⟩
  · refine readSchema_ofList (d := .generic) rfl (by decide) (by decide) (by with_unfolding_all decide) ?_
    with_unfolding_all decide
  · refine readSchema_ofList (d := .generic) rfl (by decide) (by decide) (by with_unfolding_all decide) ?_
    with_unfolding_all decide

end SqlSchema
