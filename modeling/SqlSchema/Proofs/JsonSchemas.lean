import SqlSchema.Conversion
import SqlSchema.Proofs.JsonLayouts
/-!
# Reading exported schemas

A schema is read back from its JSON, in either layout, whatever names and types it has and however its
columns are marked.
-/
namespace SqlSchema

/-- The schema that a text holds as JSON. -/
def Schema.ofText? (text : String) : Option Schema := (Json.ofText? text).bind Schema.ofJson?

section Records

theorem listOf?_array {α : Type} {read : Json → Option α} {write : α → Json} (h : ∀ x, read (write x) = some x)
    (xs : List α) : (Json.array (xs.map write)).listOf? read = some xs := by
  have hitems : (xs.map write).mapM read = some xs := by
    induction xs with
    | nil => rfl
    | cons x xs ih =>
      rw [List.map_cons, List.mapM_cons, h, ih]
      rfl
  exact hitems

theorem ColumnRef.ofJson?_toJson (r : ColumnRef) : ofJson? r.toJson = some r := by
  rfl

theorem Column.ofJson?_toJson (c : Column) : ofJson? c.toJson = some c := by
  obtain ⟨name, type, isPrimaryKey, isForeignKey, isNullable, foreignKeyRef⟩ := c
  cases foreignKeyRef with
  | none => rfl
  | some r => rfl

theorem Table.ofJson?_toJson (t : Table) : ofJson? t.toJson = some t := by
  have hcolumns := listOf?_array Column.ofJson?_toJson t.columns
  calc ofJson? t.toJson
    _ = ((Json.array (t.columns.map Column.toJson)).listOf? Column.ofJson?).bind
        fun columns => some ⟨t.name, columns⟩ := rfl
    _ = some t := by rw [hcolumns, Option.bind_some]

theorem RelationshipKind.ofJson?_toJson (k : RelationshipKind) : ofJson? k.toJson = some k := by
  cases k <;> decide

theorem Relationship.ofJson?_toJson (r : Relationship) : ofJson? r.toJson = some r := by
  calc ofJson? r.toJson
    _ = (RelationshipKind.ofJson? r.kind.toJson).bind
        fun kind => some ⟨r.id, r.source, r.target, r.sourceColumn, r.targetColumn, kind⟩ := rfl
    _ = some r := by rw [RelationshipKind.ofJson?_toJson, Option.bind_some]

theorem Schema.ofJson?_toJson (s : Schema) : ofJson? s.toJson = some s := by
  have htables := listOf?_array Table.ofJson?_toJson s.tables
  have hrelationships := listOf?_array Relationship.ofJson?_toJson s.relationships
  calc ofJson? s.toJson
    _ = ((Json.array (s.tables.map Table.toJson)).listOf? Table.ofJson?).bind fun tables =>
        ((Json.array (s.relationships.map Relationship.toJson)).listOf? Relationship.ofJson?).bind
          fun relationships => some ⟨tables, relationships⟩ := rfl
    _ = some s := by rw [htables, Option.bind_some, hrelationships, Option.bind_some]

end Records

section Layouts

open Json

theorem ColumnRef.isLaidOut_toJson (r : ColumnRef) : IsLaidOut r.toJson := by
  apply isLaidOut_object
  simp [isLaidOut_string]

theorem Column.isLaidOut_toJson (c : Column) : IsLaidOut c.toJson := by
  apply isLaidOut_object
  cases hreference : c.foreignKeyRef with
  | none => simp [isLaidOut_string, isLaidOut_bool]
  | some r => simp [isLaidOut_string, isLaidOut_bool, r.isLaidOut_toJson]

theorem Table.isLaidOut_toJson (t : Table) : IsLaidOut t.toJson := by
  have hcolumns : IsLaidOut (.array (t.columns.map Column.toJson)) := by
    apply isLaidOut_array
    simp [Column.isLaidOut_toJson]
  apply isLaidOut_object
  simp [isLaidOut_string, hcolumns]

theorem Relationship.isLaidOut_toJson (r : Relationship) : IsLaidOut r.toJson := by
  apply isLaidOut_object
  simp [isLaidOut_string, RelationshipKind.toJson]

theorem Schema.isLaidOut_toJson (s : Schema) : IsLaidOut s.toJson := by
  have htables : IsLaidOut (.array (s.tables.map Table.toJson)) := by
    apply isLaidOut_array
    simp [Table.isLaidOut_toJson]
  have hrelationships : IsLaidOut (.array (s.relationships.map Relationship.toJson)) := by
    apply isLaidOut_array
    simp [Relationship.isLaidOut_toJson]
  apply isLaidOut_object
  simp [htables, hrelationships]

end Layouts

/-- The JSON of a schema is read as the same value in both layouts, and as the schema itself. So nothing is
lost when a schema is exported, and the JSON of a script gives the schema that the script is read as. -/
theorem ofText?_exportAs_json (s : Schema) (options : ExportOptions) :
    (Json.ofText? (s.exportAs .json options) = some s.toJson ∧
        Json.ofText? s.toJson.compact = some s.toJson) ∧
      (Schema.ofText? (s.exportAs .json options) = some s ∧ Schema.ofText? s.toJson.compact = some s) ∧
      ∀ input dialect, (schemaText input dialect).map Schema.ofText? =
        (readDialect ((dialect.bind Dialect.ofName?).getD .generic) input).map some := by
  have hcompact : ∀ t : Schema, Json.ofText? t.toJson.compact = some t.toJson := by
    intro t
    exact t.isLaidOut_toJson.compact.ofText? Json.areSpaces_nil (List.append_nil _).symm
  have hpretty : Json.ofText? (s.exportAs .json options) = some s.toJson := by
    have hspace : Json.AreSpaces ['\n'] := by
      simp [Json.AreSpaces, Json.isSpace]
    exact (s.isLaidOut_toJson.prettyAt 0).ofText? hspace String.toList_append
  have hread : ∀ t : Schema, Schema.ofText? t.toJson.compact = some t := by
    intro t
    rw [Schema.ofText?, hcompact, Option.bind_some, t.ofJson?_toJson]
  refine ⟨⟨hpretty, hcompact s⟩, ⟨?_, hread s⟩, ?_⟩
  · rw [Schema.ofText?, hpretty, Option.bind_some, s.ofJson?_toJson]
  · intro input dialect
    rw [schemaText]
    cases readDialect ((dialect.bind Dialect.ofName?).getD .generic) input with
    | error message => rfl
    | ok t => exact congrArg Except.ok (hread t)

end SqlSchema
