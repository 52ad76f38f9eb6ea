import SqlSchema.Json.Value
import SqlSchema.Schema.Basic
/-!
# Schemas as JSON

Records are written as objects in a fixed field order. They are read from objects in any order, where
unknown fields are ignored and no other field may be repeated, or from the list of their fields in the
written order. Only a column's reference may be missing; it is then left out when written.
-/
namespace SqlSchema

/-- The value of a record's field: by name in an object, by position in a list. -/
def Json.fieldAt? (name : String) (position : Nat) : Json → Option Json
  | .array items => items[position]?
  | v => v.field? name

/-- Whether a value can hold a record with these fields: none of them is repeated. -/
def Json.isRecord (names : List String) : Json → Bool
  | .object fields => names.all fun name => fields.countP (fun f => f.1 == name) ≤ 1
  | .array items => items.length ≤ names.length
  | _ => false

def Json.listOf? {α : Type} (read : Json → Option α) (v : Json) : Option (List α) :=
  v.array?.bind (fun items => items.mapM read)

namespace ColumnRef

def fields : List String := ["table", "column"]

def toJson (r : ColumnRef) : Json :=
  .object [("table", .string r.table), ("column", .string r.column)]

def ofJson? (v : Json) : Option ColumnRef := do
  guard (v.isRecord fields)
  let table ← (← v.fieldAt? "table" 0).string?
  let column ← (← v.fieldAt? "column" 1).string?
  some ⟨table, column⟩

end ColumnRef

namespace Column

def fields : List String :=
  ["name", "type", "isPrimaryKey", "isForeignKey", "isNullable", "foreignKeyRef"]

def toJson (c : Column) : Json :=
  .object ([("name", .string c.name), ("type", .string c.type),
    ("isPrimaryKey", .bool c.isPrimaryKey), ("isForeignKey", .bool c.isForeignKey),
    ("isNullable", .bool c.isNullable)]
    ++ (c.foreignKeyRef.map (fun r => ("foreignKeyRef", r.toJson))).toList)

/-- A reference that is missing or null is no reference. -/
def refOfJson? : Option Json → Option (Option ColumnRef)
  | none => some none
  | some .null => some none
  | some v => (ColumnRef.ofJson? v).map some

def ofJson? (v : Json) : Option Column := do
  guard (v.isRecord fields)
  let name ← (← v.fieldAt? "name" 0).string?
  let type ← (← v.fieldAt? "type" 1).string?
  let isPrimaryKey ← (← v.fieldAt? "isPrimaryKey" 2).bool?
  let isForeignKey ← (← v.fieldAt? "isForeignKey" 3).bool?
  let isNullable ← (← v.fieldAt? "isNullable" 4).bool?
  let foreignKeyRef ← refOfJson? (v.fieldAt? "foreignKeyRef" 5)
  some ⟨name, type, isPrimaryKey, isForeignKey, isNullable, foreignKeyRef⟩

end Column

namespace Table

def fields : List String := ["name", "columns"]

def toJson (t : Table) : Json :=
  .object [("name", .string t.name), ("columns", .array (t.columns.map Column.toJson))]

def ofJson? (v : Json) : Option Table := do
  guard (v.isRecord fields)
  let name ← (← v.fieldAt? "name" 0).string?
  let columns ← (← v.fieldAt? "columns" 1).listOf? Column.ofJson?
  some ⟨name, columns⟩

end Table

namespace RelationshipKind

def toJson (k : RelationshipKind) : Json := .string k.name

/-- A kind is read from its name, alone or as the only field of an object that holds null. -/
def ofJson? : Json → Option RelationshipKind
  | .string s => ofName? s
  | .object [(s, .null)] => ofName? s
  | _ => none

end RelationshipKind

namespace Relationship

def fields : List String := ["id", "source", "target", "sourceColumn", "targetColumn", "type"]

def toJson (r : Relationship) : Json :=
  .object [("id", .string r.id), ("source", .string r.source), ("target", .string r.target),
    ("sourceColumn", .string r.sourceColumn), ("targetColumn", .string r.targetColumn),
    ("type", r.kind.toJson)]

def ofJson? (v : Json) : Option Relationship := do
  guard (v.isRecord fields)
  let id ← (← v.fieldAt? "id" 0).string?
  let source ← (← v.fieldAt? "source" 1).string?
  let target ← (← v.fieldAt? "target" 2).string?
  let sourceColumn ← (← v.fieldAt? "sourceColumn" 3).string?
  let targetColumn ← (← v.fieldAt? "targetColumn" 4).string?
  let kind ← RelationshipKind.ofJson? (← v.fieldAt? "type" 5)
  some ⟨id, source, target, sourceColumn, targetColumn, kind⟩

end Relationship

namespace Schema

def fields : List String := ["tables", "relationships"]

def toJson (s : Schema) : Json :=
  .object [("tables", .array (s.tables.map Table.toJson)),
    ("relationships", .array (s.relationships.map Relationship.toJson))]

def ofJson? (v : Json) : Option Schema := do
  guard (v.isRecord fields)
  let tables ← (← v.fieldAt? "tables" 0).listOf? Table.ofJson?
  let relationships ← (← v.fieldAt? "relationships" 1).listOf? Relationship.ofJson?
  some ⟨tables, relationships⟩

end Schema

end SqlSchema
