/-!
# Schemas

The entity-relationship model of a SQL script: tables with typed columns, and one relationship for
every foreign key binding, from the column that refers to the column referred to.
-/
namespace SqlSchema

/-- A column of some table, as a foreign key names it. -/
structure ColumnRef where
  table : String
  column : String
deriving DecidableEq, Repr

structure Column where
  name : String
  type : String
  isPrimaryKey : Bool
  isForeignKey : Bool
  isNullable : Bool
  foreignKeyRef : Option ColumnRef
deriving DecidableEq, Repr

structure Table where
  name : String
  columns : List Column
deriving DecidableEq, Repr

inductive RelationshipKind
  | oneToOne
  | oneToMany
  | manyToMany
deriving DecidableEq, Repr

structure Relationship where
  id : String
  source : String
  target : String
  sourceColumn : String
  targetColumn : String
  kind : RelationshipKind
deriving DecidableEq, Repr

structure Schema where
  tables : List Table
  relationships : List Relationship
deriving DecidableEq, Repr

/-- The names under which relationship kinds are written and read. -/
def RelationshipKind.name : RelationshipKind → String
  | .oneToOne => "one-to-one"
  | .oneToMany => "one-to-many"
  | .manyToMany => "many-to-many"

def RelationshipKind.ofName? (s : String) : Option RelationshipKind :=
  [.oneToOne, .oneToMany, .manyToMany].find? (fun k => k.name == s)

/-- The relationship of a foreign key: many rows of the source refer to one row of the target. -/
def Relationship.oneToMany (source sourceColumn target targetColumn : String) : Relationship where
  id := source ++ "_" ++ sourceColumn ++ "_" ++ target ++ "_" ++ targetColumn
  source := source
  target := target
  sourceColumn := sourceColumn
  targetColumn := targetColumn
  kind := .oneToMany

/-- The column as a foreign key on the given column. -/
def Column.withReference (c : Column) (target : ColumnRef) : Column :=
  { c with isForeignKey := true, foreignKeyRef := some target }

namespace Table

/-- The first column of that name. -/
def column? (t : Table) (name : String) : Option Column :=
  t.columns.find? (fun c => c.name == name)

def primaryKey (t : Table) : List Column := t.columns.filter (·.isPrimaryKey)

end Table

/-- Changes the first member that satisfies the test. -/
def updateFirst {α : Type} (p : α → Bool) (f : α → α) : List α → List α
  | [] => []
  | x :: xs => if p x then f x :: xs else x :: updateFirst p f xs

/-- Changes the first column of that name. -/
def Table.updateColumn (t : Table) (name : String) (f : Column → Column) : Table :=
  { t with columns := updateFirst (fun c => c.name == name) f t.columns }

/-- Keeps the first of the relationships that share an id. -/
def firstOfEachId (seen : List String) : List Relationship → List Relationship
  | [] => []
  | r :: rs =>
    if seen.contains r.id then firstOfEachId seen rs
    else r :: firstOfEachId (r.id :: seen) rs

namespace Schema

/-- The first table of that name. -/
def table? (s : Schema) (name : String) : Option Table :=
  s.tables.find? (fun t => t.name == name)

def isEmpty (s : Schema) : Bool := s.tables.isEmpty

/-- Drops every relationship whose id an earlier one already has. -/
def dedupRelationships (s : Schema) : Schema :=
  { s with relationships := firstOfEachId [] s.relationships }

/-- Changes the first table of that name. -/
def updateTable (s : Schema) (name : String) (f : Table → Table) : Schema :=
  { s with tables := updateFirst (fun t => t.name == name) f s.tables }

end Schema

end SqlSchema
