import SqlSchema.Constraint.Basic
import SqlSchema.Schema.Basic
import SqlSchema.Statement.Basic
/-!
# Table drafts

A draft gathers the elements of a table body and becomes a table when all of them are known, so that
a key can name columns before or after they are defined.
-/
namespace SqlSchema

structure TableDraft where
  name : String
  /-- The definitions so far, no two of the same name. -/
  columns : List ColumnDefinition
  /-- The names that primary keys mention. -/
  keys : List String
  /-- Each foreign key column with the column it refers to, in the order of declaration. -/
  bindings : List (String × ColumnRef)
deriving DecidableEq, Repr

namespace TableDraft

def empty (name : String) : TableDraft := ⟨name, [], [], []⟩

def hasColumn (d : TableDraft) (name : String) : Bool := d.columns.any (fun c => c.name == name)

/-- The binding of an inline reference. Without a column it refers to the column's own name. -/
def inlineBinding (c : ColumnDefinition) : Option (String × ColumnRef) :=
  c.references.map fun r => (c.name, ⟨r.table, r.column.getD c.name⟩)

def clauseBindings (f : ForeignKeyClause) : List (String × ColumnRef) :=
  (columnPairs f.columns f.targetColumns).map fun (name, targetColumn) =>
    (name, ⟨f.target, targetColumn⟩)

/-- Adds a column, unless there is one of that name. -/
def addColumn (d : TableDraft) (c : ColumnDefinition) : TableDraft :=
  if d.hasColumn c.name then d
  else
    { d with
      columns := d.columns ++ [c]
      keys := if c.primaryKey then d.keys ++ [c.name] else d.keys
      bindings := d.bindings ++ (inlineBinding c).toList }

def add (d : TableDraft) : TableElement → TableDraft
  | .column c => d.addColumn c
  | .primaryKey columns => { d with keys := d.keys ++ columns }
  | .foreignKey clause => { d with bindings := d.bindings ++ clauseBindings clause }

def addAll (d : TableDraft) (elements : List TableElement) : TableDraft := elements.foldl add d

/-- The column that a name was last bound to. -/
def binding? (d : TableDraft) (name : String) : Option ColumnRef :=
  (d.bindings.reverse.find? (fun b => b.1 == name)).map (·.2)

def columnOf (d : TableDraft) (c : ColumnDefinition) : Column where
  name := c.name
  type := c.type
  isPrimaryKey := d.keys.contains c.name
  isForeignKey := (d.binding? c.name).isSome
  isNullable := !c.notNull
  foreignKeyRef := d.binding? c.name

def table (d : TableDraft) : Table := ⟨d.name, d.columns.map d.columnOf⟩

/-- One relationship per binding, also if the table has no such column. -/
def relationships (d : TableDraft) : List Relationship :=
  d.bindings.map fun (column, target) =>
    Relationship.oneToMany d.name column target.table target.column

end TableDraft

/-- The draft of all elements of a statement. -/
def CreateTable.draft (c : CreateTable) : TableDraft := (TableDraft.empty c.name).addAll c.elements

end SqlSchema
