import SqlSchema.Schema.Basic
import SqlSchema.Statement.Basic
/-!
# Pending constraints

Constraints that ALTER TABLE adds. They wait until all tables of the script exist, and are applied in order
then. What names a table or a column that does not exist is dropped, since a script may hold a part of a
schema only.
-/
namespace SqlSchema

structure PendingConstraint where
  table : String
  kind : ConstraintKind
  columns : List String
  target : Option String
  targetColumns : List String
deriving DecidableEq, Repr

/-- One pending constraint per clause, in order. -/
def AlterTable.pending (a : AlterTable) : List PendingConstraint :=
  a.clauses.map fun clause =>
    { table := a.name
      kind := clause.kind
      columns := clause.columns
      target := clause.target?.map (·.1)
      targetColumns := (clause.target?.map (·.2)).getD [] }

def Column.asPrimaryKey (c : Column) : Column := { c with isPrimaryKey := true }

namespace PendingConstraint

/-- The column pairs of the constraint whose column the table has. -/
def pairsIn (p : PendingConstraint) (t : Table) : List (String × String) :=
  (columnPairs p.columns p.targetColumns).filter (fun pair => (t.column? pair.1).isSome)

/-- Applies one constraint to the first table of its name. -/
def apply (s : Schema) (p : PendingConstraint) : Schema :=
  match s.table? p.table, p.kind, p.target with
  | some _, .primaryKey, _ =>
    s.updateTable p.table fun t =>
      p.columns.foldl (fun t name => t.updateColumn name Column.asPrimaryKey) t
  | some t, .foreignKey, some target =>
    let pairs := p.pairsIn t
    let changed := s.updateTable p.table fun t =>
      pairs.foldl (fun t (name, targetColumn) =>
        t.updateColumn name (·.withReference ⟨target, targetColumn⟩)) t
    { changed with
      relationships := s.relationships ++
        pairs.map (fun (name, targetColumn) =>
          Relationship.oneToMany t.name name target targetColumn) }
  | _, _, _ => s

end PendingConstraint

/-- Applies the constraints in order. -/
def Schema.reconcile (s : Schema) (pending : List PendingConstraint) : Schema :=
  pending.foldl PendingConstraint.apply s

end SqlSchema
