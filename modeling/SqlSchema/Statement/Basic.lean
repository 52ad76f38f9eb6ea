import SqlSchema.Constraint.Basic
/-!
# Statements

The two statements that a schema is made of, with what they say about keys. Everything else in them
is left out.
-/
namespace SqlSchema

/-- A reference attached to a column: `REFERENCES table [(column)]`. -/
structure InlineReference where
  table : String
  column : Option String
deriving DecidableEq, Repr

structure ColumnDefinition where
  name : String
  type : String
  primaryKey : Bool
  notNull : Bool
  references : Option InlineReference
deriving DecidableEq, Repr

/-- A foreign key over a list of columns. The target columns are empty if the clause names none. -/
structure ForeignKeyClause where
  columns : List String
  target : String
  targetColumns : List String
deriving DecidableEq, Repr

inductive TableElement
  | column (definition : ColumnDefinition)
  | primaryKey (columns : List String)
  | foreignKey (clause : ForeignKeyClause)
deriving DecidableEq, Repr

structure CreateTable where
  name : String
  elements : List TableElement
deriving DecidableEq, Repr

/-- A constraint that ALTER TABLE adds. -/
inductive AddClause
  | primaryKey (columns : List String)
  | foreignKey (clause : ForeignKeyClause)
  | unique (columns : List String)
deriving DecidableEq, Repr

structure AlterTable where
  name : String
  clauses : List AddClause
deriving DecidableEq, Repr

inductive Statement
  | create (statement : CreateTable)
  | alter (statement : AlterTable)
deriving DecidableEq, Repr

namespace AddClause

def kind : AddClause → ConstraintKind
  | primaryKey _ => .primaryKey
  | foreignKey _ => .foreignKey
  | unique _ => .unique

def columns : AddClause → List String
  | primaryKey columns => columns
  | foreignKey clause => clause.columns
  | unique columns => columns

/-- The table and the columns that a foreign key refers to. -/
def target? : AddClause → Option (String × List String)
  | foreignKey clause => some (clause.target, clause.targetColumns)
  | _ => none

end AddClause

namespace Statement

def create? : Statement → Option CreateTable
  | create c => some c
  | alter _ => none

def alter? : Statement → Option AlterTable
  | create _ => none
  | alter a => some a

end Statement

end SqlSchema
