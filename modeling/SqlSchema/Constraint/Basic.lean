import SqlSchema.Text.Basic
import SqlSchema.Text.Words
/-!
# Constraints

The kinds of constraints, and the columns that a foreign key pairs.
-/
namespace SqlSchema

inductive ConstraintKind
  | primaryKey
  | foreignKey
  | unique
deriving DecidableEq, Repr

namespace ConstraintKind

def name : ConstraintKind → String
  | primaryKey => "PRIMARY_KEY"
  | foreignKey => "FOREIGN_KEY"
  | unique => "UNIQUE"

def ofName? (s : String) : Option ConstraintKind :=
  [primaryKey, foreignKey, unique].find? (fun k => k.name == s)

/-- The kind that keywords stand for, in any case and with any blanks around them. -/
def ofKeywords? (text : String) : Option ConstraintKind :=
  ofName? (String.ofList (Text.upper (['_'].intercalate (Text.words text.toList))))

end ConstraintKind

/-- Pairs each column with the one it refers to, by position. A short list of targets repeats its
first entry, and without targets each column refers to its own name. -/
def columnPairs (columns targets : List String) : List (String × String) :=
  columns.zipIdx.map fun (column, i) => (column, (targets[i]?.or targets.head?).getD column)

end SqlSchema
