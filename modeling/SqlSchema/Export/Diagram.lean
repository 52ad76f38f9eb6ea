import SqlSchema.Schema.Basic
import SqlSchema.Text.Words
/-!
# Diagrams

What diagrams have in common: how many columns they show, and their names and types. These are of one word
only, made of letters, numbers and a few signs.
-/
namespace SqlSchema

inductive Detail
  | tables
  | primaryKeys
  | keys
  | all
deriving DecidableEq, Repr

namespace Detail

def ofName? (s : String) : Option Detail :=
  if s = "tables" then some tables
  else if s = "pk" then some primaryKeys
  else if s = "pk_fk" then some keys
  else if s = "all" then some all
  else none

/-- Whether a diagram shows a column with these key marks. -/
def includes (d : Detail) (isPrimaryKey isForeignKey : Bool) : Bool :=
  match d with
  | tables => false
  | primaryKeys => isPrimaryKey
  | keys => isPrimaryKey || isForeignKey
  | all => true

def shows (d : Detail) (c : Column) : Bool := d.includes c.isPrimaryKey c.isForeignKey

end Detail

def isDiagramChar (c : Char) : Bool :=
  Text.isLetterOrNumber c || c = '_' || c = '-' || c = '[' || c = ']'

/-- Puts an underscore in place of every character that a diagram cannot have. -/
def diagramChars (cs : List Char) : List Char := cs.map (fun c => if isDiagramChar c then c else '_')

def diagramName (name : String) : String := String.ofList (diagramChars name.toList)

/-- Drops parentheses and what stands between them. A closing one without partner is dropped too. -/
def dropGroups (depth : Nat) : List Char → List Char
  | [] => []
  | c :: cs =>
    if c = '(' then dropGroups (depth + 1) cs
    else if c = ')' then dropGroups (depth - 1) cs
    else if depth = 0 then c :: dropGroups depth cs
    else dropGroups depth cs

/-- The type without its arguments, its words joined by underscores. -/
def diagramType (type : String) : String :=
  match diagramChars (['_'].intercalate (Text.words (dropGroups 0 type.toList))) with
  | [] => "unknown"
  | cs => String.ofList cs

end SqlSchema
