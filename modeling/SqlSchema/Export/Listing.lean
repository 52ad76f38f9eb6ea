import SqlSchema.Schema.Basic
import SqlSchema.Text.Basic
/-!
# Column listings

The columns of every table as comma or tab separated values, one section per table.
-/
namespace SqlSchema

/-- A check mark, or nothing. -/
def checkMark (b : Bool) : String := if b then "✓" else ""

/-- How cells are separated, and how a text becomes a cell. -/
inductive ListingFormat
  | csv
  | tsv
deriving DecidableEq, Repr

namespace ListingFormat

def separator : ListingFormat → String
  | csv => ","
  | tsv => "\t"

/-- A character that would break a row is a space in a tab separated cell. -/
def flatten (c : Char) : Char := if c = '\t' || c = '\n' || c = '\r' then ' ' else c

/-- Comma separated texts stand between double quotes, which are doubled inside. -/
def cell (f : ListingFormat) (text : String) : String :=
  match f with
  | csv => "\"" ++ Text.replaceChar '"' ['"', '"'] text ++ "\""
  | tsv => String.ofList (text.toList.map flatten)

end ListingFormat

namespace Listing

def header : List String :=
  ["Column", "Type", "Primary Key", "Foreign Key", "Nullable", "References"]

/-- The column that a foreign key refers to, as `table(column)`. -/
def reference (c : Column) : String :=
  match c.foreignKeyRef with
  | some r => r.table ++ "(" ++ r.column ++ ")"
  | none => ""

def row (f : ListingFormat) (c : Column) : List String :=
  [f.cell c.name, f.cell c.type, checkMark c.isPrimaryKey, checkMark c.isForeignKey,
   checkMark c.isNullable, f.cell (reference c)]

def line (f : ListingFormat) (cells : List String) : String :=
  f.separator.intercalate cells ++ "\n"

def tableSection (f : ListingFormat) (t : Table) : String :=
  line f ["Table", f.cell t.name] ++ "\n" ++ line f header ++
    String.join (t.columns.map (fun c => line f (row f c)))

/-- The sections of all tables with an empty line between neighbours. -/
def render (s : Schema) (f : ListingFormat) : String :=
  "\n".intercalate (s.tables.map (tableSection f))

end Listing

end SqlSchema
