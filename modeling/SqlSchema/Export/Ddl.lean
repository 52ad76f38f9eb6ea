import SqlSchema.Quote
import SqlSchema.Schema.Basic
/-!
# SQL

The CREATE TABLE statements of a schema. Names that cannot stand bare are written between double quotes.
-/
namespace SqlSchema.Ddl

def isBareChar (c : Char) : Bool := c.isAlphanum || c = '_' || c = '$'

/-- Whether a name can be written without quotes. -/
def isBare (name : List Char) : Bool :=
  name.head?.any (fun c => c.isAlpha || c = '_') && name.all isBareChar

def quote (name : String) : String :=
  if isBare name.toList then name else String.ofList (QuoteStyle.double.enclose name.toList)

def columnLine (c : Column) : String :=
  "  " ++ quote c.name ++ " " ++ c.type ++ (if c.isNullable then "" else " NOT NULL")

/-- One line with all primary key columns, if there are any. -/
def primaryKeyLines (t : Table) : List String :=
  match t.primaryKey with
  | [] => []
  | columns => ["  PRIMARY KEY (" ++ ", ".intercalate (columns.map (fun c => quote c.name)) ++ ")"]

def foreignKeyLine? (c : Column) : Option String :=
  c.foreignKeyRef.map fun r =>
    "  FOREIGN KEY (" ++ quote c.name ++ ") REFERENCES " ++ quote r.table ++ "(" ++ quote r.column ++ ")"

def bodyLines (t : Table) : List String :=
  t.columns.map columnLine ++ primaryKeyLines t ++ t.columns.filterMap foreignKeyLine?

def createTable (t : Table) : String :=
  "CREATE TABLE " ++ quote t.name ++ " (\n" ++ ",\n".intercalate (bodyLines t) ++ "\n);\n"

def render (s : Schema) : String := "\n".intercalate (s.tables.map createTable)

end SqlSchema.Ddl
