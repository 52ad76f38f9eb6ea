import SqlSchema.Export.Diagram
import SqlSchema.Text.Basic
/-!
# Mermaid diagrams

An `erDiagram` of entities and relationships, each of which points from the table referred to towards
the table that refers.
-/
namespace SqlSchema.Mermaid

/-- The key marks at the end of a column's line. -/
def marks (c : Column) : String :=
  if c.isPrimaryKey then (if c.isForeignKey then " PK, FK" else " PK")
  else if c.isForeignKey then " FK" else ""

def attributeLine (c : Column) : String :=
  "        " ++ diagramType c.type ++ " " ++ diagramName c.name ++ marks c ++ "\n"

/-- An entity with the columns shown, or its bare name if there are none. -/
def entity (detail : Detail) (t : Table) : String :=
  match t.columns.filter detail.shows with
  | [] => "    " ++ diagramName t.name ++ "\n"
  | columns =>
    "    " ++ diagramName t.name ++ " \x7b\n" ++ String.join (columns.map attributeLine) ++ "    \x7d\n"

/-- A name inside the double quotes of a label. -/
def label (name : String) : String := Text.replaceChar '"' ['\''] name

def edge (r : Relationship) : String :=
  "    " ++ diagramName r.target ++ " ||--o\x7b " ++ diagramName r.source ++ " : \"" ++
    label r.sourceColumn ++ " -> " ++ label r.targetColumn ++ "\"\n"

def render (s : Schema) (detail : Detail) : String :=
  "erDiagram\n" ++ String.join (s.tables.map (entity detail)) ++
    String.join (s.relationships.map edge)

end SqlSchema.Mermaid
