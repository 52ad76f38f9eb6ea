import SqlSchema.Export.Diagram
import SqlSchema.Text.Basic
/-!
# PlantUML diagrams

Entities in IE notation: the primary key stands above the line, and a star marks mandatory columns.
-/
namespace SqlSchema.PlantUml

def attributeLine (c : Column) : String :=
  "  " ++ (if c.isPrimaryKey || !c.isNullable then "* " else "") ++ c.name ++ " : " ++ c.type ++
    (if c.isForeignKey then " <<FK>>" else "") ++ "\n"

/-- The key columns, a line if both parts have columns, and the other columns. -/
def attributes (columns : List Column) : String :=
  let (keys, others) := columns.partition (·.isPrimaryKey)
  String.join (keys.map attributeLine) ++
    (if keys.isEmpty || others.isEmpty then "" else "  --\n") ++
    String.join (others.map attributeLine)

def entity (detail : Detail) (t : Table) : String :=
  "\nentity \"" ++ Text.replaceChar '"' ['\''] t.name ++ "\" as " ++ diagramName t.name ++ " \x7b\n" ++
    attributes (t.columns.filter detail.shows) ++ "\x7d\n"

def edge (r : Relationship) : String :=
  diagramName r.target ++ " ||--o\x7b " ++ diagramName r.source ++ " : " ++ r.sourceColumn ++ " -> " ++
    r.targetColumn ++ "\n"

def render (s : Schema) (detail : Detail) (title : Option String) : String :=
  "@startuml\n" ++ (match title with | some title => "title " ++ title ++ "\n" | none => "") ++
    "hide circle\nskinparam linetype ortho\n" ++ String.join (s.tables.map (entity detail)) ++
    (if s.relationships.isEmpty then "" else "\n") ++ String.join (s.relationships.map edge) ++
    "@enduml\n"

end SqlSchema.PlantUml
