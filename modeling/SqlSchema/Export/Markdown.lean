import SqlSchema.Export.Ddl
import SqlSchema.Export.Grid
import SqlSchema.Export.Listing
import SqlSchema.Export.Mermaid
import SqlSchema.Text.Width
/-!
# Markdown reports

The tables of a schema column by column, its diagram and its relationships if there are any, and its
SQL.
-/
namespace SqlSchema.Markdown

def defaultTitle : String := "ER Diagram"

/-- The column that a foreign key refers to, as `table.column`. -/
def reference (c : Column) : String :=
  match c.foreignKeyRef with
  | some r => r.table ++ "." ++ r.column
  | none => ""

def columnRow (c : Column) : List String :=
  [c.name, c.type, checkMark c.isPrimaryKey, checkMark c.isForeignKey, checkMark c.isNullable,
   reference c]

def relationshipRow (r : Relationship) : List String :=
  [r.source, r.sourceColumn, r.target, r.targetColumn, r.kind.name]

def grid (header : List String) (rows : List (List String)) : String :=
  Grid.render Text.displayWidth header rows

def tableSection (t : Table) : String :=
  "\n### " ++ t.name ++ "\n\n" ++
    grid ["Column", "Type", "PK", "FK", "Nullable", "References"] (t.columns.map columnRow)

/-- A fenced block of code. -/
def fenced (language code : String) : String := "\x60\x60\x60" ++ language ++ "\n" ++ code ++ "\x60\x60\x60\n"

def relationshipSections (s : Schema) (detail : Detail) : String :=
  "\n## Diagram\n\n" ++ fenced "mermaid" (Mermaid.render s detail) ++ "\n## Relationship details\n\n" ++
    grid ["Source table", "Source column", "Target table", "Target column", "Type"]
      (s.relationships.map relationshipRow)

def render (s : Schema) (detail : Detail) (title : Option String) : String :=
  "# " ++ title.getD defaultTitle ++ "\n\n## Tables\n" ++ String.join (s.tables.map tableSection) ++
    (if s.relationships.isEmpty then "" else relationshipSections s detail) ++
    "\n## SQL\n\n" ++ fenced "sql" (Ddl.render s)

end SqlSchema.Markdown
