import SqlSchema.Export.Listing
import SqlSchema.Export.Markdown
import SqlSchema.Export.PlantUml
import SqlSchema.Json.Printer
import SqlSchema.Schema.Json
import SqlSchema.Text.Basic
/-!
# Export formats
-/
namespace SqlSchema

inductive Format
  | json
  | markdown
  | mermaid
  | plantUml
  | csv
  | tsv
  | sql
deriving DecidableEq, Repr

/-- The accepted names of a format, without regard to ASCII case. -/
def Format.ofName? (s : String) : Option Format :=
  let name := Text.lower s
  if name = "json" then some json
  else if name = "markdown" ∨ name = "md" then some markdown
  else if name = "mermaid" ∨ name = "mmd" then some mermaid
  else if name = "plantuml" ∨ name = "puml" then some plantUml
  else if name = "csv" then some csv
  else if name = "tsv" then some tsv
  else if name = "sql" then some sql
  else none

structure ExportOptions where
  detail : Detail
  /-- The title of a Markdown report or a PlantUML diagram. -/
  title : Option String
deriving DecidableEq, Repr

/-- The text of a schema in a format. -/
def Schema.exportAs (s : Schema) (format : Format) (options : ExportOptions) : String :=
  match format with
  | .json => s.toJson.pretty ++ "\n"
  | .markdown => Markdown.render s options.detail options.title
  | .mermaid => Mermaid.render s options.detail
  | .plantUml => PlantUml.render s options.detail options.title
  | .csv => Listing.render s .csv
  | .tsv => Listing.render s .tsv
  | .sql => Ddl.render s

end SqlSchema
