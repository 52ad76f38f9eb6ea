import SqlSchema.Export.Format
import SqlSchema.Script
/-!
# Conversions

Reading and exporting a script in one step, with plain names for the choices and plain texts for the
errors.
-/
namespace SqlSchema

/-- A script's schema under default options but for the dialect. -/
def readDialect (dialect : Dialect) (input : String) : Except String Schema :=
  (readSchema { ReadOptions.default with dialect := dialect } input).mapError ReadError.message

/-- The schema of a script as compact JSON. An unknown dialect counts as the generic one. -/
def schemaText (input : String) (dialect : Option String) : Except String String :=
  (readDialect ((dialect.bind Dialect.ofName?).getD .generic) input).map (·.toJson.compact)

/-- The export of a script. The format is checked before the script is read; an unknown detail level
counts as the highest. -/
def exportText (input format : String) (detail : Option String) : Except String String :=
  match Format.ofName? format with
  | none => .error ("Unknown format: " ++ format)
  | some f =>
    (readDialect .generic input).map
      (·.exportAs f ⟨(detail.bind Detail.ofName?).getD .all, none⟩)

end SqlSchema
