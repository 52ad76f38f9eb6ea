import SqlSchema.Text.Basic
/-!
# Pipe tables

Tables whose cells are padded to the width of their column, for any measure of width. A column is at
least three wide, as wide as the shortest rule.
-/
namespace SqlSchema.Grid

/-- A pipe inside a cell is escaped. -/
def escape (cell : String) : String := Text.replaceChar '|' ['\\', '|'] cell

def repeated (c : Char) (n : Nat) : String := String.ofList (List.replicate n c)

/-- The widths of the columns, so far and with one more row. -/
def widen (width : String → Nat) (widths : List Nat) (row : List String) : List Nat :=
  widths.mapIdx fun i w => match row[i]? with
    | some cell => max w (width cell)
    | none => w

def pad (width : String → Nat) (cell : String) (w : Nat) : String :=
  cell ++ repeated ' ' (w - width cell)

def line (cells : List String) : String := "| " ++ " | ".intercalate cells ++ " |\n"

/-- A header, a rule and the rows. -/
def render (width : String → Nat) (header : List String) (rows : List (List String)) : String :=
  let escaped := rows.map (fun row => row.map escape)
  let widths := escaped.foldl (widen width) (header.map (fun h => max 3 (width h)))
  let padded := fun row => List.zipWith (pad width) row widths
  line (padded header) ++ line (widths.map (repeated '-')) ++
    String.join (escaped.map (fun row => line (padded row)))

end SqlSchema.Grid
