import Mathlib.Data.List.Basic
import Mathlib.Order.Bounds.Defs
import SqlSchema.Export.Grid
import SqlSchema.Proofs.Normalization
/-!
# Aligned tables

In a pipe table every cell is filled with spaces up to the width of its column, however widths are measured.
A line of the table can be split again at the pipes that no backslash stands in front of, and the cells are
read back from it.
-/
namespace SqlSchema.Grid

/-- The widths that a column has to hold: that of the shortest rule, of its heading and of its cells. -/
def demands (width : String → Nat) (header : List String) (rows : List (List String)) (i : Nat) : List Nat :=
  3 :: width (header.getD i "") :: rows.map fun row => width (escape (row.getD i ""))

def columnWidth (width : String → Nat) (header : List String) (rows : List (List String)) (i : Nat) : Nat :=
  (demands width header rows i).foldl max 0

/-- A line of cells, each followed by spaces up to the width of its column. -/
def filledLine (width : String → Nat) (columns : Nat → Nat) (cells : List String) : String :=
  "| " ++ " | ".intercalate
    (cells.mapIdx fun i cell => cell ++ String.ofList (List.replicate (columns i - width cell) ' ')) ++ " |"

def ruleLine (columns : Nat → Nat) (n : Nat) : String :=
  "| " ++ " | ".intercalate ((List.range n).map fun i => String.ofList (List.replicate (columns i) '-')) ++ " |"

/-- The lines of a table. Pipes are escaped in the rows and left alone in the header. -/
def tableLines (width : String → Nat) (header : List String) (rows : List (List String)) : List String :=
  let columns := columnWidth width header rows
  filledLine width columns header :: ruleLine columns header.length ::
    rows.map fun row => filledLine width columns (row.map escape)

/-- Splits a line at the pipes that no backslash stands in front of. -/
def splitPipes (escaped : Bool) : List Char → List (List Char)
  | [] => [[]]
  | c :: cs =>
    if c = '|' ∧ escaped = false then [] :: splitPipes false cs
    else (splitPipes (c = '\\') cs).modifyHead (c :: ·)

/-- Reads a backslash and a pipe as a pipe. -/
def unescape : List Char → List Char
  | [] => []
  | [c] => [c]
  | c :: d :: cs => if c = '\\' ∧ d = '|' then '|' :: unescape cs else c :: unescape (d :: cs)

section Widths

variable {width : String → Nat} {header : List String} {rows : List (List String)}

theorem isGreatest_columnWidth (i : Nat) :
    IsGreatest {v | v ∈ demands width header rows i} (columnWidth width header rows i) := by
  have hmax : (demands width header rows i).max? = some (columnWidth width header rows i) := rfl
  obtain ⟨hmem, hle⟩ := List.max?_eq_some_iff.1 hmax
  exact ⟨hmem, hle⟩

theorem getElem?_widen (width : String → Nat) (widths : List Nat) (row : List String) (i : Nat) :
    (widen width widths row)[i]? =
      widths[i]?.map fun w => (row[i]?).elim w fun cell => max w (width cell) := by
  rw [widen, List.getElem?_mapIdx]
  cases row[i]? <;> rfl

theorem getElem?_foldl_widen (width : String → Nat) (widths : List Nat) (rows : List (List String)) (i : Nat) :
    (rows.foldl (widen width) widths)[i]? = widths[i]?.map fun w =>
      rows.foldl (fun w row => (row[i]?).elim w fun cell => max w (width cell)) w := by
  induction rows generalizing widths with
  | nil => simp
  | cons row rows ih =>
    rw [List.foldl_cons, ih, getElem?_widen, Option.map_map]
    rfl

theorem widths_eq (hrows : ∀ row ∈ rows, row.length = header.length) :
    (rows.map fun row => row.map escape).foldl (widen width) (header.map fun h => max 3 (width h)) =
      (List.range header.length).map (columnWidth width header rows) := by
  apply List.ext_getElem?
  intro i
  rw [getElem?_foldl_widen, List.getElem?_map, Option.map_map, List.getElem?_map]
  by_cases hi : i < header.length
  · have hcell : ∀ row ∈ rows, ∀ w, ((row.map escape)[i]?).elim w (fun cell => max w (width cell)) =
        max w (width (escape (row.getD i ""))) := by
      intro row hrow w
      have hlt : i < row.length := by
        rw [hrows row hrow]
        exact hi
      simp [hlt]
    have hfold : ∀ w, (rows.map fun row => row.map escape).foldl
          (fun w row => (row[i]?).elim w fun cell => max w (width cell)) w =
        (rows.map fun row => width (escape (row.getD i ""))).foldl max w := by
      intro w
      rw [List.foldl_map, List.foldl_map]
      apply List.foldl_ext
      intro w row hrow
      exact hcell row hrow w
    simp [hi, hfold, columnWidth, demands]
  · simp [hi]

end Widths

section Lines

variable {width : String → Nat} {header : List String} {rows : List (List String)}

theorem line_filled {columns : Nat → Nat} {cells : List String} {n : Nat} (h : cells.length = n) :
    line (List.zipWith (pad width) cells ((List.range n).map columns)) = filledLine width columns cells ++ "\n" := by
  have hcells : List.zipWith (pad width) cells ((List.range n).map columns) =
      cells.mapIdx fun i cell => cell ++ String.ofList (List.replicate (columns i - width cell) ' ') := by
    apply List.ext_getElem
    · simp [h]
    · intro i hleft hright
      simp [pad, repeated]
  rw [line, hcells, filledLine, String.append_assoc, String.append_assoc]
  rfl

theorem line_rule (columns : Nat → Nat) (n : Nat) :
    line (((List.range n).map columns).map (repeated '-')) = ruleLine columns n ++ "\n" := by
  rw [line, List.map_map, ruleLine, String.append_assoc, String.append_assoc]
  rfl

theorem render_eq (hrows : ∀ row ∈ rows, row.length = header.length) :
    render width header rows = String.join ((tableLines width header rows).map (· ++ "\n")) := by
  have hlines : (rows.map fun row => row.map escape).map (fun row => line (List.zipWith (pad width) row
        ((List.range header.length).map (columnWidth width header rows)))) =
      rows.map fun row => filledLine width (columnWidth width header rows) (row.map escape) ++ "\n" := by
    rw [List.map_map]
    apply List.map_congr_left
    intro row hrow
    apply line_filled
    rw [List.length_map, hrows row hrow]
  have hheader : line (List.zipWith (pad width) header
        ((List.range header.length).map (columnWidth width header rows))) =
      filledLine width (columnWidth width header rows) header ++ "\n" :=
    line_filled rfl
  unfold render
  simp only [widths_eq hrows, hheader, line_rule, hlines]
  simp [tableLines, Function.comp_def, String.append_assoc]

end Lines

section Cells

/-- How a character of a cell is written. -/
def escapedChars (cs : List Char) : List Char := cs.flatMap fun c => if c = '|' then ['\\', '|'] else [c]

theorem escapedChars_cons (c : Char) (cs : List Char) :
    escapedChars (c :: cs) = (if c = '|' then ['\\', '|'] else [c]) ++ escapedChars cs := rfl

theorem splitPipes_escapedChars (cs rest : List Char) (escaped : Bool) :
    splitPipes escaped (escapedChars cs ++ ' ' :: '|' :: rest) =
      (escapedChars cs ++ [' ']) :: splitPipes false rest := by
  induction cs generalizing escaped with
  | nil => simp [escapedChars, splitPipes]
  | cons c cs ih =>
    rw [escapedChars_cons]
    by_cases hc : c = '|'
    · subst hc
      simp [splitPipes, ih]
    · simp [splitPipes, hc, ih]

theorem splitPipes_flatMap (texts : List (List Char)) :
    splitPipes false (texts.flatMap fun cs => escapedChars cs ++ [' ', '|']) =
      texts.map (fun cs => escapedChars cs ++ [' ']) ++ [[]] := by
  induction texts with
  | nil => rfl
  | cons cs texts ih =>
    rw [List.flatMap_cons, List.append_assoc, List.cons_append, List.singleton_append,
      splitPipes_escapedChars, ih]
    rfl

theorem exists_escapedChars (cs : List Char) : ∃ d ds, escapedChars cs ++ [' '] = d :: ds ∧ d ≠ '|' := by
  cases cs with
  | nil => exact ⟨' ', [], rfl, by decide⟩
  | cons c cs =>
    by_cases hc : c = '|'
    · refine ⟨'\\', '|' :: (escapedChars cs ++ [' ']), ?_, by decide⟩
      simp [escapedChars_cons, hc]
    · refine ⟨c, escapedChars cs ++ [' '], ?_, hc⟩
      simp [escapedChars_cons, hc]

theorem unescape_escapedChars (cs : List Char) : unescape (escapedChars cs ++ [' ']) = cs ++ [' '] := by
  induction cs with
  | nil => rfl
  | cons c cs ih =>
    rw [escapedChars_cons]
    by_cases hc : c = '|'
    · subst hc
      simp [unescape, ih]
    · obtain ⟨d, ds, hrest, hd⟩ := exists_escapedChars cs
      rw [hrest] at ih
      simp [hc, hrest, unescape, hd, ih]

end Cells

section Reading

variable {width : String → Nat} {columns : Nat → Nat} {header : List String} {rows : List (List String)}

theorem toList_cells {cells : List String} (h : cells ≠ []) :
    ("| " ++ " | ".intercalate cells ++ " |").toList =
      '|' :: cells.flatMap fun cell => ' ' :: (cell.toList ++ [' ', '|']) := by
  induction cells with
  | nil => exact absurd rfl h
  | cons cell cells ih =>
    cases cells with
    | nil => simp
    | cons next cells =>
      have hrest := ih (by simp)
      simp only [String.toList_append, String.toList_intercalate, List.map_cons,
        List.intercalate_cons_cons] at hrest ⊢
      rw [List.flatMap_cons]
      simpa using hrest

/-- What stands between two pipes, but for the space at the end: a cell after a space, and the spaces that
it is filled with. -/
def filledCells (width : String → Nat) (columns : Nat → Nat) (row : List String) : List (List Char) :=
  row.mapIdx fun i cell => ' ' :: (cell.toList ++ List.replicate (columns i - width (escape cell)) ' ')

theorem toList_filledLine {row : List String} (h : row ≠ []) :
    (filledLine width columns (row.map escape)).toList =
      '|' :: (filledCells width columns row).flatMap fun cs => escapedChars cs ++ [' ', '|'] := by
  have hspaces : ∀ n, escapedChars (List.replicate n ' ') = List.replicate n ' ' := by
    intro n
    induction n with
    | zero => rfl
    | succ n ih =>
      rw [List.replicate_succ, escapedChars_cons, ih]
      rfl
  have happend : ∀ xs ys, escapedChars (xs ++ ys) = escapedChars xs ++ escapedChars ys :=
    fun xs ys => List.flatMap_append
  have hescape : ∀ cell : String, (escape cell).toList = escapedChars cell.toList :=
    fun cell => String.toList_ofList
  rw [filledLine, toList_cells (by simpa using h), filledCells, List.flatMap_def, List.flatMap_def]
  congr 2
  apply List.ext_getElem
  · simp
  · intro i hleft hright
    simp [escapedChars_cons, happend, hspaces, hescape]

/-- Splitting a line and reading each part gives the cells back, with a space in front and at least one
behind. -/
theorem splitPipes_filledLine {row : List String} (h : row ≠ []) :
    (splitPipes false (filledLine width columns (row.map escape)).toList).map unescape =
      [] :: (filledCells width columns row).map (· ++ [' ']) ++ [[]] := by
  rw [toList_filledLine h, splitPipes, if_pos (by simp), splitPipes_flatMap]
  simp [Function.comp_def, unescape_escapedChars, unescape]

private theorem not_mem_cells {cells : List String} (h : ∀ cell ∈ cells, '\n' ∉ cell.toList) :
    '\n' ∉ ("| " ++ " | ".intercalate cells ++ " |").toList := by
  rw [String.toList_append, String.toList_append, String.toList_intercalate, List.mem_append,
    List.mem_append, not_or, not_or]
  refine ⟨⟨by decide, ?_⟩, by decide⟩
  intro hmem
  rcases Text.mem_intercalate hmem with hsep | ⟨part, hpart, hmem⟩
  · exact absurd hsep (by decide)
  · obtain ⟨cell, hcell, rfl⟩ := List.mem_map.1 hpart
    exact h cell hcell hmem

theorem not_mem_filledLine {cells : List String} (h : ∀ cell ∈ cells, '\n' ∉ cell.toList) :
    '\n' ∉ (filledLine width columns cells).toList := by
  apply not_mem_cells
  intro filled hfilled
  obtain ⟨i, hi, rfl⟩ := List.mem_mapIdx.1 hfilled
  rw [String.toList_append, String.toList_ofList, List.mem_append, not_or]
  refine ⟨h cells[i] (List.getElem_mem hi), ?_⟩
  simp

theorem not_mem_ruleLine (n : Nat) : '\n' ∉ (ruleLine columns n).toList := by
  apply not_mem_cells
  intro rule hrule
  obtain ⟨i, -, rfl⟩ := List.mem_map.1 hrule
  simp

theorem not_mem_tableLines (h : ∀ cells ∈ header :: rows, ∀ cell ∈ cells, '\n' ∉ cell.toList) :
    ∀ text ∈ tableLines width header rows, '\n' ∉ text.toList := by
  intro text htext
  rw [tableLines, List.mem_cons, List.mem_cons, List.mem_map] at htext
  rcases htext with rfl | rfl | ⟨row, hrow, rfl⟩
  · exact not_mem_filledLine (h header List.mem_cons_self)
  · exact not_mem_ruleLine header.length
  · apply not_mem_filledLine
    intro cell hcell
    obtain ⟨original, horiginal, rfl⟩ := List.mem_map.1 hcell
    have hnone := h row (List.mem_cons_of_mem header hrow) original horiginal
    intro hmem
    rw [escape, Text.replaceChar, String.toList_ofList, List.mem_flatMap] at hmem
    obtain ⟨c, hc, hmem⟩ := hmem
    by_cases hpipe : c = '|'
    · simp [hpipe] at hmem
    · rw [if_neg hpipe, List.mem_singleton] at hmem
      exact hnone (hmem ▸ hc)

theorem width_le_columnWidth {cells : List String}
    (hcells : cells ∈ header :: rows.map fun row => row.map escape) {i : Nat} {cell : String}
    (hcell : cells[i]? = some cell) : width cell ≤ columnWidth width header rows i := by
  have hmem : width cell ∈ demands width header rows i := by
    rw [demands, List.mem_cons, List.mem_cons, List.mem_map]
    rcases List.mem_cons.1 hcells with rfl | hcells
    · simp [hcell]
    · obtain ⟨row, hrow, rfl⟩ := List.mem_map.1 hcells
      obtain ⟨original, horiginal, rfl⟩ : ∃ original, row[i]? = some original ∧ escape original = cell := by
        simpa using hcell
      exact .inr (.inr ⟨row, hrow, by simp [horiginal]⟩)
  exact (isGreatest_columnWidth i).2 hmem

/-- A table consists of a line for the header, one for the rule and one for each row. Each cell of the header
and of the rows is followed by as many spaces as its column is wider, and no column is wider than it has to
be. Unless a cell has a line break, the lines can be told apart, and each row can be read back from its line:
split at the pipes that are not escaped, it gives its cells, each with one space in front and spaces behind. -/
theorem render_aligned (hne : header ≠ []) (hrows : ∀ row ∈ rows, row.length = header.length) :
    render width header rows = String.join ((tableLines width header rows).map (· ++ "\n")) ∧
    (∀ i, IsGreatest {v | v ∈ demands width header rows i} (columnWidth width header rows i)) ∧
    (∀ cells ∈ header :: rows.map (fun row => row.map escape), ∀ i cell, cells[i]? = some cell →
      width cell ≤ columnWidth width header rows i) ∧
    ((∀ cells ∈ header :: rows, ∀ cell ∈ cells, '\n' ∉ cell.toList) →
      (render width header rows).toList.splitOn '\n' =
          (tableLines width header rows).map String.toList ++ [[]] ∧
        (tableLines width header rows).length = 2 + rows.length ∧
        ∀ row ∈ rows, (splitPipes false
            (filledLine width (columnWidth width header rows) (row.map escape)).toList).map unescape =
          [] :: (filledCells width (columnWidth width header rows) row).map (· ++ [' ']) ++ [[]]) := by
  refine ⟨render_eq hrows, isGreatest_columnWidth, ?_, ?_⟩
  · intro cells hcells i cell hcell
    exact width_le_columnWidth hcells hcell
  · intro hbreaks
    have hlines : ∀ cs ∈ (tableLines width header rows).map String.toList, '\n' ∉ cs := by
      intro cs hcs
      obtain ⟨text, htext, rfl⟩ := List.mem_map.1 hcs
      exact not_mem_tableLines hbreaks text htext
    refine ⟨?_, ?_, ?_⟩
    · rw [render_eq hrows, ← splitOn_lines hlines, String.toList_join, List.flatMap_map, List.flatMap_map]
      simp
    · rw [tableLines, List.length_cons, List.length_cons, List.length_map]
      omega
    · intro row hrow
      apply splitPipes_filledLine
      rintro rfl
      have hlength := hrows [] hrow
      exact hne (List.length_eq_zero_iff.1 hlength.symm)

/-- Cells with pipes and backslashes, some of which end in a backslash. -/
def pipedRows : List (List String) := [["a|b", "\\"], ["\\|", "||\\"]]

theorem render_aligned_pipedRows :
    (["Name", "X"] ≠ [] ∧ (∀ row ∈ pipedRows, row.length = ["Name", "X"].length) ∧
      ∀ cells ∈ ["Name", "X"] :: pipedRows, ∀ cell ∈ cells, '\n' ∉ cell.toList) ∧
    render String.length ["Name", "X"] pipedRows =
      "| Name | X     |\n| ---- | ----- |\n| a\\|b | \\     |\n| \\\\|  | \\|\\|\\ |\n" ∧
    (splitPipes false "| \\\\|  | \\|\\|\\ |".toList).map unescape =
      [[], " \\|  ".toList, " ||\\ ".toList, []] := by
  have hrows : ∀ row ∈ pipedRows, row.length = ["Name", "X"].length := by
    decide
  have hbreaks : ∀ cells ∈ ["Name", "X"] :: pipedRows, ∀ cell ∈ cells, '\n' ∉ cell.toList := by
    decide
  obtain ⟨hrender, -, -, hread⟩ := @render_aligned String.length _ _ (by decide) hrows
  refine ⟨⟨by decide, hrows, hbreaks⟩, ?_, ?_⟩
  · rw [hrender]
    decide
  · have hrow := (hread hbreaks).2.2 ["\\|", "||\\"] (by decide)
    have htext : filledLine String.length (columnWidth String.length ["Name", "X"] pipedRows)
        (["\\|", "||\\"].map escape) = "| \\\\|  | \\|\\|\\ |" := by
      decide
    rw [htext] at hrow
    rw [hrow]
    decide

end Reading

end SqlSchema.Grid
