import SqlSchema.Export.Listing
import SqlSchema.Proofs.Csv
import SqlSchema.Proofs.Normalization
/-!
# Reading listings

The records of a listing can be read back from it, whatever the names, types and references in it are:
exactly from comma separated values, and with a space for each tab and each line break from tab separated
ones.
-/
namespace SqlSchema

namespace Listing

section Records

variable (shown : String → String)

/-- The cells of a column, where names, types and references are shown in some way. -/
def columnRecord (c : Column) : List String :=
  [shown c.name, shown c.type, if c.isPrimaryKey then "✓" else "", if c.isForeignKey then "✓" else "",
   if c.isNullable then "✓" else "",
   shown (c.foreignKeyRef.elim "" fun r => r.table ++ "(" ++ r.column ++ ")")]

def tableRecords (t : Table) : List (List String) :=
  [["Table", shown t.name], [""],
   ["Column", "Type", "Primary Key", "Foreign Key", "Nullable", "References"]] ++
    t.columns.map (columnRecord shown)

/-- The records of all tables, with an empty one between neighbours. -/
def records (s : Schema) : List (List String) := [[""]].intercalate (s.tables.map (tableRecords shown))

end Records

/-- The cells that are the same for all columns. -/
def labels : List String := ["Table", "", "✓"] ++ header

theorem reference_eq (c : Column) :
    reference c = c.foreignKeyRef.elim "" fun r => r.table ++ "(" ++ r.column ++ ")" := by
  unfold reference
  cases c.foreignKeyRef <;> rfl

section Reading

variable {α : Type} {f : ListingFormat} {shown : String → String} {isCell : String → String → Prop}
  {read : List (List String) → List Char → α}

/-- A reader that takes the lines of a listing one by one, each as a record. -/
structure IsLineReader (f : ListingFormat) (shown : String → String) (isCell : String → String → Prop)
    (read : List (List String) → List Char → α) : Prop where
  cell : ∀ text, isCell (f.cell text) (shown text)
  label : ∀ text ∈ labels, isCell text text
  line : ∀ records written values rest, written ≠ [] → List.Forall₂ isCell written values →
    read records ((line f written).toList ++ rest) = read (records ++ [values]) rest

namespace IsLineReader

variable (h : IsLineReader f shown isCell read)

include h

private theorem mark (b : Bool) : isCell (checkMark b) (checkMark b) := by
  cases b
  · exact h.label "" (by decide)
  · exact h.label "✓" (by decide)

theorem read_break (records : List (List String)) (rest : List Char) :
    read records ("\n".toList ++ rest) = read (records ++ [[""]]) rest := by
  have hempty : List.Forall₂ isCell [""] [""] := .cons (h.label _ (by decide)) .nil
  have hbreak : Listing.line f [""] = "\n" := by cases f <;> rfl
  have hline := h.line records _ _ rest (by simp) hempty
  rwa [hbreak] at hline

theorem read_columns (records : List (List String)) (columns : List Column) (rest : List Char) :
    read records ((String.join (columns.map fun c => Listing.line f (row f c))).toList ++ rest) =
      read (records ++ columns.map (columnRecord shown)) rest := by
  induction columns generalizing records with
  | nil => simp
  | cons c columns ih =>
    have hreference := h.cell (reference c)
    rw [reference_eq] at hreference
    have hrow : List.Forall₂ isCell (row f c) (columnRecord shown c) := by
      rw [row, reference_eq]
      exact .cons (h.cell _) (.cons (h.cell _) (.cons (h.mark _) (.cons (h.mark _) (.cons (h.mark _)
        (.cons hreference .nil)))))
    have hline := h.line records _ _
      ((String.join (columns.map fun c => Listing.line f (row f c))).toList ++ rest) (by simp [row]) hrow
    rw [ih] at hline
    simpa [String.toList_join] using hline

theorem read_table (records : List (List String)) (t : Table) (rest : List Char) :
    read records ((tableSection f t).toList ++ rest) = read (records ++ tableRecords shown t) rest := by
  have htitle : List.Forall₂ isCell ["Table", f.cell t.name] ["Table", shown t.name] :=
    .cons (h.label _ (by decide)) (.cons (h.cell _) .nil)
  have hheader : List.Forall₂ isCell header header :=
    List.forall₂_same.2 fun text htext => h.label text (List.mem_append_right _ htext)
  simp only [tableSection, String.toList_append, List.append_assoc]
  rw [h.line _ _ _ _ (by simp) htitle, h.read_break, h.line _ _ _ _ (by simp [header]) hheader,
    h.read_columns]
  simp only [tableRecords, header, List.append_assoc, List.cons_append, List.nil_append]

theorem read_tables (records : List (List String)) (ts : List Table) (rest : List Char) :
    read records (("\n".intercalate (ts.map (tableSection f))).toList ++ rest) =
      read (records ++ [[""]].intercalate (ts.map (tableRecords shown))) rest := by
  induction ts generalizing records with
  | nil => simp
  | cons t ts ih =>
    cases ts with
    | nil => simpa using h.read_table records t rest
    | cons u ts =>
      rw [String.toList_intercalate] at ih ⊢
      simp only [List.map_cons, List.intercalate_cons_cons, List.append_assoc] at ih ⊢
      rw [h.read_table, h.read_break, ih]
      simp only [List.append_assoc]

theorem read_render (records : List (List String)) (s : Schema) :
    read records (render s f).toList = read (records ++ Listing.records shown s) [] := by
  have hread := h.read_tables records s.tables []
  rwa [List.append_nil] at hread

end IsLineReader

end Reading

theorem isLineReader_csv :
    IsLineReader .csv id Csv.IsCell fun records cs => (Csv.Reader.front records []).read? cs where
  cell text := by
    have hdoubled : Text.replaceChar '"' ['"', '"'] text =
        String.ofList (QuoteStyle.doubled '"' text.toList) := by
      apply congrArg String.ofList
      apply List.flatMap_congr
      intro c _
      by_cases hc : c = '"' <;> simp [hc]
    rw [ListingFormat.cell, hdoubled]
    exact Csv.isCell_quoted text
  label text htext := by
    have hlabels : ∀ text ∈ labels, text.toList.all (· ∉ ['"', ',', '\n']) := by decide
    exact Csv.isCell_bare (by simpa using hlabels text htext)
  line records written values rest hne h := by
    have hline := Csv.read?_line records [] hne h rest
    rwa [List.nil_append] at hline

/-- The records of a listing can be read back from comma separated values. -/
theorem read?_render_csv (s : Schema) : Csv.read? (render s .csv) = some (records id s) := by
  have hread := isLineReader_csv.read_render [] s
  rw [Csv.read?, hread, List.nil_append]
  simp [Csv.Reader.read?, Csv.Reader.front]

/-- The text with a space in place of each tab and each line break. -/
def flat (text : String) : String :=
  String.ofList (text.toList.map fun c => if c ∈ ['\t', '\n', '\r'] then ' ' else c)

/-- The lines of a text, each with its cells between tabs. -/
def tabbedLines (cs : List Char) : List (List String) :=
  (cs.splitOn '\n').map fun line => (line.splitOn '\t').map String.ofList

/-- A cell that is written as it is, without tabs and line breaks. -/
def IsFlatCell (written value : String) : Prop :=
  ('\t' ∉ written.toList ∧ '\n' ∉ written.toList) ∧ written = value

theorem isFlatCell_cell (text : String) : IsFlatCell (ListingFormat.tsv.cell text) (flat text) := by
  have hflat : ListingFormat.tsv.cell text = flat text := by
    apply congrArg String.ofList
    apply List.map_congr_left
    intro c _
    simp [ListingFormat.flatten, or_assoc]
  have hnot : ∀ x ∈ ['\t', '\n'], x ∉ (flat text).toList := by
    intro x hx hmem
    rw [flat, String.toList_ofList] at hmem
    obtain ⟨c, -, rfl⟩ := List.mem_map.1 hmem
    by_cases hc : c ∈ ['\t', '\n', '\r']
    · simp [hc] at hx
    · rw [if_neg hc] at hx
      exact hc (by simp_all)
  rw [hflat]
  exact ⟨⟨hnot '\t' (by simp), hnot '\n' (by simp)⟩, rfl⟩

theorem isLineReader_tsv :
    IsLineReader .tsv flat IsFlatCell fun records cs => records ++ tabbedLines cs where
  cell text := isFlatCell_cell text
  label text htext := by
    have hlabels : ∀ text ∈ labels, '\t' ∉ text.toList ∧ '\n' ∉ text.toList := by decide
    exact ⟨hlabels text htext, rfl⟩
  line records written values rest hne h := by
    obtain ⟨hcells, hvalues⟩ := (List.forall₂_and_left written values).1 h
    obtain rfl : written = values := List.forall₂_eq_eq_eq ▸ hvalues
    have hline : '\n' ∉ ['\t'].intercalate (written.map String.toList) := by
      intro hmem
      rcases Text.mem_intercalate hmem with hsep | ⟨cell, hcell, hmem⟩
      · simp at hsep
      · obtain ⟨text, htext, rfl⟩ := List.mem_map.1 hcell
        exact (hcells text htext).2 hmem
    have htabs : ∀ cell ∈ written.map String.toList, '\t' ∉ cell := by
      intro cell hcell
      obtain ⟨text, htext, rfl⟩ := List.mem_map.1 hcell
      exact (hcells text htext).1
    have hchars : (Listing.line .tsv written).toList ++ rest =
        ['\t'].intercalate (written.map String.toList) ++ '\n' :: rest := by
      simp [Listing.line, ListingFormat.separator, String.toList_append, String.toList_intercalate]
    rw [hchars, tabbedLines, List.splitOn_append_cons_self_of_not_mem hline, List.map_cons,
      List.splitOn_intercalate _ htabs (by simpa using hne), List.map_map]
    simp [tabbedLines]

/-- The records of a listing can be read back from tab separated values. Nothing follows the last line
break. -/
theorem tabbedLines_render (s : Schema) :
    tabbedLines (render s .tsv).toList = records flat s ++ [[""]] := by
  have hread := isLineReader_tsv.read_render [] s
  simpa [tabbedLines] using hread

end Listing

end SqlSchema
