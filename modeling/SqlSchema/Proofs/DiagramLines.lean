import SqlSchema.Export.Mermaid
import SqlSchema.Proofs.Normalization
/-!
# Reading diagrams

A Mermaid diagram can be read back line by line. Names and types are reduced to words in it that cannot be
taken for any sign of a diagram, so the form of a line alone tells what it stands for.
-/
namespace SqlSchema

/-- A text without blanks, quotes, braces and bars. -/
def IsDiagramWord (text : String) : Prop :=
  ∀ c ∈ text.toList, Text.isBlank c = false ∧ c ∉ ['"', '\'', '\x7b', '\x7d', '|']

section Words

theorem isDiagramWord_of_all {cs : List Char} (h : ∀ c ∈ cs, isDiagramChar c) :
    IsDiagramWord (String.ofList cs) := by
  intro c hc
  rw [String.toList_ofList] at hc
  have hchar := h c hc
  constructor
  · refine Bool.eq_false_iff.2 fun hblank => ?_
    have hletter := Text.isLetterOrNumber_of_isBlank hblank
    have hsigns : ∀ x ∈ ['_', '-', '[', ']'], !Text.isBlank x := List.all_eq_true.1 (by decide)
    have hsign : ∀ x ∈ ['_', '-', '[', ']'], c ≠ x := by
      intro x hx
      exact Text.ne_of_class hblank (by simpa using hsigns x hx)
    simp_all [isDiagramChar]
  · intro hmem
    have hnone : ∀ x ∈ ['"', '\'', '\x7b', '\x7d', '|'], !isDiagramChar x :=
      List.all_eq_true.1 (by decide)
    simpa [hchar] using hnone c hmem

theorem isDiagramChar_of_mem {c : Char} {cs : List Char} (h : c ∈ diagramChars cs) : isDiagramChar c := by
  obtain ⟨x, -, rfl⟩ := List.mem_map.1 h
  by_cases hx : isDiagramChar x
  · rwa [if_pos hx]
  · rw [if_neg hx]
    decide

theorem isDiagramWord_diagramName (name : String) : IsDiagramWord (diagramName name) :=
  isDiagramWord_of_all fun _ hc => isDiagramChar_of_mem hc

theorem isDiagramChar_of_mem_diagramType {type : String} {c : Char} (h : c ∈ (diagramType type).toList) :
    isDiagramChar c := by
  unfold diagramType at h
  split at h
  · have hunknown : ∀ c ∈ "unknown".toList, isDiagramChar c := List.all_eq_true.1 (by decide)
    exact hunknown c h
  · rw [String.toList_ofList] at h
    exact isDiagramChar_of_mem h

theorem isDiagramWord_diagramType (type : String) : IsDiagramWord (diagramType type) := by
  rw [← String.ofList_toList (s := diagramType type)]
  exact isDiagramWord_of_all fun _ hc => isDiagramChar_of_mem_diagramType hc

end Words

namespace Mermaid

/-- A line of a diagram. -/
inductive Line
  | title
  /-- An entity without attributes. -/
  | bare (name : String)
  | opening (name : String)
  | column (type name : String) (isPrimaryKey isForeignKey : Bool)
  | closing
  | edge (target source label : String)
deriving DecidableEq, Repr

namespace Line

def keyMarks : Bool → Bool → String
  | true, true => " PK, FK"
  | true, false => " PK"
  | false, true => " FK"
  | false, false => ""

/-- How the line is written. -/
def text : Line → String
  | title => "erDiagram"
  | bare name => "    " ++ name
  | opening name => "    " ++ name ++ " \x7b"
  | column type name isPrimaryKey isForeignKey =>
    "        " ++ type ++ " " ++ name ++ keyMarks isPrimaryKey isForeignKey
  | closing => "    \x7d"
  | edge target source label => "    " ++ target ++ " ||--o\x7b " ++ source ++ " : \"" ++ label ++ "\""

/-- The keys that the words behind an attribute mark. -/
def ofMarks? : List String → Option (Bool × Bool)
  | ["PK,", "FK"] => some (true, true)
  | ["PK"] => some (true, false)
  | ["FK"] => some (false, true)
  | [] => some (false, false)
  | _ => none

/-- The text between two quotes, without further quotes. -/
def unquote? : List Char → Option String
  | '"' :: cs =>
    if cs.getLast? = some '"' ∧ '"' ∉ cs.dropLast then some (String.ofList cs.dropLast) else none
  | _ => none

/-- The line that has these fields, of which four empty ones in front are left out. -/
def ofIndented? : List String → Option Line
  | [name] => some (if name = "\x7d" then closing else bare name)
  | [name, brace] => if brace = "\x7b" then some (opening name) else none
  | "" :: "" :: "" :: "" :: type :: name :: marks =>
    (ofMarks? marks).map fun keys => column type name keys.1 keys.2
  | target :: arrow :: source :: colon :: label =>
    if arrow = "||--o\x7b" ∧ colon = ":" then
      (unquote? (" ".intercalate label).toList).map fun label => edge target source label
    else none
  | _ => none

/-- Tells by its form alone what a line stands for. -/
def read? (cs : List Char) : Option Line :=
  match (cs.splitOn ' ').map String.ofList with
  | ["erDiagram"] => some title
  | "" :: "" :: "" :: "" :: fields => ofIndented? fields
  | _ => none

/-- The names and types of the line are words, and its label is on one line and has no quotes. -/
def WellFormed : Line → Prop
  | title => True
  | bare name => IsDiagramWord name
  | opening name => IsDiagramWord name
  | column type name _ _ => IsDiagramWord type ∧ IsDiagramWord name
  | closing => True
  | edge target source label =>
    IsDiagramWord target ∧ IsDiagramWord source ∧ '"' ∉ label.toList ∧ '\n' ∉ label.toList

private theorem fields_eq {cs : List Char} {words : List String} (hne : words ≠ [])
    (h : ∀ word ∈ words, ' ' ∉ word.toList) (hcs : cs = [' '].intercalate (words.map String.toList)) :
    (cs.splitOn ' ').map String.ofList = words := by
  have hsplit : cs.splitOn ' ' = words.map String.toList := by
    rw [hcs]
    apply List.splitOn_intercalate _ _ (by simpa using hne)
    intro part hpart
    obtain ⟨word, hword, rfl⟩ := List.mem_map.1 hpart
    exact h word hword
  rw [hsplit, List.map_map]
  simp

theorem not_mem_of_isDiagramWord {word : String} (h : IsDiagramWord word) :
    ' ' ∉ word.toList ∧ '\n' ∉ word.toList := by
  constructor
  · intro hmem
    exact absurd (h _ hmem).1 (by decide)
  · intro hmem
    exact absurd (h _ hmem).1 (by decide)

theorem unquote?_quoted {label : String} (h : '"' ∉ label.toList) :
    unquote? ('"' :: label.toList ++ ['"']) = some label := by
  simp [unquote?, h]

private theorem exists_marks (isPrimaryKey isForeignKey : Bool) :
    ∃ marks, (∀ mark ∈ marks, ' ' ∉ mark.toList) ∧ ofMarks? marks = some (isPrimaryKey, isForeignKey) ∧
      (keyMarks isPrimaryKey isForeignKey).toList = marks.flatMap fun mark => ' ' :: mark.toList := by
  cases isPrimaryKey <;> cases isForeignKey
  · exact ⟨[], by decide⟩
  · exact ⟨["FK"], by decide⟩
  · exact ⟨["PK"], by decide⟩
  · exact ⟨["PK,", "FK"], by decide⟩

private theorem intercalate_cons_eq (part : List Char) (parts : List (List Char)) :
    [' '].intercalate (part :: parts) = part ++ parts.flatMap fun part => ' ' :: part := by
  induction parts generalizing part with
  | nil => simp
  | cons next parts ih => simp [List.intercalate_cons_cons, ih]

private theorem ofIndented?_edge (target source : String) (label : List String) :
    ofIndented? (target :: "||--o\x7b" :: source :: ":" :: label) =
      (unquote? (" ".intercalate label).toList).map fun label => edge target source label := by
  rw [ofIndented?]
  · simp
  · simp

private theorem exists_fields_column {type name : String} (isPrimaryKey isForeignKey : Bool)
    (htype : ' ' ∉ type.toList) (hname : ' ' ∉ name.toList) :
    ∃ marks, ofMarks? marks = some (isPrimaryKey, isForeignKey) ∧
      ((column type name isPrimaryKey isForeignKey).text.toList.splitOn ' ').map String.ofList =
        ["", "", "", "", "", "", "", "", type, name] ++ marks := by
  obtain ⟨marks, hmarks, hkeys, hchars⟩ := exists_marks isPrimaryKey isForeignKey
  refine ⟨marks, hkeys, fields_eq (by simp) ?_ ?_⟩
  · have hfront : ∀ word ∈ ["", "", "", "", "", "", "", "", type, name], ' ' ∉ word.toList := by
      simp [htype, hname]
    intro word hword
    rcases List.mem_append.1 hword with hword | hword
    · exact hfront word hword
    · exact hmarks word hword
  · simp [text, hchars, intercalate_cons_eq, List.flatMap_map]

/-- The spaces of a label split it into words that it can be put together from. -/
private theorem exists_fields_edge {target source : String} (label : String)
    (htarget : ' ' ∉ target.toList) (hsource : ' ' ∉ source.toList) :
    ∃ words, (" ".intercalate words).toList = '"' :: label.toList ++ ['"'] ∧
      ((edge target source label).text.toList.splitOn ' ').map String.ofList =
        ["", "", "", "", target, "||--o\x7b", source, ":"] ++ words := by
  refine ⟨(('"' :: label.toList ++ ['"']).splitOn ' ').map String.ofList, ?_, ?_⟩
  · rw [String.toList_intercalate, List.map_map]
    simp
  · have hfront : ∀ cs, cs = [' '].intercalate
          (["", "", "", "", target, "||--o\x7b", source, ":"].map String.toList) →
        (cs.splitOn ' ').map String.ofList = ["", "", "", "", target, "||--o\x7b", source, ":"] :=
      fun cs => fields_eq (by simp) (by simp [htarget, hsource])
    have hchars : (edge target source label).text.toList = [' '].intercalate
          (["", "", "", "", target, "||--o\x7b", source, ":"].map String.toList) ++
        ' ' :: ('"' :: label.toList ++ ['"']) := by
      simp [text]
    rw [hchars, List.splitOn_append_cons_self, List.map_append, hfront _ rfl]

theorem read?_text {line : Line} (h : line.WellFormed) : read? line.text.toList = some line := by
  cases line with
  | title => decide
  | bare name =>
    have hword := (not_mem_of_isDiagramWord h).1
    have hne : name ≠ "\x7d" := by
      rintro rfl
      exact absurd (h '\x7d' (by decide)).2 (by decide)
    have hfields : ((bare name).text.toList.splitOn ' ').map String.ofList = ["", "", "", "", name] :=
      fields_eq (by simp) (by simp [hword]) (by simp [text])
    rw [read?, hfields]
    simp [ofIndented?, hne]
  | opening name =>
    have hword := (not_mem_of_isDiagramWord h).1
    have hfields : ((opening name).text.toList.splitOn ' ').map String.ofList =
        ["", "", "", "", name, "\x7b"] :=
      fields_eq (by simp) (by simp [hword]) (by simp [text])
    rw [read?, hfields]
    simp [ofIndented?]
  | column type name isPrimaryKey isForeignKey =>
    obtain ⟨marks, hkeys, hfields⟩ := exists_fields_column isPrimaryKey isForeignKey
      (not_mem_of_isDiagramWord h.1).1 (not_mem_of_isDiagramWord h.2).1
    rw [read?, hfields]
    simp [ofIndented?, hkeys]
  | closing => decide
  | edge target source label =>
    obtain ⟨htarget, hsource, hlabel, -⟩ := h
    obtain ⟨words, hquoted, hfields⟩ := exists_fields_edge label
      (not_mem_of_isDiagramWord htarget).1 (not_mem_of_isDiagramWord hsource).1
    have hedge : ofIndented? (target :: "||--o\x7b" :: source :: ":" :: words) =
        some (edge target source label) := by
      rw [ofIndented?_edge, hquoted, unquote?_quoted hlabel, Option.map_some]
    rw [read?, hfields]
    simpa using hedge

theorem not_mem_text {line : Line} (h : line.WellFormed) : '\n' ∉ line.text.toList := by
  cases line with
  | title => decide
  | bare name => simp [text, (not_mem_of_isDiagramWord h).2]
  | opening name => simp [text, (not_mem_of_isDiagramWord h).2]
  | column type name isPrimaryKey isForeignKey =>
    have hmarks : '\n' ∉ (keyMarks isPrimaryKey isForeignKey).toList := by
      cases isPrimaryKey <;> cases isForeignKey <;> decide
    simp [text, (not_mem_of_isDiagramWord h.1).2, (not_mem_of_isDiagramWord h.2).2, hmarks]
  | closing => decide
  | edge target source label =>
    obtain ⟨htarget, hsource, -, hlabel⟩ := h
    simp [text, (not_mem_of_isDiagramWord htarget).2, (not_mem_of_isDiagramWord hsource).2, hlabel]

end Line

/-- The lines of an entity, which has braces if columns are shown. -/
def tableLines (detail : Detail) (t : Table) : List Line :=
  match t.columns.filter fun c => detail.includes c.isPrimaryKey c.isForeignKey with
  | [] => [.bare (diagramName t.name)]
  | columns =>
    .opening (diagramName t.name) ::
      columns.map (fun c => .column (diagramType c.type) (diagramName c.name) c.isPrimaryKey c.isForeignKey) ++
      [.closing]

def relationshipLine (r : Relationship) : Line :=
  .edge (diagramName r.target) (diagramName r.source) (label r.sourceColumn ++ " -> " ++ label r.targetColumn)

def lines (s : Schema) (detail : Detail) : List Line :=
  .title :: s.tables.flatMap (tableLines detail) ++ s.relationships.map relationshipLine

/-- The lines of a text, of which each is ended by a line break. -/
def read? (text : String) : Option (List Line) :=
  match (text.toList.splitOn '\n').reverse with
  | [] :: lines => lines.reverse.mapM Line.read?
  | _ => none

section Rendering

variable {s : Schema} {detail : Detail}

private theorem toList_attributeLine (c : Column) :
    (attributeLine c).toList =
      (Line.column (diagramType c.type) (diagramName c.name) c.isPrimaryKey c.isForeignKey).text.toList ++
        ['\n'] := by
  have hmarks : marks c = Line.keyMarks c.isPrimaryKey c.isForeignKey := by
    unfold marks
    cases c.isPrimaryKey <;> cases c.isForeignKey <;> rfl
  simp [attributeLine, Line.text, hmarks]

theorem toList_entity (detail : Detail) (t : Table) :
    (entity detail t).toList = (tableLines detail t).flatMap fun line => line.text.toList ++ ['\n'] := by
  have hshown : t.columns.filter detail.shows =
      t.columns.filter fun c => detail.includes c.isPrimaryKey c.isForeignKey := rfl
  rw [entity, tableLines, hshown]
  cases t.columns.filter fun c => detail.includes c.isPrimaryKey c.isForeignKey with
  | nil => simp [Line.text]
  | cons c columns =>
    simp [Line.text, String.toList_join, List.flatMap_map, toList_attributeLine]

theorem toList_render (s : Schema) (detail : Detail) :
    (render s detail).toList = (lines s detail).flatMap fun line => line.text.toList ++ ['\n'] := by
  have hedge : ∀ r, (edge r).toList = (relationshipLine r).text.toList ++ ['\n'] := by
    intro r
    simp [edge, relationshipLine, Line.text]
  simp [render, lines, String.toList_join, List.flatMap_map, List.flatMap_assoc, toList_entity, hedge,
    Line.text]

theorem not_mem_label {name : String} (h : '\n' ∉ name.toList) :
    '"' ∉ (label name).toList ∧ '\n' ∉ (label name).toList := by
  have hchar : ∀ c ∈ (label name).toList, c = '\'' ∨ (c ∈ name.toList ∧ c ≠ '"') := by
    intro c hc
    rw [label, Text.replaceChar, String.toList_ofList, List.mem_flatMap] at hc
    obtain ⟨x, hx, hc⟩ := hc
    by_cases hquote : x = '"'
    · rw [if_pos hquote] at hc
      exact .inl (List.mem_singleton.1 hc)
    · rw [if_neg hquote, List.mem_singleton] at hc
      subst hc
      exact .inr ⟨hx, hquote⟩
  constructor
  · intro hc
    simpa using hchar _ hc
  · intro hc
    have hname := (hchar _ hc).resolve_left (by decide)
    exact h hname.1

theorem wellFormed_of_mem_tableLines {t : Table} {line : Line} (h : line ∈ tableLines detail t) :
    line.WellFormed := by
  unfold tableLines at h
  split at h
  · obtain rfl := List.mem_singleton.1 h
    exact isDiagramWord_diagramName t.name
  · rw [List.mem_append, List.mem_cons, List.mem_map, List.mem_singleton] at h
    rcases h with (rfl | ⟨c, -, rfl⟩) | rfl
    · exact isDiagramWord_diagramName t.name
    · exact ⟨isDiagramWord_diagramType c.type, isDiagramWord_diagramName c.name⟩
    · trivial

theorem wellFormed_of_mem_lines
    (h : ∀ r ∈ s.relationships, '\n' ∉ r.sourceColumn.toList ∧ '\n' ∉ r.targetColumn.toList) :
    ∀ line ∈ lines s detail, line.WellFormed := by
  intro line hline
  rw [lines, List.mem_append, List.mem_cons, List.mem_flatMap, List.mem_map] at hline
  rcases hline with (rfl | ⟨t, -, hline⟩) | ⟨r, hr, rfl⟩
  · trivial
  · exact wellFormed_of_mem_tableLines hline
  · obtain ⟨hsource, htarget⟩ := h r hr
    have hsource := not_mem_label hsource
    have htarget := not_mem_label htarget
    refine ⟨isDiagramWord_diagramName r.target, isDiagramWord_diagramName r.source, ?_, ?_⟩
    · simp [hsource.1, htarget.1]
    · simp [hsource.2, htarget.2]

theorem mapM_read? {lines : List Line} (h : ∀ line ∈ lines, line.WellFormed) :
    (lines.map fun line => line.text.toList).mapM Line.read? = some lines := by
  induction lines with
  | nil => rfl
  | cons line lines ih =>
    have hrest := ih fun next hnext => h next (List.mem_cons_of_mem line hnext)
    rw [List.map_cons, List.mapM_cons, Line.read?_text (h line List.mem_cons_self), hrest]
    rfl

/-- A diagram consists of one line for each entity without columns, of one line for each column that is
shown with two more around those of one entity, and of one line for each relationship. No name or type in
it can be taken for a sign of a diagram, no label ends before its quote, and reading line by line gives
all lines back. -/
theorem read?_render
    (h : ∀ r ∈ s.relationships, '\n' ∉ r.sourceColumn.toList ∧ '\n' ∉ r.targetColumn.toList) :
    (render s detail).toList.splitOn '\n' = (lines s detail).map (fun line => line.text.toList) ++ [[]] ∧
      (∀ line ∈ lines s detail, line.WellFormed) ∧
      (∀ text, IsDiagramWord (diagramName text) ∧ IsDiagramWord (diagramType text)) ∧
      read? (render s detail) = some (lines s detail) := by
  have hwellFormed : ∀ line ∈ lines s detail, line.WellFormed := wellFormed_of_mem_lines h
  have hbreaks : ∀ cs ∈ (lines s detail).map (fun line => line.text.toList), '\n' ∉ cs := by
    intro cs hcs
    obtain ⟨line, hline, rfl⟩ := List.mem_map.1 hcs
    exact Line.not_mem_text (hwellFormed line hline)
  have hsplit : (render s detail).toList.splitOn '\n' =
      (lines s detail).map (fun line => line.text.toList) ++ [[]] := by
    rw [toList_render, ← splitOn_lines hbreaks, List.flatMap_map]
  have hwords : ∀ text, IsDiagramWord (diagramName text) ∧ IsDiagramWord (diagramType text) := by
    intro text
    exact ⟨isDiagramWord_diagramName text, isDiagramWord_diagramType text⟩
  refine ⟨hsplit, hwellFormed, hwords, ?_⟩
  rw [read?, hsplit, List.reverse_append, List.reverse_singleton, List.singleton_append]
  simp only [List.reverse_reverse]
  exact mapM_read? hwellFormed

/-- A schema with names and types that hold signs of a diagram. -/
def oddSchema : Schema where
  tables :=
    [⟨"\x7d", [⟨"PK", "()", false, false, true, none⟩]⟩,
     ⟨"a \x7b\n", [⟨"", "DOUBLE  (1) \"x\"", true, true, false, some ⟨"\x7d", "PK"⟩⟩,
       ⟨"| FK", "INT", true, false, false, none⟩]⟩]
  relationships := [.oneToMany "a \x7b\n" "\" : \"" "\x7d" "PK"]

theorem read?_render_oddSchema :
    (∀ r ∈ oddSchema.relationships, '\n' ∉ r.sourceColumn.toList ∧ '\n' ∉ r.targetColumn.toList) ∧
      read? (render oddSchema .keys) =
        some [.title, .bare "_", .opening "a___", .column "DOUBLE__x_" "" true true,
          .column "INT" "__FK" true false, .closing, .edge "_" "a___" "' : ' -> PK"] := by
  have hbreaks : ∀ r ∈ oddSchema.relationships,
      '\n' ∉ r.sourceColumn.toList ∧ '\n' ∉ r.targetColumn.toList := by
    decide
  have hlines : lines oddSchema .keys =
      [.title, .bare "_", .opening "a___", .column "DOUBLE__x_" "" true true,
        .column "INT" "__FK" true false, .closing, .edge "_" "a___" "' : ' -> PK"] := by
    decide
  refine ⟨hbreaks, ?_⟩
  rw [← hlines]
  exact (read?_render hbreaks).2.2.2

end Rendering

end Mermaid

end SqlSchema
