import Mathlib.Data.List.Forall2
import SqlSchema.Export.PlantUml
import SqlSchema.Proofs.DiagramLines
/-!
# What diagrams show

A Mermaid diagram and a PlantUML diagram of a schema show the same columns. They differ in their order only:
PlantUML puts the primary key in front of the other columns. The level of detail tells which columns are
shown, and nothing else in a diagram depends on it. Either diagram is the text of a drawing, line by line.
-/
namespace SqlSchema

/-- An entity of a diagram, with what stands on the lines of its body. -/
structure Entity (α : Type) where
  name : String
  rows : List α

def Entity.identifier {α : Type} (e : Entity α) : String := diagramName e.name

/-- The entities of a diagram, and its lines for relationships. -/
structure Drawing (α β : Type) where
  entities : List (Entity α)
  edges : List β

/-- The entities of a schema, each with the rows that its table is given. -/
def Schema.draw {α β : Type} (s : Schema) (rows : Table → List α) (edge : Relationship → β) : Drawing α β where
  entities := s.tables.map fun t => ⟨t.name, rows t⟩
  edges := s.relationships.map edge

/-- Lines that are each ended by a line break. -/
def endedText {β : Type} (text : β → String) (lines : List β) : String :=
  String.join (lines.map fun line => text line ++ "\n")

theorem toList_endedText {β : Type} (text : β → String) (lines : List β) :
    (endedText text lines).toList = lines.flatMap fun line => (text line).toList ++ ['\n'] := by
  simp [endedText, String.toList_join, List.flatMap_map]

theorem endedText_append {β : Type} (text : β → String) (xs ys : List β) :
    endedText text (xs ++ ys) = endedText text xs ++ endedText text ys := by
  apply String.toList_injective
  simp [toList_endedText]

theorem endedText_map {β : Type} (text : β → String) (lines : List β) :
    endedText id (lines.map text) = endedText text lines := by
  simp [endedText, Function.comp_def]

theorem forall₂_entities {α α' β β' : Type} {s : Schema} {rows : Table → List α} {rows' : Table → List α'}
    {edge : Relationship → β} {edge' : Relationship → β'} {agree : Entity α → Entity α' → Prop}
    (h : ∀ t, agree ⟨t.name, rows t⟩ ⟨t.name, rows' t⟩) :
    List.Forall₂ agree (s.draw rows edge).entities (s.draw rows' edge').entities := by
  rw [Schema.draw, Schema.draw, List.forall₂_map_left_iff, List.forall₂_map_right_iff]
  apply List.forall₂_same.2
  intro t _
  exact h t

namespace Detail

/-- The levels from the lowest to the highest. -/
def levels : List Detail := [tables, primaryKeys, keys, all]

/-- The columns of a table at a level. -/
def columns (t : Table) : Detail → List Column
  | tables => []
  | primaryKeys => t.columns.filter (·.isPrimaryKey)
  | keys => t.columns.filter fun c => c.isPrimaryKey || c.isForeignKey
  | all => t.columns

theorem filter_shows (detail : Detail) (t : Table) : t.columns.filter detail.shows = detail.columns t := by
  cases detail with
  | tables => exact List.filter_eq_nil_iff.2 fun c _ => Bool.false_ne_true
  | primaryKeys => rfl
  | keys => rfl
  | all => exact List.filter_eq_self.2 fun c _ => rfl

theorem pairwise_shows : levels.Pairwise fun low high => ∀ c, low.shows c → high.shows c := by
  have hincludes : levels.Pairwise fun low high =>
      ∀ isPrimaryKey isForeignKey, low.includes isPrimaryKey isForeignKey →
        high.includes isPrimaryKey isForeignKey := by
    decide
  apply hincludes.imp
  intro low high h c
  exact h c.isPrimaryKey c.isForeignKey

end Detail

namespace Mermaid

def columnLine (c : Column) : Line :=
  .column (diagramType c.type) (diagramName c.name) c.isPrimaryKey c.isForeignKey

/-- The lines of an entity, with braces around its attributes, if there are any. -/
def entityLines (e : Entity Column) : List Line :=
  if e.rows = [] then [.bare e.identifier]
  else .opening e.identifier :: e.rows.map columnLine ++ [.closing]

def drawingLines (d : Drawing Column Line) : List Line :=
  .title :: d.entities.flatMap entityLines ++ d.edges

def drawing (s : Schema) (detail : Detail) : Drawing Column Line := s.draw (detail.columns ·) relationshipLine

theorem lines_eq (s : Schema) (detail : Detail) : lines s detail = drawingLines (drawing s detail) := by
  have htable : tableLines detail = fun t => entityLines ⟨t.name, detail.columns t⟩ := by
    funext t
    have hshown : t.columns.filter (fun c => detail.includes c.isPrimaryKey c.isForeignKey) =
        detail.columns t := detail.filter_shows t
    rw [tableLines, hshown]
    cases hcolumns : detail.columns t with
    | nil => rfl
    | cons c columns => rfl
  simp [lines, drawingLines, drawing, Schema.draw, List.flatMap_map, htable]

theorem render_eq_endedText (s : Schema) (detail : Detail) :
    render s detail = endedText Line.text (drawingLines (drawing s detail)) := by
  apply String.toList_injective
  rw [toList_render, toList_endedText, lines_eq]

end Mermaid

namespace PlantUml

/-- A line of a diagram. -/
inductive Line
  | start
  | title (text : String)
  | hideCircle
  | straightEdges
  | blank
  | opening (label identifier : String)
  /-- A column, with a star in front if it must have a value. -/
  | column (isMandatory : Bool) (name type : String) (isForeignKey : Bool)
  /-- The line between the primary key and the other columns. -/
  | separator
  | closing
  | edge (target source sourceColumn targetColumn : String)
  | finish
deriving DecidableEq, Repr

namespace Line

def star : Bool → String
  | true => "* "
  | false => ""

def referenceMark : Bool → String
  | true => " <<FK>>"
  | false => ""

/-- How the line is written. -/
def text : Line → String
  | start => "@startuml"
  | title text => "title " ++ text
  | hideCircle => "hide circle"
  | straightEdges => "skinparam linetype ortho"
  | blank => ""
  | opening label identifier => "entity \"" ++ label ++ "\" as " ++ identifier ++ " \x7b"
  | column isMandatory name type isForeignKey =>
    "  " ++ star isMandatory ++ name ++ " : " ++ type ++ referenceMark isForeignKey
  | separator => "  --"
  | closing => "\x7d"
  | edge target source sourceColumn targetColumn =>
    target ++ " ||--o\x7b " ++ source ++ " : " ++ sourceColumn ++ " -> " ++ targetColumn
  | finish => "@enduml"

end Line

/-- A row in the body of an entity. -/
inductive Row
  | column (c : Column)
  | separator
deriving DecidableEq, Repr

namespace Row

def column? : Row → Option Column
  | column c => some c
  | separator => none

/-- Columns of the primary key must have a value, and so must those that are not nullable. -/
def line : Row → Line
  | column c => .column (c.isPrimaryKey || !c.isNullable) c.name c.type c.isForeignKey
  | separator => .separator

end Row

/-- The columns of the primary key, the others, and a separator between them if there are both. -/
def rows (columns : List Column) : List Row :=
  let keys := columns.filter (·.isPrimaryKey)
  let others := columns.filter fun c => !c.isPrimaryKey
  keys.map .column ++ (if keys ≠ [] ∧ others ≠ [] then [.separator] else []) ++ others.map .column

/-- The lines of an entity, which is labelled by its name with double quotes made single. -/
def entityLines (e : Entity Row) : List Line :=
  .blank :: .opening (Text.replaceChar '"' ['\''] e.name) e.identifier :: e.rows.map Row.line ++ [.closing]

def edgeLine (r : Relationship) : Line :=
  .edge (diagramName r.target) (diagramName r.source) r.sourceColumn r.targetColumn

def frontLines (title : Option String) : List Line :=
  [.start] ++ (title.map .title).toList ++ [.hideCircle, .straightEdges]

def drawingLines (title : Option String) (d : Drawing Row Line) : List Line :=
  frontLines title ++ d.entities.flatMap entityLines ++ (if d.edges = [] then [] else .blank :: d.edges) ++
    [.finish]

def drawing (s : Schema) (detail : Detail) : Drawing Row Line :=
  s.draw (fun t => rows (detail.columns t)) edgeLine

section Rendering

theorem toList_attributeLine (c : Column) :
    (attributeLine c).toList = (Row.column c).line.text.toList ++ ['\n'] := by
  have hstar : (if c.isPrimaryKey || !c.isNullable then "* " else "") =
      Line.star (c.isPrimaryKey || !c.isNullable) := by
    cases (c.isPrimaryKey || !c.isNullable) <;> rfl
  have hmark : (if c.isForeignKey then " <<FK>>" else "") = Line.referenceMark c.isForeignKey := by
    cases c.isForeignKey <;> rfl
  rw [attributeLine, hstar, hmark]
  simp [Row.line, Line.text]

theorem toList_attributes (columns : List Column) : (attributes columns).toList =
    (rows columns).flatMap fun row => row.line.text.toList ++ ['\n'] := by
  have hcolumns : ∀ cs : List Column, (String.join (cs.map attributeLine)).toList =
      (cs.map Row.column).flatMap fun row => row.line.text.toList ++ ['\n'] := by
    intro cs
    simp [String.toList_join, List.flatMap_map, toList_attributeLine]
  rw [attributes, List.partition_eq_filter_filter, rows]
  by_cases hkeys : columns.filter (·.isPrimaryKey) = []
  · simp [hkeys, hcolumns, Function.comp_def]
  · by_cases hothers : columns.filter (fun c => !c.isPrimaryKey) = []
    · simp [hkeys, hothers, hcolumns, Function.comp_def]
    · simp [hkeys, hothers, hcolumns, Function.comp_def, Row.line, Line.text]

theorem toList_entity (detail : Detail) (t : Table) : (entity detail t).toList =
    (entityLines ⟨t.name, rows (detail.columns t)⟩).flatMap fun line => line.text.toList ++ ['\n'] := by
  simp [entity, detail.filter_shows, entityLines, Entity.identifier, Line.text, toList_attributes,
    List.flatMap_map]

theorem front_eq (title : Option String) :
    "@startuml\n" ++ (match title with | some title => "title " ++ title ++ "\n" | none => "") ++
      "hide circle\nskinparam linetype ortho\n" = endedText Line.text (frontLines title) := by
  apply String.toList_injective
  rw [toList_endedText]
  cases title <;> simp [frontLines, Line.text]

theorem edges_eq (relationships : List Relationship) :
    (if relationships.isEmpty then "" else "\n") ++ String.join (relationships.map edge) =
      endedText Line.text
        (if relationships.map edgeLine = [] then [] else .blank :: relationships.map edgeLine) := by
  have hedge : ∀ r, (edge r).toList = (edgeLine r).text.toList ++ ['\n'] := by
    intro r
    simp [edge, edgeLine, Line.text]
  have hblank : Line.blank.text = "" := rfl
  apply String.toList_injective
  rw [toList_endedText]
  cases relationships <;> simp [String.toList_join, List.flatMap_map, hedge, hblank]

theorem render_eq_endedText (s : Schema) (detail : Detail) (title : Option String) :
    render s detail title = endedText Line.text (drawingLines title (drawing s detail)) := by
  have hentities : String.join (s.tables.map (entity detail)) =
      endedText Line.text ((drawing s detail).entities.flatMap entityLines) := by
    apply String.toList_injective
    rw [toList_endedText]
    simp [String.toList_join, List.flatMap_map, List.flatMap_assoc, toList_entity, drawing, Schema.draw]
  calc render s detail title
    _ = endedText Line.text (frontLines title) ++ String.join (s.tables.map (entity detail)) ++
        ((if s.relationships.isEmpty then "" else "\n") ++ String.join (s.relationships.map edge)) ++
          "@enduml\n" := by rw [← front_eq, ← String.append_assoc]; rfl
    _ = endedText Line.text (drawingLines title (drawing s detail)) := by
        rw [hentities, edges_eq, drawingLines, endedText_append, endedText_append, endedText_append]
        rfl

end Rendering

/-- The columns that are drawn on the rows of an entity. -/
def columnsOf (rows : List Row) : List Column := rows.filterMap Row.column?

/-- The rows show these columns, those of the primary key in front of the others and in the given order
otherwise. There is one separator between both parts if both have columns, and none if not. -/
structure IsKeysFirst (columns : List Column) (rows : List Row) : Prop where
  keys : (columnsOf rows).filter (·.isPrimaryKey) = columns.filter (·.isPrimaryKey)
  others : (columnsOf rows).filter (fun c => !c.isPrimaryKey) = columns.filter fun c => !c.isPrimaryKey
  keysFirst : (columnsOf rows).Pairwise fun c d => d.isPrimaryKey → c.isPrimaryKey
  count : rows.count .separator =
    if (∃ c ∈ columns, c.isPrimaryKey) ∧ ∃ c ∈ columns, c.isPrimaryKey = false then 1 else 0
  between : ∀ front back, rows = front ++ .separator :: back →
    (∀ c ∈ columnsOf front, c.isPrimaryKey) ∧ ∀ c ∈ columnsOf back, c.isPrimaryKey = false

theorem columnsOf_map (columns : List Column) : columnsOf (columns.map .column) = columns := by
  rw [columnsOf, List.filterMap_map]
  exact List.filterMap_some

theorem columnsOf_rows (columns : List Column) : columnsOf (rows columns) =
    columns.filter (·.isPrimaryKey) ++ columns.filter fun c => !c.isPrimaryKey := by
  have hseparators : ∀ p : Prop, [Decidable p] → columnsOf (if p then [.separator] else []) = [] := by
    intro p _
    split <;> rfl
  have happend : ∀ xs ys, columnsOf (xs ++ ys) = columnsOf xs ++ columnsOf ys :=
    fun xs ys => List.filterMap_append
  simp only [rows, happend, columnsOf_map, hseparators, List.append_nil]

theorem not_mem_map_column (columns : List Column) : Row.separator ∉ columns.map Row.column := by
  simp

theorem count_rows (columns : List Column) : (rows columns).count .separator =
    if (∃ c ∈ columns, c.isPrimaryKey) ∧ ∃ c ∈ columns, c.isPrimaryKey = false then 1 else 0 := by
  have hnone : ∀ cs : List Column, (cs.map Row.column).count .separator = 0 :=
    fun cs => List.count_eq_zero.2 (not_mem_map_column cs)
  rw [rows, List.count_append, List.count_append, hnone, hnone, Nat.zero_add, Nat.add_zero]
  by_cases hboth : (∃ c ∈ columns, c.isPrimaryKey) ∧ ∃ c ∈ columns, c.isPrimaryKey = false <;>
    simp [hboth]

/-- The separator stands right between both parts. -/
theorem columnsOf_around {columns : List Column} {front back : List Row}
    (h : rows columns = front ++ .separator :: back) :
    columnsOf front = columns.filter (·.isPrimaryKey) ∧
      columnsOf back = columns.filter fun c => !c.isPrimaryKey := by
  rw [rows] at h
  split at h
  · rw [List.append_assoc, List.singleton_append,
      List.append_cons_inj_of_notMem (not_mem_map_column _) (not_mem_map_column _)] at h
    obtain ⟨hfront, -, hback⟩ := h
    rw [← hfront, ← hback, columnsOf_map, columnsOf_map]
    exact ⟨rfl, rfl⟩
  · have hmem : Row.separator ∈ front ++ .separator :: back := by simp
    rw [← h] at hmem
    simp at hmem

theorem isKeysFirst_rows (columns : List Column) : IsKeysFirst columns (rows columns) where
  keys := by
    simp [columnsOf_rows]
  others := by
    simp [columnsOf_rows]
  keysFirst := by
    rw [columnsOf_rows, List.pairwise_append]
    refine ⟨?_, ?_, ?_⟩
    · apply List.pairwise_of_forall_mem_list
      intro c hc d hd _
      exact (List.mem_filter.1 hc).2
    · apply List.pairwise_of_forall_mem_list
      intro c hc d hd hkey
      simp [hkey] at hd
    · intro c hc d _ _
      exact (List.mem_filter.1 hc).2
  count := count_rows columns
  between := by
    intro front back h
    obtain ⟨hfront, hback⟩ := columnsOf_around h
    rw [hfront, hback]
    constructor
    · intro c hc
      exact (List.mem_filter.1 hc).2
    · intro c hc
      simpa using (List.mem_filter.1 hc).2

end PlantUml

/-- One diagram shows the entities and relationships of another, and of no entity more columns. -/
structure Drawing.IsPart {α β : Type} (column? : α → Option Column) (d e : Drawing α β) : Prop where
  identifiers : d.entities.map Entity.identifier = e.entities.map Entity.identifier
  edges : d.edges = e.edges
  columns : List.Forall₂ (fun x y => (x.rows.filterMap column?).Sublist (y.rows.filterMap column?))
    d.entities e.entities

theorem isPart_draw {α β : Type} (column? : α → Option Column) (s : Schema) {low high : Table → List α}
    (edge : Relationship → β)
    (h : ∀ t, ((low t).filterMap column?).Sublist ((high t).filterMap column?)) :
    (s.draw low edge).IsPart column? (s.draw high edge) where
  identifiers := by
    simp [Schema.draw, Entity.identifier]
  edges := rfl
  columns := forall₂_entities h

theorem sublist_columnsOf_rows {low high : List Column} (h : low.Sublist high) :
    (PlantUml.columnsOf (PlantUml.rows low)).Sublist (PlantUml.columnsOf (PlantUml.rows high)) := by
  rw [PlantUml.columnsOf_rows, PlantUml.columnsOf_rows]
  exact (h.filter _).append (h.filter _)

/-- Both diagrams are the lines of a drawing. For each entity, PlantUML shows the columns that Mermaid shows,
with the primary key in front. From one level of detail to a higher one, entities and relationships are the
same in either diagram, and each entity keeps its columns in their order. -/
theorem drawings_agree (s : Schema) (title : Option String) :
    (∀ detail, Mermaid.render s detail =
          endedText Mermaid.Line.text (Mermaid.drawingLines (Mermaid.drawing s detail)) ∧
        PlantUml.render s detail title =
          endedText PlantUml.Line.text (PlantUml.drawingLines title (PlantUml.drawing s detail))) ∧
    (∀ detail, List.Forall₂ (fun e f => e.name = f.name ∧ PlantUml.IsKeysFirst e.rows f.rows)
      (Mermaid.drawing s detail).entities (PlantUml.drawing s detail).entities) ∧
    Detail.levels.Pairwise fun low high =>
      (Mermaid.drawing s low).IsPart some (Mermaid.drawing s high) ∧
        (PlantUml.drawing s low).IsPart PlantUml.Row.column? (PlantUml.drawing s high) := by
  refine ⟨?_, ?_, ?_⟩
  · intro detail
    exact ⟨Mermaid.render_eq_endedText s detail, PlantUml.render_eq_endedText s detail title⟩
  · intro detail
    apply forall₂_entities
    intro t
    exact ⟨rfl, PlantUml.isKeysFirst_rows (detail.columns t)⟩
  · apply Detail.pairwise_shows.imp
    intro low high h
    have hcolumns : ∀ t, (low.columns t).Sublist (high.columns t) := by
      intro t
      rw [← Detail.filter_shows, ← Detail.filter_shows]
      exact List.monotone_filter_right t.columns h
    constructor
    · apply isPart_draw
      intro t
      simpa using hcolumns t
    · apply isPart_draw
      intro t
      exact sublist_columnsOf_rows (hcolumns t)

/-- A key behind another column, and a table without a key that refers to it. -/
def blog : Schema where
  tables :=
    [⟨"users", [⟨"bio", "LONG TEXT", false, false, true, none⟩, ⟨"id", "INT", true, false, true, none⟩]⟩,
     ⟨"posts", [⟨"user id", "INT", false, true, false, some ⟨"users", "id"⟩⟩]⟩]
  relationships := [.oneToMany "posts" "user id" "users" "id"]

theorem drawings_agree_blog :
    Mermaid.render blog .all = endedText id ["erDiagram", "    users \x7b", "        LONG_TEXT bio",
      "        INT id PK", "    \x7d", "    posts \x7b", "        INT user_id FK", "    \x7d",
      "    users ||--o\x7b posts : \"user id -> id\""] ∧
    PlantUml.render blog .all (some "Blog") = endedText id ["@startuml", "title Blog", "hide circle",
      "skinparam linetype ortho", "", "entity \"users\" as users \x7b", "  * id : INT", "  --",
      "  bio : LONG TEXT", "\x7d", "", "entity \"posts\" as posts \x7b", "  * user id : INT <<FK>>", "\x7d", "",
      "users ||--o\x7b posts : user id -> id", "@enduml"] ∧
    PlantUml.render blog .primaryKeys (some "Blog") = endedText id ["@startuml", "title Blog", "hide circle",
      "skinparam linetype ortho", "", "entity \"users\" as users \x7b", "  * id : INT", "\x7d", "",
      "entity \"posts\" as posts \x7b", "\x7d", "", "users ||--o\x7b posts : user id -> id", "@enduml"] := by
  have htexts := (drawings_agree blog (some "Blog")).1
  rw [(htexts .all).1, (htexts .all).2, (htexts .primaryKeys).2]
  refine ⟨?_, ?_, ?_⟩
  · exact (endedText_map _ _).symm.trans (congrArg (endedText id) (by decide))
  · exact (endedText_map _ _).symm.trans (congrArg (endedText id) (by decide))
  · exact (endedText_map _ _).symm.trans (congrArg (endedText id) (by decide))

end SqlSchema
