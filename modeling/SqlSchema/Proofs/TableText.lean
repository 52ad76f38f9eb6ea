import Mathlib.Data.List.Basic
import SqlSchema.Proofs.Quoting
/-!
# The text of exported tables

Exported tables lose the blank lines between them and inside an empty body when they are read again.
What is left of a table is one line for its name, one for each element and one that closes the list.
-/
namespace SqlSchema.Ddl

/-- The lines with a comma behind each but the last. -/
def withCommas : List (List Char) → List (List Char)
  | [] => []
  | [line] => [line]
  | line :: next :: lines => (line ++ [',']) :: withCommas (next :: lines)

/-- The line that opens a table. -/
def heading (name : String) : List Char := ("CREATE TABLE " ++ quote name ++ " (").toList

/-- The lines of a table without blank ones. -/
def parts (t : Table) : List (List Char) :=
  heading t.name :: (withCommas ((bodyLines t).map String.toList) ++ [");".toList])

/-- The text of a table without blank lines. -/
def compact (t : Table) : List Char := ['\n'].intercalate (parts t)

/-- A line that keeps its line breaks when it is read, and does not end in a blank line. -/
structure IsSolidLine (line : List Char) : Prop where
  noReturn : '\r' ∉ line
  closes : Text.lineState? true line = some false

theorem intercalate_withCommas (lines : List (List Char)) :
    [',', '\n'].intercalate lines = ['\n'].intercalate (withCommas lines) := by
  induction lines with
  | nil => rfl
  | cons line lines ih =>
    cases lines with
    | nil => simp [withCommas]
    | cons next lines =>
      have hne : withCommas (next :: lines) ≠ [] := by cases lines <;> simp [withCommas]
      rw [List.intercalate_cons_cons, ih, withCommas, List.intercalate_cons_of_ne_nil hne]
      simp

private theorem lineState?_concat_comma {line : List Char} (h : Text.lineState? true line = some false) :
    Text.lineState? true (line ++ [',']) = some false := by
  rw [Text.lineState?_append, h]
  rfl

theorem solid_withCommas {lines : List (List Char)} (h : ∀ line ∈ lines, IsSolidLine line) :
    ∀ line ∈ withCommas lines, IsSolidLine line := by
  induction lines with
  | nil => simp [withCommas]
  | cons line lines ih =>
    cases lines with
    | nil => simpa [withCommas] using h
    | cons next lines =>
      intro part hpart
      rw [withCommas] at hpart
      rcases List.mem_cons.1 hpart with rfl | hpart
      · have hline := h line (by simp)
        exact ⟨by simp [hline.noReturn], lineState?_concat_comma hline.closes⟩
      · exact ih (fun l hl => h l (by simp [hl])) part hpart

theorem solid_heading {name : String} (h : Text.IsSolid name) :
    IsSolidLine (heading name) := by
  refine ⟨?_, ?_⟩
  · simp only [heading, String.toList_append, List.mem_append]
    rintro ((hm | hm) | hm)
    · simp at hm
    · rcases mem_quote hm with h' | h'
      · simp at h'
      · exact h.noReturn h'
    · simp at hm
  · rw [heading, String.toList_append, String.toList_append, Text.lineState?_append,
      Text.lineState?_append, show Text.lineState? true "CREATE TABLE ".toList = some false from rfl,
      Option.bind_some, lineState?_quote h.noBlankLine]
    rfl

theorem solid_parts {t : Table} (hname : Text.IsSolid t.name)
    (hlines : ∀ line ∈ bodyLines t, IsSolidLine line.toList) : ∀ part ∈ parts t, IsSolidLine part := by
  intro part hpart
  rcases List.mem_cons.1 hpart with rfl | hpart
  · exact solid_heading hname
  · rcases List.mem_append.1 hpart with hpart | hpart
    · refine solid_withCommas (fun line hline => ?_) part hpart
      obtain ⟨l, hl, rfl⟩ := List.mem_map.1 hline
      exact hlines l hl
    · obtain rfl := List.mem_singleton.1 hpart
      exact ⟨by decide, rfl⟩

/-- Variables stand for the literals here: a literal is slow to tell from joined texts. -/
theorem toList_five (t₁ t₂ t₃ t₄ t₅ : String) :
    (t₁ ++ t₂ ++ t₃ ++ t₄ ++ t₅).toList =
      t₁.toList ++ t₂.toList ++ t₃.toList ++ t₄.toList ++ t₅.toList := by
  simp only [String.toList_append]

theorem createTable_toList (t : Table) :
    (createTable t).toList = ['\n'].intercalate
      [heading t.name, ['\n'].intercalate (withCommas ((bodyLines t).map String.toList)),
        ");".toList, []] := by
  have hbody : (",\n".intercalate (bodyLines t)).toList =
      ['\n'].intercalate (withCommas ((bodyLines t).map String.toList)) := by
    rw [String.toList_intercalate, ← intercalate_withCommas]
    rfl
  have htext : (createTable t).toList = "CREATE TABLE ".toList ++ (quote t.name).toList ++
      " (\n".toList ++ (",\n".intercalate (bodyLines t)).toList ++ "\n);\n".toList :=
    toList_five _ _ _ _ _
  rw [htext, hbody]
  simp [heading, String.toList_append]

private theorem textLines_createTable {t : Table} (h : ∀ part ∈ parts t, IsSolidLine part) :
    Text.textLines (createTable t).toList = (parts t).flatMap fun part => part.splitOn '\n' := by
  have heq : (parts t).flatMap Text.textLines = (parts t).flatMap fun part => part.splitOn '\n' :=
    List.flatMap_congr fun part hpart => Text.textLines_eq (h part hpart).closes
  rw [← heq, createTable_toList, Text.textLines_intercalate, parts]
  simp [Text.textLines_intercalate]

private theorem not_mem_createTable {t : Table} (h : ∀ part ∈ parts t, IsSolidLine part) :
    '\r' ∉ (createTable t).toList := by
  intro hm
  rw [createTable_toList] at hm
  rcases Text.mem_intercalate hm with hm | ⟨part, hpart, hm⟩
  · simp at hm
  have hbody : ∀ part ∈ withCommas ((bodyLines t).map String.toList), '\r' ∉ part :=
    fun part hpart => (h part (by simp [parts, hpart])).noReturn
  simp only [List.mem_cons, List.not_mem_nil, or_false] at hpart
  rcases hpart with rfl | rfl | rfl | rfl
  · exact (h _ (by simp [parts])).noReturn hm
  · rcases Text.mem_intercalate hm with hm | ⟨line, hline, hm⟩
    · simp at hm
    · exact hbody line hline hm
  · exact (h ");".toList (by simp [parts])).noReturn hm
  · simp at hm

private theorem compact_ends (t : Table) :
    (compact t).head? = some 'C' ∧ (compact t).getLast? = some ';' := by
  rw [compact, parts, ← List.cons_append, Text.intercalate_concat]
  constructor
  · simp [heading, String.toList_append]
  · rw [List.getLast?_append]
    rfl

private theorem intercalate_ends {xss : List (List Char)} (hne : xss ≠ [])
    (h : ∀ xs ∈ xss, xs.head? = some 'C' ∧ xs.getLast? = some ';') :
    (['\n'].intercalate xss).head? = some 'C' ∧ (['\n'].intercalate xss).getLast? = some ';' := by
  induction xss with
  | nil => exact absurd rfl hne
  | cons xs xss ih =>
    have hxs := h xs (by simp)
    cases xss with
    | nil => simpa using hxs
    | cons ys xss =>
      obtain ⟨-, hlast⟩ := ih (by simp) fun zs hzs => h zs (by simp [hzs])
      rw [List.intercalate_cons_cons]
      constructor
      · rw [List.append_assoc, List.head?_append, hxs.1]
        rfl
      · rw [List.getLast?_append, hlast]
        rfl

theorem normalizeChars_render {s : Schema} (h : ∀ t ∈ s.tables, ∀ part ∈ parts t, IsSolidLine part) :
    Text.normalizeChars (render s).toList = ['\n'].intercalate (s.tables.map compact) := by
  have hrender : (render s).toList =
      ['\n'].intercalate (s.tables.map fun t => (createTable t).toList) := by
    rw [render, String.toList_intercalate, List.map_map]
    rfl
  have hlines : Text.textLines (render s).toList =
      (s.tables.flatMap parts).flatMap fun part => part.splitOn '\n' := by
    rw [hrender, Text.textLines_intercalate, List.flatMap_map, List.flatMap_assoc]
    exact List.flatMap_congr fun t ht => textLines_createTable (h t ht)
  have hjoin : ['\n'].intercalate (Text.textLines (render s).toList) =
      ['\n'].intercalate (s.tables.map compact) := by
    rw [hlines, Text.intercalate_flatMap _ fun part _ => List.splitOn_ne_nil _ _]
    simp only [List.intercalate_splitOn, List.map_id']
    exact Text.intercalate_flatMap _ fun t _ => List.cons_ne_nil _ _
  have hreturn : '\r' ∉ (render s).toList := by
    intro hm
    rw [hrender] at hm
    rcases Text.mem_intercalate hm with hm | ⟨text, htext, hm⟩
    · simp at hm
    · obtain ⟨t, ht, rfl⟩ := List.mem_map.1 htext
      exact not_mem_createTable (h t ht) hm
  rw [Text.normalizeChars_eq hreturn, hjoin]
  by_cases hne : s.tables = []
  · simp [hne, Text.trim]
  · obtain ⟨hfirst, hlast⟩ := intercalate_ends (show s.tables.map compact ≠ [] by simpa using hne)
      fun xs hxs => by
        obtain ⟨t, -, rfl⟩ := List.mem_map.1 hxs
        exact compact_ends t
    exact Text.trim_eq_self (by rw [hfirst]; rfl) (by rw [hlast]; rfl)

end SqlSchema.Ddl
