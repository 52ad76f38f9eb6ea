import Mathlib.Tactic.Choose
import SqlSchema.Proofs.PlainTypes
/-!
# Plain schemas

Tables of plain types and arbitrary one-line names are read back from their export.
-/
namespace SqlSchema

def IsOneLine (s : String) : Prop := '\n' ∉ s.toList ∧ '\r' ∉ s.toList

instance (s : String) : Decidable (IsOneLine s) := inferInstanceAs (Decidable (_ ∧ _))

theorem IsOneLine.isSolid {s : String} (h : IsOneLine s) : Text.IsSolid s :=
  ⟨h.2, Text.hasNoBlankLine_of_not_mem h.1⟩

/-- A column of a plain type whose name does not open a constraint. -/
structure Column.IsPlain (c : Column) : Prop where
  name : IsOneLine c.name
  keyword : ∀ k ∈ "CONSTRAINT" :: elementKeywords, Text.isKeyword k c.name = false
  type : IsPlainType c.type
  flag : c.isForeignKey = c.foreignKeyRef.isSome
  reference : ∀ r, c.foreignKeyRef = some r → IsOneLine r.table ∧ IsOneLine r.column

structure Table.IsPlain (t : Table) : Prop where
  name : IsOneLine t.name
  names : (t.columns.map (·.name)).Nodup
  columns : ∀ c ∈ t.columns, c.IsPlain

namespace Ddl

private theorem isKeyword_of_isWord {t : Token} {name k : String} (ht : t.kind = nameKind name)
    (h : t.isWord k) : Text.isKeyword k name := by
  unfold nameKind at ht
  rw [Token.isWord] at h
  split at ht
  · rwa [ht] at h
  · simp [ht] at h

theorem not_startsConstraint {t : Token} {name : String} (ht : t.kind = nameKind name)
    (h : ∀ k ∈ "CONSTRAINT" :: elementKeywords, Text.isKeyword k name = false) (ts : List Token) :
    startsConstraint (t :: ts) = false := by
  have hword {k : String} (hk : k ∈ "CONSTRAINT" :: elementKeywords) : ¬t.isWord k := by
    intro hw
    simpa [h k hk] using isKeyword_of_isWord ht hw
  have hone : t.isOneOf elementKeywords = false := by
    rw [Token.isOneOf, List.any_eq_false]
    exact fun k hk => hword (List.mem_cons_of_mem _ hk)
  simp [startsConstraint, behind?, hword (List.mem_cons_self), opensConstraint, hone]

theorem isExportable_of_isPlain (d : Dialect) {t : Table} (h : t.IsPlain) : IsExportable d t := by
  choose! pieces hpieces using fun c (hc : c ∈ t.columns) => exists_isType d (h.columns c hc).type
  refine ⟨⟨h.name.isSolid, fun c hc => ?_⟩, h.names, fun c hc => (h.columns c hc).flag,
    t.columns.map (fun c => (columnPieces c (pieces c), .column (definition c))) ++ keyLines t,
    isBody_of_isLine fun line hline next hn => ?_, ?_, by simp [elements]⟩
  · have hplain := h.columns c hc
    refine ⟨hplain.name.isSolid, (hpieces c hc ' ' rfl).collapsed, fun r hr => ?_⟩
    exact ⟨(hplain.reference r hr).1.isSolid, (hplain.reference r hr).2.isSolid⟩
  · rcases List.mem_append.1 hline with hline | hline
    · obtain ⟨c, hc, rfl⟩ := List.mem_map.1 hline
      have hseam : isSeam (behindType c.isNullable next) := by
        unfold behindType
        split
        · exact hn
        · rfl
      obtain ⟨first, hfirst, heq⟩ := tokensIn_columnPieces c (pieces c)
      refine isLine_column hn (hpieces c hc _ hseam) ?_
      rw [heq]
      exact not_startsConstraint hfirst (h.columns c hc).keyword _
    · exact isLine_keyLines d next t line hline
  · simp only [List.map_append, rawText_keyLines, bodyLines, List.append_assoc, List.map_map]
    congr 1
    exact List.map_congr_left fun c hc => rawText_columnPieces c (hpieces c hc ' ' rfl).raw

end Ddl

/-- Plain tables are read back from their export, with one relationship for each reference. -/
theorem readSchema_render_of_isPlain {options : ReadOptions} {s : Schema}
    (hd : options.dialect ≠ .auto) (hdedup : options.dedup = false)
    (hsize : (Ddl.render s).utf8ByteSize ≤ options.maxBytes) (h : ∀ t ∈ s.tables, t.IsPlain) :
    readSchema options (Ddl.render s) = .ok ⟨s.tables, s.tables.flatMap Table.references⟩ :=
  Ddl.readSchema_render hd hdedup hsize fun t ht => Ddl.isExportable_of_isPlain options.dialect (h t ht)

/-- A table of odd names. -/
def oddTable : Table where
  name := "order; --"
  columns :=
    [⟨"", "NUMERIC(10, 2)[]", true, false, false, none⟩,
     ⟨"say \"hi\", (ok)", "timestamp with time zone", false, true, true, some ⟨"/* u", "id'"⟩⟩]

theorem readSchema_render_oddTable :
    readSchema ⟨.mysql, false, 1000⟩ (Ddl.render ⟨[oddTable], []⟩) =
      .ok ⟨[oddTable], [.oneToMany "order; --" "say \"hi\", (ok)" "/* u" "id'"]⟩ := by
  have hnumeric : IsPlainType
      ("NUMERIC" ++ ("(" ++ ", ".intercalate ["10", "2"] ++ ")") ++ "[]") :=
    .suffix (.suffix (.word (by decide)) (.arguments (by decide))) .array
  have htimestamp : IsPlainType ("timestamp" ++ (" " ++ "with" ++ " " ++ "time" ++ " " ++ "zone")) :=
    .suffix (.word (by decide)) (.timeZone (by decide) (by decide) (by decide))
  have hplain : oddTable.IsPlain := by
    refine ⟨by decide, by decide, fun c hc => ?_⟩
    simp only [oddTable, List.mem_cons, List.not_mem_nil, or_false] at hc
    rcases hc with rfl | rfl
    · exact ⟨by decide, by decide, hnumeric, rfl, by simp⟩
    · exact ⟨by decide, by decide, htimestamp, rfl, fun r hr => by
        obtain rfl := Option.some.inj hr
        decide⟩
  exact readSchema_render_of_isPlain (by decide) rfl (by decide +kernel) (by simpa using hplain)

end SqlSchema
