import SqlSchema.Proofs.Keywords
/-!
# Keys in tables and in clauses

A key is read in two places: as an element of a table and as what an ALTER TABLE statement adds. The
two readers find the same key in the same tokens, and nothing in the same malformed ones.
-/
namespace SqlSchema

def keyPhrases : List (List String) := [["PRIMARY", "KEY"], ["FOREIGN", "KEY"]]

/-- Whether the tokens open a primary or a foreign key, with or without a constraint name. -/
def opensKey (ts : List Token) : Bool :=
  (behindConstraintName? ts).any fun rest => (behindOneOf? keyPhrases rest).isSome

/-- The clause that adds the key. -/
def TableElement.addClause? : TableElement → Option AddClause
  | .column _ => none
  | .primaryKey columns => some (.primaryKey columns)
  | .foreignKey clause => some (.foreignKey clause)

section Readers

theorem exists_phrase_of_opensKey {ts : List Token} (h : opensKey ts) :
    ∃ rest k more, behindConstraintName? ts = some rest ∧ [k, "KEY"] ∈ keyPhrases ∧
      behind? [k, "KEY"] rest = some more := by
  rw [opensKey, Option.any_eq_true] at h
  obtain ⟨rest, hrest, hphrase⟩ := h
  obtain ⟨phrase, hmem, hbehind⟩ := List.findSome?_isSome_iff.1 hphrase
  obtain ⟨more, hmore⟩ := Option.isSome_iff_exists.1 hbehind
  have hshape : phrase = ["PRIMARY", "KEY"] ∨ phrase = ["FOREIGN", "KEY"] := by
    simpa [keyPhrases] using hmem
  rcases hshape with rfl | rfl
  · exact ⟨rest, "PRIMARY", more, hrest, hmem, hmore⟩
  · exact ⟨rest, "FOREIGN", more, hrest, hmem, hmore⟩

theorem opensKey_map {f : Token → Token} (hf : KeepsRole f) (ts : List Token) :
    opensKey (ts.map f) = opensKey ts := by
  rw [opensKey, behindConstraintName?_map hf, opensKey]
  cases behindConstraintName? ts with
  | none => rfl
  | some rest => simp only [Option.map_some, Option.any_some, behindOneOf?_map hf, Option.isSome_map]

/-- What follows `ADD` is read as the key would be inside a table. -/
theorem readAddClause?_of_opensKey {add : Token} (hadd : add.isWord "ADD") {ts : List Token}
    (h : opensKey ts) :
    readAddClause? (add :: ts) = (readConstraint? ts).bind TableElement.addClause? := by
  obtain ⟨rest, k, more, hrest, hk, hmore⟩ := exists_phrase_of_opensKey h
  have hbehind : behind? ["ADD"] (add :: ts) = some ts := by simp [behind?, hadd]
  rw [readAddClause?_eq, readConstraint?_eq, hbehind, Option.bind_some, hrest, Option.bind_some,
    Option.bind_some, readKey?]
  have hkind : k = "PRIMARY" ∨ k = "FOREIGN" := by simpa [keyPhrases] using hk
  rcases hkind with rfl | rfl
  · have hread : readKind? rest = some (.primaryKey, more) := by
      simp [readKind?_eq, kindPhrases, hmore]
    rw [hread, hmore, Option.bind_some, readClause?]
    cases hcolumns : readPrimaryKey? more <;> simp [hcolumns, TableElement.addClause?]
  · have hprimary : behind? ["PRIMARY", "KEY"] rest = none := by
      obtain ⟨t, u, rfl, ht, -⟩ := exists_words_of_behind? hmore
      have hword : ¬t.isWord "PRIMARY" := fun ht' => absurd (eq_of_isWord ht ht') (by decide)
      simp [behind?, hword]
    have hread : readKind? rest = some (.foreignKey, more) := by
      simp [readKind?_eq, kindPhrases, hprimary, hmore]
    rw [hread, hprimary, hmore, Option.bind_some, readClause?]
    cases hclause : readForeignKey? more <;> simp [hclause, TableElement.addClause?]

theorem opensConstraint_of_behind? {k : String} {ts rest : List Token} (hk : [k, "KEY"] ∈ keyPhrases)
    (h : behind? [k, "KEY"] ts = some rest) : opensConstraint ts := by
  obtain ⟨t, u, rfl, ht, hu⟩ := exists_words_of_behind? h
  have hopens : t.isOneOf elementKeywords := by
    have hmem : ∀ k, [k, "KEY"] ∈ keyPhrases → k ∈ elementKeywords := by
      simp [keyPhrases, elementKeywords]
    exact List.any_eq_true.2 ⟨k, hmem k hk, ht⟩
  have htype : u.isOneOf typeNames = false := isOneOf_eq_false hu (by decide)
  have hfollows : u.isOneOf constraintFollowers := List.any_eq_true.2 ⟨"KEY", by decide, hu⟩
  obtain ⟨kind, start, stop⟩ := u
  cases kind with
  | word text => simp [opensConstraint, hopens, htype, hfollows]
  | _ => simp [opensConstraint, hopens]

theorem readElement?_of_opensKey (source : String) {ts : List Token} (h : opensKey ts) :
    readElement? source ts = readConstraint? ts := by
  obtain ⟨rest, k, more, hrest, hk, hmore⟩ := exists_phrase_of_opensKey h
  rw [readElement?, if_pos]
  rw [Bool.or_eq_true]
  rw [behindConstraintName?] at hrest
  split at hrest
  · next hname => exact .inl (by rw [hname]; rfl)
  · obtain rfl := Option.some.inj hrest
    exact .inr (opensConstraint_of_behind? hk hmore)

end Readers

end SqlSchema
