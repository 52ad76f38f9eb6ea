import SqlSchema.Proofs.Relocation
/-!
# Statements without their texts

Nothing in quotes reads as a keyword, and no number does. So token lists that differ in such texts
only, and in the source they stand in, give statements that differ in names and types only.
-/
namespace SqlSchema

def Rewording.erased : Rewording := ⟨fun _ => "", fun _ => ""⟩

/-- The statement without names and types. What is left are the kinds of the statement and of its
parts, their order, the flags, which references name a column, and the lengths of the lists. -/
def Statement.shape (s : Statement) : Statement := s.reword .erased

theorem renames_bare : Renames Token.bare .erased .erased where
  toKeepsRole := keepsRole_bare
  name t := by
    obtain ⟨kind, start, stop⟩ := t
    cases kind <;> rfl

theorem readStatements_bare (source : String) (ts : List Token) :
    (readStatements "" (ts.map Token.bare)).map Statement.shape =
      (readStatements source ts).map Statement.shape :=
  readStatements_map renames_bare fun _ _ => rfl

theorem map_bare_eq_of_shape {ts us : List Token}
    (h : ts.map (fun t => t.kind.shape) = us.map (fun t => t.kind.shape)) :
    ts.map Token.bare = us.map Token.bare := by
  have key (ts : List Token) :
      ts.map Token.bare = (ts.map fun t => t.kind.shape).map fun kind => ⟨kind, 0, 0⟩ := by
    rw [List.map_map]
    rfl
  rw [key ts, key us, h]

/-- Tokens that agree in their kinds and in the texts of their words are read as statements of one
shape, whatever stands in quotes and in numbers and whatever source the tokens are from. -/
theorem readStatements_shape {ts us : List Token}
    (h : ts.map (fun t => t.kind.shape) = us.map (fun t => t.kind.shape)) (source source' : String) :
    (readStatements source ts).map Statement.shape =
      (readStatements source' us).map Statement.shape := by
  rw [← readStatements_bare source ts, ← readStatements_bare source' us, map_bare_eq_of_shape h]

theorem readStatements_shape_keywords :
    ∃ ts us, tokenize .generic "CREATE TABLE t (\"a\" INT(1) DEFAULT 'b' REFERENCES \"u\")" = .ok ts ∧
      tokenize .generic
        "CREATE TABLE t (\"PRIMARY\" INT(23) DEFAULT 'REFERENCES x (' REFERENCES \"(KEY)\")" = .ok us ∧
      ts.map (fun t => t.kind.shape) = us.map (fun t => t.kind.shape) ∧
      (readStatements "CREATE TABLE t (\"a\" INT(1) DEFAULT 'b' REFERENCES \"u\")" ts).map
          Statement.shape =
        (readStatements
          "CREATE TABLE t (\"PRIMARY\" INT(23) DEFAULT 'REFERENCES x (' REFERENCES \"(KEY)\")" us).map
          Statement.shape := by
  refine ⟨_, _, tokenize_ofList (by with_unfolding_all decide) rfl,
    tokenize_ofList (by with_unfolding_all decide) rfl, ?_, readStatements_shape ?_ _ _⟩ <;>
  with_unfolding_all decide

end SqlSchema
