import SqlSchema.Proofs.Composition
import SqlSchema.Proofs.Normalization
import SqlSchema.Proofs.Rereading
import SqlSchema.Proofs.WellFormed
/-!
# The order of statements

Tables are built before any constraint is applied to them. So it does not matter whether the ALTER TABLE
statements of a script stand in front of its CREATE TABLE statements or behind them.
-/
namespace SqlSchema

/-- Statements that define no tables can change places with statements that only define tables. -/
theorem schemaOf_append_comm (dedup : Bool) {alters creates : List Statement}
    (halters : ∀ s ∈ alters, s.create? = none) (hcreates : ∀ s ∈ creates, s.alter? = none) :
    schemaOf dedup (alters ++ creates) = schemaOf dedup (creates ++ alters) := by
  have hc : alters.filterMap Statement.create? = [] := List.filterMap_eq_nil_iff.2 halters
  have ha : creates.filterMap Statement.alter? = [] := List.filterMap_eq_nil_iff.2 hcreates
  have hdeclared : declaredSchema (alters ++ creates) = declaredSchema (creates ++ alters) := by
    simp only [declaredSchema, List.filterMap_append, hc, List.nil_append, List.append_nil]
  have hpending : pendingConstraints (alters ++ creates) = pendingConstraints (creates ++ alters) := by
    simp only [pendingConstraints, List.filterMap_append, ha, List.nil_append, List.append_nil]
  rw [schemaOf, schemaOf, hdeclared, hpending]

/-- A normalized script whose last statement ends in a semicolon, with all its literals and comments
closed. -/
structure IsClosedScript (d : Dialect) (text : String) (ts : List Token) : Prop where
  normalized : Text.normalize text = text
  tokens : tokenize d text = .ok ts
  closed : IsClosed d text ts
  ended : ts.dropLast ≠ []

theorem IsClosedScript.of_getLast? {d : Dialect} {text : String} {semicolon : Token}
    (hnormal : Text.normalize text = text) (hleft : (scan d text.toList).2 = [])
    (hcut : ∀ p ∈ (scan d text.toList).1, p.isCut = false)
    (hopen : ∀ p ∈ (scan d text.toList).1, p.kind ≠ .blockComment false)
    (hlast : (tokensOf 0 (scan d text.toList).1).dropLast.getLast? = some semicolon)
    (hkind : semicolon.kind = .semicolon) :
    IsClosedScript d text (tokensOf 0 (scan d text.toList).1) := by
  refine ⟨hnormal, tokenize_eq_ok_iff.2 ⟨hleft, rfl⟩, ⟨hcut, hopen, fun t ht => ?_⟩, fun hnil => ?_⟩
  · rw [hlast, Option.some.injEq] at ht
    rw [← ht, hkind]
  · simp [hnil] at hlast

theorem IsClosedScript.ne_nil {d : Dialect} {text : String} {ts : List Token}
    (h : IsClosedScript d text ts) : text.toList ≠ [] := by
  intro hnil
  obtain ⟨-, rfl⟩ := tokenize_eq_ok_iff.1 h.tokens
  apply h.ended
  rw [hnil, scan_nil]
  rfl

theorem normalize_join {a b : String} (ha : Text.normalize a = a) (hb : Text.normalize b = b)
    (hane : a.toList ≠ []) (hbne : b.toList ≠ []) :
    Text.normalize (a ++ "\n" ++ b) = a ++ "\n" ++ b := by
  have hchars {s : String} (h : Text.normalize s = s) : Text.normalizeChars s.toList = s.toList := by
    conv_rhs => rw [← h, Text.normalize, String.toList_ofList]
  have htext : (a ++ "\n" ++ b).toList = a.toList ++ '\n' :: b.toList := by
    simp [String.toList_append]
  rw [Text.normalize, htext, Text.normalizeChars_join (hchars ha) (hchars hb) hane hbne, ← htext,
    String.ofList_toList]

theorem IsClosedScript.read_join {options : ReadOptions} {a b : String} {ts us : List Token}
    (hd : options.dialect ≠ .auto) (ha : IsClosedScript options.dialect a ts)
    (hb : IsClosedScript options.dialect b us)
    (hsize : (a ++ "\n" ++ b).utf8ByteSize ≤ options.maxBytes) :
    readSchema options (a ++ "\n" ++ b) =
      .ok (schemaOf options.dedup (readStatements a ts ++ readStatements b us)) := by
  obtain ⟨vs, hvs, hread⟩ := ha.closed.exists_join ha.tokens .nil hb.tokens
  rw [show String.ofList ['\n'] = "\n" from rfl] at hvs hread
  have hnormal := normalize_join ha.normalized hb.normalized ha.ne_nil hb.ne_nil
  have htokens : tokenize (options.dialect.resolve (Text.normalize (a ++ "\n" ++ b)))
      (Text.normalize (a ++ "\n" ++ b)) = .ok vs := by
    rwa [hnormal, Ddl.resolve_of_ne_auto hd]
  rw [readSchema_of_tokenize hsize htokens, hnormal, hread]

/-- A script of ALTER TABLE statements and one of CREATE TABLE statements give the same schema in
either order. -/
theorem readSchema_join_comm {options : ReadOptions} {a b : String} {ts us : List Token}
    (hd : options.dialect ≠ .auto) (ha : IsClosedScript options.dialect a ts)
    (hb : IsClosedScript options.dialect b us)
    (halters : ∀ s ∈ readStatements a ts, s.create? = none)
    (hcreates : ∀ s ∈ readStatements b us, s.alter? = none)
    (hsize : (a ++ "\n" ++ b).utf8ByteSize ≤ options.maxBytes) :
    ∃ s, readSchema options (a ++ "\n" ++ b) = .ok s ∧ readSchema options (b ++ "\n" ++ a) = .ok s := by
  have hswapped : (b ++ "\n" ++ a).utf8ByteSize ≤ options.maxBytes := by
    simp only [String.utf8ByteSize_append] at hsize ⊢
    omega
  refine ⟨_, ha.read_join hd hb hsize, ?_⟩
  rw [hb.read_join hd ha hswapped, schemaOf_append_comm _ halters hcreates]

theorem readSchema_join_comm_orders :
    IsClosedScript .generic "ALTER TABLE o ADD PRIMARY KEY (id);"
        (tokensOf 0 (scan .generic "ALTER TABLE o ADD PRIMARY KEY (id);".toList).1) ∧
      IsClosedScript .generic "CREATE TABLE o (id INT);"
        (tokensOf 0 (scan .generic "CREATE TABLE o (id INT);".toList).1) ∧
      ∃ s, readSchema ReadOptions.default
          ("ALTER TABLE o ADD PRIMARY KEY (id);" ++ "\n" ++ "CREATE TABLE o (id INT);") = .ok s ∧
        readSchema ReadOptions.default
          ("CREATE TABLE o (id INT);" ++ "\n" ++ "ALTER TABLE o ADD PRIMARY KEY (id);") = .ok s := by
  have halters : IsClosedScript .generic "ALTER TABLE o ADD PRIMARY KEY (id);"
      (tokensOf 0 (scan .generic "ALTER TABLE o ADD PRIMARY KEY (id);".toList).1) := by
    apply @IsClosedScript.of_getLast? _ _ ⟨.semicolon, 34, 35⟩ <;> with_unfolding_all decide
  have hcreates : IsClosedScript .generic "CREATE TABLE o (id INT);"
      (tokensOf 0 (scan .generic "CREATE TABLE o (id INT);".toList).1) := by
    apply @IsClosedScript.of_getLast? _ _ ⟨.semicolon, 23, 24⟩ <;> with_unfolding_all decide
  refine ⟨halters, hcreates, @readSchema_join_comm ReadOptions.default _ _ _ _ ?_ halters hcreates
    ?_ ?_ ?_⟩ <;> with_unfolding_all decide

end SqlSchema
