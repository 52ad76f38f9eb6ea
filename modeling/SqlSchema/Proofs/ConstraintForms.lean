import SqlSchema.Proofs.Forms
import SqlSchema.Proofs.WellFormed
/-!
# Constraints in every form

The words that open a constraint can name a column as well, so three tokens decide which of the two an
element is. They tell every form of a constraint from a column, except for a LIKE clause whose table
has a bare qualifier: there the third token is a dot, which the decision does not know.
-/
namespace SqlSchema

section Forms

/-- A name that a constraint can have: any quoted name, and any bare one that is no type name. -/
structure IsPlainName (t : Token) : Prop where
  name : t.name?.isSome
  notType : t.isOneOf typeNames = false

/-- A token of the kind, or nothing. -/
inductive Optionally (p : Token → Prop) : List Token → Prop
  | missing : Optionally p []
  | present {t : Token} (h : p t) : Optionally p [t]

/-- `USING` with the name of an index method, or nothing. -/
inductive Method : List Token → Prop
  | missing : Method []
  | present {t method : Token} {text : String} (ht : t.isWord "USING") (hm : method.kind = .word text) :
      Method [t, method]

/-- A schema with the dot behind it, or nothing. -/
inductive Qualifier : List Token → Prop
  | missing : Qualifier []
  | schema {schema dot : Token} (hs : schema.name?.isSome) (hdot : dot.kind = .dot) :
      Qualifier [schema, dot]

/-- `INCLUDING` and `EXCLUDING` with what is to be copied or not, any number of times. -/
inductive CopyOptions : List Token → Prop
  | nil : CopyOptions []
  | cons {t option : Token} {ts : List Token} (ht : t.isOneOf ["INCLUDING", "EXCLUDING"])
      (hts : CopyOptions ts) : CopyOptions (t :: option :: ts)

/-- The elements of a table that are no columns. -/
inductive ConstraintForm : List Token → Prop
  | named {t name : Token} {rest : List Token} (ht : t.isWord "CONSTRAINT") (hname : IsPlainName name) :
      ConstraintForm (t :: name :: rest)
  | primaryKey {ts g rest : List Token} (hts : Spells ["PRIMARY", "KEY"] ts) (hg : IsGroup g) :
      ConstraintForm (ts ++ (g ++ rest))
  | foreignKey {ts g rest : List Token} {references : Token} (hts : Spells ["FOREIGN", "KEY"] ts)
      (hg : IsGroup g) (hreferences : references.isWord "REFERENCES") :
      ConstraintForm (ts ++ (g ++ references :: rest))
  | check {t : Token} {g rest : List Token} (ht : t.isWord "CHECK") (hg : IsGroup g) :
      ConstraintForm (t :: (g ++ rest))
  | specialIndex {t : Token} {kind name g rest : List Token}
      (ht : t.isOneOf ["UNIQUE", "FULLTEXT", "SPATIAL"])
      (hkind : Optionally (fun t => t.isOneOf ["KEY", "INDEX"]) kind)
      (hname : Optionally IsPlainName name) (hg : IsGroup g) :
      ConstraintForm (t :: (kind ++ (name ++ (g ++ rest))))
  | index {t : Token} {name method g rest : List Token} (ht : t.isOneOf ["KEY", "INDEX"])
      (hname : Optionally IsPlainName name) (hmethod : Method method) (hg : IsGroup g) :
      ConstraintForm (t :: (name ++ (method ++ (g ++ rest))))
  | exclude {t : Token} {method g rest : List Token} (ht : t.isWord "EXCLUDE") (hmethod : Method method)
      (hg : IsGroup g) : ConstraintForm (t :: (method ++ (g ++ rest)))
  | period {ts g rest : List Token} {name : Token} (hts : Spells ["PERIOD", "FOR"] ts)
      (hname : IsPlainName name) (hg : IsGroup g) : ConstraintForm (ts ++ name :: (g ++ rest))
  | like {t table : Token} {qualifier options : List Token} (ht : t.isWord "LIKE")
      (hqualifier : Qualifier qualifier) (htable : IsPlainName table) (hoptions : CopyOptions options) :
      ConstraintForm (t :: (qualifier ++ table :: options))

/-- A LIKE clause over a table with a bare qualifier, which is no word that follows a keyword. -/
def HasBareQualifier (ts : List Token) : Prop :=
  ∃ like schema dot rest text, ts = like :: schema :: dot :: rest ∧ like.isWord "LIKE" ∧
    schema.kind = .word text ∧ schema.isOneOf constraintFollowers = false ∧ dot.kind = .dot

end Forms

section Lookahead

variable {t next : Token} {ts rest : List Token}

private theorem opensConstraint_of_sign (ht : t.isOneOf elementKeywords)
    (hnext : ∀ text, next.kind ≠ .word text) (rest : List Token) : opensConstraint (t :: next :: rest) := by
  obtain ⟨kind, start, stop⟩ := next
  cases kind with
  | word text => exact absurd rfl (hnext text)
  | _ => simp [opensConstraint, ht]

theorem opensConstraint_of_follower (ht : t.isOneOf elementKeywords)
    (hnext : next.isOneOf constraintFollowers) (rest : List Token) :
    opensConstraint (t :: next :: rest) := by
  have htype := isOneOf_of_disjoint hnext typeNames (by decide)
  obtain ⟨kind, start, stop⟩ := next
  cases kind with
  | word text => simp [opensConstraint, ht, htype, hnext]
  | _ => simp [opensConstraint, ht]

theorem opensConstraint_of_third (ht : t.isOneOf elementKeywords) (hnext : next.isOneOf typeNames = false)
    (hrest : rest = [] ∨ startsWith .leftParen rest ∨ rest.head?.any (·.isOneOf constraintOptions)) :
    opensConstraint (t :: next :: rest) := by
  obtain ⟨kind, start, stop⟩ := next
  cases kind with
  | word text => rcases hrest with rfl | hrest | hrest <;> simp_all [opensConstraint]
  | _ => simp [opensConstraint, ht]

private theorem startsWith_group {g : List Token} (hg : IsGroup g) (rest : List Token) :
    startsWith .leftParen (g ++ rest) := by
  obtain ⟨hopen, -, -⟩ := hg
  simp [startsWith, hopen]

private theorem opensConstraint_group {g : List Token} (ht : t.isOneOf elementKeywords) (hg : IsGroup g)
    (rest : List Token) : opensConstraint (t :: (g ++ rest)) := by
  obtain ⟨hopen, -, -⟩ := hg
  exact opensConstraint_of_sign ht (by simp [hopen]) _

private theorem opensConstraint_spelled {k k' : String} {us : List Token} (hk : k ∈ elementKeywords)
    (hk' : k' ∈ constraintFollowers) (h : Spells [k, k'] us) (rest : List Token) :
    opensConstraint (us ++ rest) := by
  obtain ⟨t, us, ht, hus, rfl⟩ := List.forall₂_cons_left_iff.1 h
  obtain ⟨next, us, hnext, -, rfl⟩ := List.forall₂_cons_left_iff.1 hus
  exact opensConstraint_of_follower (isOneOf_of_isWord ht hk) (isOneOf_of_isWord hnext hk') _

private theorem opensConstraint_name {name g : List Token} (ht : t.isOneOf elementKeywords)
    (hname : Optionally IsPlainName name) (hg : IsGroup g) (rest : List Token) :
    opensConstraint (t :: (name ++ (g ++ rest))) := by
  cases hname with
  | missing => exact opensConstraint_group ht hg rest
  | present hname => exact opensConstraint_of_third ht hname.notType (.inr (.inl (startsWith_group hg rest)))

private theorem opensConstraint_method {name method g : List Token} (ht : t.isOneOf elementKeywords)
    (hname : Optionally IsPlainName name) (hmethod : Method method) (hg : IsGroup g)
    (rest : List Token) : opensConstraint (t :: (name ++ (method ++ (g ++ rest)))) := by
  cases hmethod with
  | missing => exact opensConstraint_name ht hname hg rest
  | present husing =>
    cases hname with
    | missing => exact opensConstraint_of_follower ht (isOneOf_of_isWord husing (by decide)) _
    | present hname =>
      refine opensConstraint_of_third ht hname.notType (.inr (.inr ?_))
      simpa using isOneOf_of_isWord husing (by decide)

private theorem opensConstraint_like {table : Token} {qualifier options : List Token}
    (ht : t.isWord "LIKE") (hqualifier : Qualifier qualifier) (htable : IsPlainName table)
    (hoptions : CopyOptions options) (hbare : ¬HasBareQualifier (t :: (qualifier ++ table :: options))) :
    opensConstraint (t :: (qualifier ++ table :: options)) := by
  have hopens : t.isOneOf elementKeywords := isOneOf_of_isWord ht (by decide)
  cases hqualifier with
  | missing =>
    refine opensConstraint_of_third hopens htable.notType ?_
    cases hoptions with
    | nil => exact .inl rfl
    | cons hoption _ =>
      have hcopies := isOneOf_of_subset hoption constraintOptions (by decide)
      exact .inr (.inr (by simpa using hcopies))
  | @schema schema dot hs hdot =>
    cases hfollows : schema.isOneOf constraintFollowers with
    | true => exact opensConstraint_of_follower hopens hfollows _
    | false =>
      refine opensConstraint_of_sign hopens (fun text hword => hbare ?_) _
      exact ⟨t, schema, dot, table :: options, text, rfl, ht, hword, hfollows, hdot⟩

/-- Three tokens tell a constraint from a column, but for a LIKE clause with a bare qualifier. -/
theorem ConstraintForm.opens (h : ConstraintForm ts) (hbare : ¬HasBareQualifier ts) :
    (behind? ["CONSTRAINT"] ts).isSome ∨ opensConstraint ts := by
  cases h with
  | named ht hname => exact .inl (by simp [behind?, ht])
  | primaryKey hts hg => exact .inr (opensConstraint_spelled (by decide) (by decide) hts _)
  | foreignKey hts hg hreferences => exact .inr (opensConstraint_spelled (by decide) (by decide) hts _)
  | check ht hg => exact .inr (opensConstraint_group (isOneOf_of_isWord ht (by decide)) hg _)
  | specialIndex ht hkind hname hg =>
    have hopens := isOneOf_of_subset ht elementKeywords (by decide)
    cases hkind with
    | missing => exact .inr (opensConstraint_name hopens hname hg _)
    | present hkind =>
      have hfollows := isOneOf_of_subset hkind constraintFollowers (by decide)
      exact .inr (opensConstraint_of_follower hopens hfollows _)
  | index ht hname hmethod hg =>
    have hopens := isOneOf_of_subset ht elementKeywords (by decide)
    exact .inr (opensConstraint_method hopens hname hmethod hg _)
  | exclude ht hmethod hg =>
    exact .inr (opensConstraint_method (isOneOf_of_isWord ht (by decide)) .missing hmethod hg _)
  | period hts hname hg => exact .inr (opensConstraint_spelled (by decide) (by decide) hts _)
  | like ht hqualifier htable hoptions =>
    exact .inr (opensConstraint_like ht hqualifier htable hoptions hbare)

end Lookahead

section Columns

theorem readConstraint?_ne_column (ts : List Token) (c : ColumnDefinition) :
    readConstraint? ts ≠ some (.column c) := by
  have hkey (ts : List Token) : readKey? ts ≠ some (.column c) := by
    unfold readKey?
    split
    · simp
    · intro h
      obtain ⟨rest, -, hrest⟩ := Option.bind_eq_some_iff.1 h
      simp at hrest
  intro h
  rw [readConstraint?_eq] at h
  obtain ⟨rest, -, hrest⟩ := Option.bind_eq_some_iff.1 h
  exact hkey rest hrest

/-- Three tokens make a LIKE clause with a bare qualifier a column: its name is the keyword, its type
the qualifier. -/
theorem readElement?_of_bareQualifier (source : String) {ts : List Token} (h : HasBareQualifier ts) :
    ∃ c, readElement? source ts = some (.column c) := by
  obtain ⟨like, ⟨kind, start, stop⟩, dot, rest, text, rfl, hlike, rfl, hfollows, hdot⟩ := h
  have hname : ¬like.isWord "CONSTRAINT" := fun hword => absurd (eq_of_isWord hlike hword) (by decide)
  have hthird : dot.isOneOf constraintOptions = false := by
    simp [Token.isOneOf, Token.isWord, hdot]
  have hcolumn : opensConstraint (like :: ⟨.word text, start, stop⟩ :: dot :: rest) = false := by
    simp [opensConstraint, hfollows, startsWith, hdot, hthird]
  obtain ⟨name, hlike⟩ := kind_of_isWord hlike
  simp [readElement?, behind?, hname, hcolumn, readColumn?, readName?, Token.name?, hlike]

/-- No form of a constraint is read as a column, but for a LIKE clause with a bare qualifier. -/
theorem readElement?_constraintForm (source : String) {ts : List Token} (h : ConstraintForm ts) :
    (∃ c, readElement? source ts = some (.column c)) ↔ HasBareQualifier ts := by
  refine ⟨fun ⟨c, hc⟩ => ?_, readElement?_of_bareQualifier source⟩
  by_contra hbare
  have hopens := h.opens hbare
  rw [readElement?, if_pos (by simpa using hopens)] at hc
  exact readConstraint?_ne_column ts c hc

theorem readElement?_constraintForm_quoted :
    ∃ (ts : List Token) (finish : Token),
      tokenize .postgres "like \"public\".users INCLUDING ALL" = .ok (ts ++ [finish]) ∧
      ConstraintForm ts ∧
      ¬∃ c, readElement? "like \"public\".users INCLUDING ALL" ts = some (.column c) := by
  have hform : ConstraintForm [⟨.word "like", 0, 4⟩, ⟨.quoted "public", 5, 13⟩, ⟨.dot, 13, 14⟩,
      ⟨.word "users", 14, 19⟩, ⟨.word "INCLUDING", 20, 29⟩, ⟨.word "ALL", 30, 33⟩] :=
    .like (by decide) (.schema rfl rfl) ⟨rfl, by decide⟩ (.cons (by decide) .nil)
  refine ⟨_, ⟨.endOfText, 33, 33⟩,
    tokenize_ofList (by with_unfolding_all decide) (by with_unfolding_all decide), hform,
    (readElement?_constraintForm _ hform).not.2 ?_⟩
  rintro ⟨like, schema, dot, rest, text, heq, -, hword, -⟩
  obtain ⟨-, rfl, -⟩ := by simpa using heq
  simp at hword

theorem readElement?_like_public :
    ∃ (ts : List Token) (finish : Token), tokenize .generic "LIKE public.users" = .ok (ts ++ [finish]) ∧
      ConstraintForm ts ∧
      readElement? "LIKE public.users" ts = some (.column ⟨"LIKE", "public", false, false, none⟩) ∧
      readSchema ReadOptions.default "CREATE TABLE t (id INT, LIKE public.users)" =
        .ok ⟨[⟨"t", [⟨"id", "INT", false, false, true, none⟩,
          ⟨"LIKE", "public", false, false, true, none⟩]⟩], []⟩ := by
  have hform : ConstraintForm [⟨.word "LIKE", 0, 4⟩, ⟨.word "public", 5, 11⟩, ⟨.dot, 11, 12⟩,
      ⟨.word "users", 12, 17⟩] :=
    .like (by decide) (.schema rfl rfl) ⟨rfl, by decide⟩ .nil
  refine ⟨_, ⟨.endOfText, 17, 17⟩,
    tokenize_ofList (by with_unfolding_all decide) (by with_unfolding_all decide), hform, ?_, ?_⟩
  · with_unfolding_all decide
  · refine readSchema_ofList (d := .generic) rfl (by decide) (by decide) (by with_unfolding_all decide) ?_
    with_unfolding_all decide

end Columns

end SqlSchema
