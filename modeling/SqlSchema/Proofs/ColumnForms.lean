import SqlSchema.Proofs.Forms
/-!
# Columns in every form

What a column definition says behind its type can stand in any order. Each option is read without
taking tokens of the next one, and what stands in the groups of a type, a default or a check is not
read at all.
-/
namespace SqlSchema

/-- What a column definition can say behind its type. -/
inductive ColumnOption
  | primaryKey
  | notNull
  | nullable
  | unique
  | default
  | check
  | collation
  | references (target : InlineReference)
deriving DecidableEq, Repr

namespace ColumnOption

/-- The words that options start with. -/
def keywords : List String :=
  ["PRIMARY", "NOT", "NULL", "UNIQUE", "DEFAULT", "CHECK", "COLLATE", "REFERENCES"]

/-- The column that a reference is to: the first name of its list. There may be no list. -/
inductive NamesColumn : Option String → List Token → Prop
  | missing : NamesColumn none []
  | list {items : List (List Token)} {ts : List Token} (h : IsList items ts) :
      NamesColumn (items.filterMap leadingName?).head? ts

/-- The tokens that an option is written with. -/
inductive Written : ColumnOption → List Token → Prop
  | primaryKey {ts : List Token} (h : Spells ["PRIMARY", "KEY"] ts) : Written primaryKey ts
  | notNull {ts : List Token} (h : Spells ["NOT", "NULL"] ts) : Written notNull ts
  | nullable {t : Token} (ht : t.isWord "NULL") : Written nullable [t]
  | unique {t : Token} (ht : t.isWord "UNIQUE") : Written unique [t]
  | defaultLiteral {t value : Token} {text : String} (ht : t.isWord "DEFAULT")
      (hvalue : value.kind = .literal text) : Written default [t, value]
  | defaultNumber {t value : Token} {text : String} (ht : t.isWord "DEFAULT")
      (hvalue : value.kind = .number text) : Written default [t, value]
  | defaultGroup {t : Token} {g : List Token} (ht : t.isWord "DEFAULT") (hg : IsGroup g) :
      Written default (t :: g)
  | check {t : Token} {g : List Token} (ht : t.isWord "CHECK") (hg : IsGroup g) : Written check (t :: g)
  | collation {t name : Token} {text : String} (ht : t.isWord "COLLATE")
      (hname : name.kind = .quoted text) : Written collation [t, name]
  | references {t : Token} {ts list actions : List Token} {table : String} {column : Option String}
      (ht : t.isWord "REFERENCES") (hname : DottedName table ts) (hlist : NamesColumn column list)
      (hactions : ReferentialActions actions) :
      Written (references ⟨table, column⟩) (t :: (ts ++ (list ++ actions)))

/-- What an option says about its column. -/
def apply (c : ColumnDefinition) : ColumnOption → ColumnDefinition
  | primaryKey => { c with primaryKey := true }
  | notNull => { c with notNull := true }
  | references target => { c with references := some target }
  | _ => c

def reference? : ColumnOption → Option InlineReference
  | references target => some target
  | _ => none

/-- Nothing stands there, or an option. -/
def Opens (ts : List Token) : Prop := ∀ t, ts.head? = some t → t.isOneOf keywords

end ColumnOption

section Readers

open ColumnOption

variable {c : ColumnDefinition} {rest : List Token}

private theorem startsWith_of_opens (h : Opens rest) {kind : TokenKind}
    (hkind : ∀ text, kind ≠ .word text) : startsWith kind rest = false := by
  cases rest with
  | nil => rfl
  | cons t rest =>
    obtain ⟨text, ht⟩ := kind_of_isOneOf (h t rfl)
    simpa [startsWith, ht] using (hkind text).symm

private theorem readTypePart?_of_opens (h : Opens rest) : readTypePart? rest = none := by
  cases rest with
  | nil => rfl
  | cons t rest =>
    obtain ⟨text, ht⟩ := kind_of_isOneOf (h t rfl)
    have hcontinues := isOneOf_of_disjoint (h t rfl) typeContinuations (by decide)
    have hzone := isOneOf_of_disjoint (h t rfl) ["WITH", "WITHOUT"] (by decide)
    simp [readTypePart?, ht, hcontinues, hzone]

private theorem readOptions_skip {t : Token} (h : t.isOneOf ["PRIMARY", "NOT", "REFERENCES"] = false)
    (hparen : t.kind ≠ .leftParen) (ts : List Token) : readOptions c (t :: ts) = readOptions c ts := by
  simp only [Token.isOneOf, List.any_cons, List.any_nil, Bool.or_false, Bool.or_eq_false_iff] at h
  simp [readOptions_cons, behind?, h, hparen]

private theorem readOptions_skip_word {k : String} {t : Token} (h : t.isWord k)
    (hk : k ∉ ["PRIMARY", "NOT", "REFERENCES"]) (ts : List Token) :
    readOptions c (t :: ts) = readOptions c ts := by
  obtain ⟨text, ht⟩ := kind_of_isWord h
  exact readOptions_skip (isOneOf_eq_false h hk) (by simp [ht]) ts

private theorem readOptions_skip_value {k : String} {t value : Token} (h : t.isWord k)
    (hk : k ∉ ["PRIMARY", "NOT", "REFERENCES"]) (hword : ∀ k, value.isWord k = false)
    (hparen : value.kind ≠ .leftParen) (ts : List Token) :
    readOptions c ([t, value] ++ ts) = readOptions c ts := by
  rw [List.cons_append, readOptions_skip_word h hk]
  exact readOptions_skip (by simp [Token.isOneOf, hword]) hparen ts

private theorem readOptions_group {g : List Token} (hg : IsGroup g) (rest : List Token) :
    readOptions c (g ++ rest) = readOptions c rest := by
  have hsplit := splitGroup_of_isGroup hg rest
  obtain @⟨opening, closing, inner, hopen, -, -⟩ := hg
  have hword (k : String) : opening.isWord k = false := by simp [Token.isWord, hopen]
  rw [List.cons_append] at hsplit ⊢
  simp only [readOptions_cons, behind?, hword, hopen, hsplit, Bool.false_eq_true, if_false, if_true]

private theorem readInlineReference_of_dottedName {table : String} {column : Option String}
    {ts list : List Token} (hname : DottedName table ts) (hlist : NamesColumn column list)
    (hdot : startsWith .dot rest = false) (hparen : startsWith .leftParen rest = false) :
    readInlineReference (ts ++ (list ++ rest)) = (some ⟨table, column⟩, rest) := by
  cases hlist with
  | missing =>
    rw [List.nil_append, readInlineReference, readDottedName_of_dottedName hname hdot]
    simp [readColumnList?_of_not_startsWith hparen]
  | @list items list hitems =>
    have hcolumns := readColumnList?_of_isList hitems rest
    have hlistDot : startsWith .dot (list ++ rest) = false := by
      obtain ⟨hopen, -, -⟩ := hitems
      simp [startsWith, hopen]
    rw [readInlineReference, readDottedName_of_dottedName hname hlistDot]
    simp [hcolumns]

private theorem readOptions_references {t : Token} {table : String} {column : Option String}
    {ts list actions : List Token} (ht : t.isWord "REFERENCES") (hname : DottedName table ts)
    (hlist : NamesColumn column list) (hactions : ReferentialActions actions) (hrest : Opens rest) :
    readOptions c (t :: (ts ++ (list ++ actions)) ++ rest) =
      readOptions { c with references := some ⟨table, column⟩ } rest := by
  -- neither the name nor the list nor the actions can go on with the word that opens the next option
  have hothers (k : String) (hk : "REFERENCES" ≠ k) : t.isWord k = false := by
    simpa using fun hword => hk (eq_of_isWord ht hword)
  have hdot : startsWith .dot (actions ++ rest) = false :=
    startsWith_actions hactions (by simp) (startsWith_of_opens hrest (by simp))
  have hparen : startsWith .leftParen (actions ++ rest) = false :=
    startsWith_actions hactions (by simp) (startsWith_of_opens hrest (by simp))
  have htarget := readInlineReference_of_dottedName hname hlist hdot hparen
  have hskip := skipReferentialActions_of_actions hactions fun t ht => by
    simpa [Token.isOneOf] using isOneOf_of_disjoint (hrest t ht) ["ON"] (by decide)
  have hassoc : ts ++ (list ++ actions) ++ rest = ts ++ (list ++ (actions ++ rest)) := by
    simp only [List.append_assoc]
  rw [List.cons_append, hassoc, readOptions_cons]
  simp only [behind?, hothers "PRIMARY" (by decide), hothers "NOT" (by decide), ht, htarget, hskip,
    Bool.false_eq_true, if_false, if_true]

theorem readOptions_written {o : ColumnOption} {ts : List Token} (h : Written o ts) (hrest : Opens rest) :
    readOptions c (ts ++ rest) = readOptions (o.apply c) rest := by
  cases h with
  | @primaryKey ts h =>
    obtain ⟨t, us, ht, -, rfl⟩ := List.forall₂_cons_left_iff.1 h
    have hkey := behind?_of_spells h rest
    rw [List.cons_append] at hkey ⊢
    rw [readOptions_cons, hkey]
    rfl
  | @notNull ts h =>
    obtain ⟨t, us, ht, -, rfl⟩ := List.forall₂_cons_left_iff.1 h
    have hnull := behind?_of_spells h rest
    have hkey : behind? ["PRIMARY", "KEY"] (t :: us ++ rest) = none :=
      behind?_eq_none_of_spells h (by decide) (by decide) rest
    rw [List.cons_append] at hnull hkey ⊢
    rw [readOptions_cons, hkey, hnull]
    rfl
  | nullable ht => exact readOptions_skip_word ht (by decide) rest
  | unique ht => exact readOptions_skip_word ht (by decide) rest
  | defaultLiteral ht hvalue =>
    exact readOptions_skip_value ht (by decide) (by simp [Token.isWord, hvalue]) (by simp [hvalue]) rest
  | defaultNumber ht hvalue =>
    exact readOptions_skip_value ht (by decide) (by simp [Token.isWord, hvalue]) (by simp [hvalue]) rest
  | defaultGroup ht hg =>
    rw [List.cons_append, readOptions_skip_word ht (by decide), readOptions_group hg]
    rfl
  | check ht hg =>
    rw [List.cons_append, readOptions_skip_word ht (by decide), readOptions_group hg]
    rfl
  | collation ht hname =>
    exact readOptions_skip_value ht (by decide) (by simp [Token.isWord, hname]) (by simp [hname]) rest
  | references ht hname hlist hactions => exact readOptions_references ht hname hlist hactions hrest

theorem ColumnOption.Written.opens {o : ColumnOption} {ts : List Token} (h : Written o ts)
    (rest : List Token) : Opens (ts ++ rest) := by
  have hfirst : ∃ t us k, ts = t :: us ∧ t.isWord k ∧ k ∈ keywords := by
    cases h with
    | primaryKey h | notNull h =>
      obtain ⟨t, us, ht, -, rfl⟩ := List.forall₂_cons_left_iff.1 h
      exact ⟨t, us, _, rfl, ht, by decide⟩
    | nullable ht | unique ht | defaultLiteral ht | defaultNumber ht | defaultGroup ht | check ht
    | collation ht | references ht => exact ⟨_, _, _, rfl, ht, by decide⟩
  obtain ⟨t, us, k, rfl, ht, hk⟩ := hfirst
  intro u hu
  obtain rfl := Option.some.inj hu
  exact isOneOf_of_isWord ht hk

variable {options : List ColumnOption} {parts : List (List Token)}

private theorem opens_flatten (h : List.Forall₂ Written options parts) : Opens parts.flatten := by
  cases h with
  | nil => simp [Opens]
  | cons ho _ => exact ho.opens _

/-- Each option says what it says, whatever the others are. -/
theorem readOptions_flatten (h : List.Forall₂ Written options parts) :
    readOptions c parts.flatten = options.foldl ColumnOption.apply c := by
  induction h generalizing c with
  | nil => rw [List.flatten_nil, readOptions, List.foldl_nil]
  | cons ho hos ih => rw [List.flatten_cons, readOptions_written ho (opens_flatten hos), ih, List.foldl_cons]

theorem foldl_apply (options : List ColumnOption) (c : ColumnDefinition) :
    options.foldl ColumnOption.apply c =
      ⟨c.name, c.type, c.primaryKey || decide (.primaryKey ∈ options),
        c.notNull || decide (.notNull ∈ options),
        (options.filterMap reference?).getLast?.or c.references⟩ := by
  induction options generalizing c with
  | nil => simp
  | cons o options ih =>
    rw [List.foldl_cons, ih]
    cases o <;> simp [ColumnOption.apply, reference?, List.getLast?_cons]

end Readers

section Columns

open ColumnOption

/-- A name and the first word of a type that together open a column and no constraint: a quoted name,
or a bare word that is neither CONSTRAINT nor, unless a type name follows, another keyword. -/
structure OpensColumn (name : String) (first next : Token) : Prop where
  name : first.name? = some name
  word : ∃ text, next.kind = .word text
  notConstraint : first.isWord "CONSTRAINT" = false
  typeName : first.isOneOf elementKeywords → next.isOneOf typeNames

theorem OpensColumn.readElement? {name : String} {first next : Token} (h : OpensColumn name first next)
    (source : String) (ts : List Token) :
    readElement? source (first :: next :: ts) =
      (readColumn? source (first :: next :: ts)).map .column := by
  have hopens : opensConstraint (first :: next :: ts) = false := by
    obtain ⟨text, hword⟩ := h.word
    obtain ⟨kind, start, stop⟩ := next
    obtain rfl : kind = .word text := hword
    cases hkeyword : first.isOneOf elementKeywords with
    | false => simp [opensConstraint, hkeyword]
    | true => simp [opensConstraint, h.typeName hkeyword]
  simp [SqlSchema.readElement?, behind?, h.notConstraint, hopens]

private theorem getLast?_of_perm {α : Type} {xs ys : List α} (h : xs.Perm ys) (hx : xs.length ≤ 1) :
    xs.getLast? = ys.getLast? := by
  match xs, hx with
  | [], _ => rw [h.nil_eq]
  | [x], _ => rw [List.perm_singleton.1 h.symm]

variable {name : String} {first next : Token} {tail parts : List (List Token)}
  {options : List ColumnOption}

private theorem readElement?_of_written (source : String) (hhead : OpensColumn name first next)
    (htail : ∀ part ∈ tail, TypePart part) (hoptions : List.Forall₂ Written options parts) :
    readElement? source (first :: next :: (tail.flatten ++ parts.flatten)) =
      some (.column ⟨name, Text.collapse (sourceText source (next :: tail.flatten)),
        decide (.primaryKey ∈ options), decide (.notNull ∈ options),
        (options.filterMap reference?).getLast?⟩) := by
  obtain ⟨text, hword⟩ := hhead.word
  have htype := readTypeTail_of_typeParts htail (readTypePart?_of_opens (opens_flatten hoptions))
  rw [hhead.readElement?, readColumn?_of_readTypeTail source hhead.name hword htype,
    readOptions_flatten hoptions, foldl_apply]
  simp

/-- A column definition says what its options say, in any order and whatever stands in its groups. Its
type is the text from the first word of the type to its last token. -/
theorem readElement?_column (source : String) (hhead : OpensColumn name first next)
    (htail : ∀ part ∈ tail, TypePart part) (hoptions : List.Forall₂ Written options parts) :
    readElement? source (first :: next :: (tail.flatten ++ parts.flatten)) =
        some (.column ⟨name, Text.collapse (sourceText source (next :: tail.flatten)),
          decide (.primaryKey ∈ options), decide (.notNull ∈ options),
          (options.filterMap reference?).getLast?⟩) ∧
      ∀ options' parts', options.Perm options' → (options.filterMap reference?).length ≤ 1 →
        List.Forall₂ Written options' parts' →
        readElement? source (first :: next :: (tail.flatten ++ parts'.flatten)) =
          readElement? source (first :: next :: (tail.flatten ++ parts.flatten)) := by
  have hread := readElement?_of_written source hhead htail hoptions
  refine ⟨hread, fun options' parts' hperm hone hoptions' => ?_⟩
  rw [readElement?_of_written source hhead htail hoptions', hread,
    getLast?_of_perm (hperm.filterMap reference?) hone]
  simp only [hperm.mem_iff]

theorem readElement?_column_keyword :
    ∃ (first next : Token) (tail parts : List (List Token)) (finish : Token),
      tokenize .postgres
          "key TEXT(2) [] CHECK (x NOT NULL) REFERENCES s.u (\"id\" DESC, b) ON DELETE SET NULL NOT NULL" =
        .ok (first :: next :: (tail.flatten ++ parts.flatten) ++ [finish]) ∧
      OpensColumn "key" first next ∧ (∀ part ∈ tail, TypePart part) ∧
      List.Forall₂ Written [.check, .references ⟨"u", some "id"⟩, .notNull] parts ∧
      readElement?
          "key TEXT(2) [] CHECK (x NOT NULL) REFERENCES s.u (\"id\" DESC, b) ON DELETE SET NULL NOT NULL"
          (first :: next :: (tail.flatten ++ parts.flatten)) =
        some (.column ⟨"key", "TEXT(2) []", false, true, some ⟨"u", some "id"⟩⟩) := by
  have hhead : OpensColumn "key" ⟨.word "key", 0, 3⟩ ⟨.word "TEXT", 4, 8⟩ :=
    ⟨rfl, ⟨_, rfl⟩, by decide, by decide⟩
  have hgroup : IsGroup [⟨.leftParen, 8, 9⟩, ⟨.number "2", 9, 10⟩, ⟨.rightParen, 10, 11⟩] :=
    @IsGroup.mk _ _ [_] rfl rfl (balanced_of_isFlat (by decide))
  have htail : ∀ part ∈ [[⟨.leftParen, 8, 9⟩, ⟨.number "2", 9, 10⟩, ⟨.rightParen, 10, 11⟩],
      [⟨.leftBracket, 12, 13⟩, ⟨.rightBracket, 13, 14⟩]], TypePart part := by
    simpa using ⟨TypePart.arguments hgroup, TypePart.array rfl rfl⟩
  have hcheck : Written .check [⟨.word "CHECK", 15, 20⟩, ⟨.leftParen, 21, 22⟩, ⟨.word "x", 22, 23⟩,
      ⟨.word "NOT", 24, 27⟩, ⟨.word "NULL", 28, 32⟩, ⟨.rightParen, 32, 33⟩] :=
    .check (by decide) (@IsGroup.mk _ _ [_, _, _] rfl rfl (balanced_of_isFlat (by decide)))
  have hitems : Separated [[⟨.quoted "id", 50, 54⟩, ⟨.word "DESC", 55, 59⟩], [⟨.word "b", 61, 62⟩]]
      [⟨.quoted "id", 50, 54⟩, ⟨.word "DESC", 55, 59⟩, ⟨.comma, 59, 60⟩, ⟨.word "b", 61, 62⟩] :=
    .cons (by decide) rfl (.single (by decide))
  have hreference : Written (.references ⟨"u", some "id"⟩) [⟨.word "REFERENCES", 34, 44⟩,
      ⟨.word "s", 45, 46⟩, ⟨.dot, 46, 47⟩, ⟨.word "u", 47, 48⟩, ⟨.leftParen, 49, 50⟩,
      ⟨.quoted "id", 50, 54⟩, ⟨.word "DESC", 55, 59⟩, ⟨.comma, 59, 60⟩, ⟨.word "b", 61, 62⟩,
      ⟨.rightParen, 62, 63⟩, ⟨.word "ON", 64, 66⟩, ⟨.word "DELETE", 67, 73⟩, ⟨.word "SET", 74, 77⟩,
      ⟨.word "NULL", 78, 82⟩] :=
    .references (by decide) (.qualified rfl rfl (.last rfl))
      (.list (@IsList.mk _ ⟨.leftParen, 49, 50⟩ ⟨.rightParen, 62, 63⟩ _ rfl rfl hitems))
      (@ReferentialActions.cons _ _ ["SET", "NULL"] _ _ (by decide) (by decide) (by decide)
        (.cons (by decide) (.cons (by decide) .nil)) .nil)
  have hnull : Written .notNull [⟨.word "NOT", 83, 86⟩, ⟨.word "NULL", 87, 91⟩] :=
    .notNull (.cons (by decide) (.cons (by decide) .nil))
  have hoptions := List.Forall₂.cons hcheck (.cons hreference (.cons hnull .nil))
  refine ⟨_, _, _, _, ⟨.endOfText, 91, 91⟩, ?_, hhead, htail, hoptions,
    (readElement?_column _ hhead htail hoptions).1.trans ?_⟩
  · exact tokenize_ofList (by with_unfolding_all decide) (by with_unfolding_all decide)
  · decide

end Columns

end SqlSchema
