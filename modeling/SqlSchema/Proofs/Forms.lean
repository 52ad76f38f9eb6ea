import SqlSchema.Proofs.StatementPieces
/-!
# Forms of the grammar

The phrases, groups, names, lists and types that columns and constraints are made of. Each reader takes
just the tokens of its form, whatever stands in their groups, in front of tokens that the form cannot
go on with.
-/
namespace SqlSchema

section Phrases

variable {keywords phrase : List String} {t : Token} {us : List Token}

/-- The tokens spell one of the phrases, or there are none. -/
inductive MaySpell (phrases : List (List String)) : List Token → Prop
  | missing : MaySpell phrases []
  | present {phrase : List String} {us : List Token} (hphrase : phrase ∈ phrases)
      (h : Spells phrase us) : MaySpell phrases us

/-- What stands in front is none of the words. -/
def Avoids (words : List String) (ts : List Token) : Prop :=
  ∀ t, ts.head? = some t → t.isOneOf words = false

/-- The words that phrases start with. -/
def openers (phrases : List (List String)) : List String := phrases.filterMap List.head?

variable {words : List String} {phrases : List (List String)} {rest : List Token}

theorem avoids_cons (h : t.isOneOf words = false) (ts : List Token) : Avoids words (t :: ts) := by
  intro u hu
  obtain rfl := Option.some.inj hu
  exact h

theorem avoids_of_isWord {k : String} (h : t.isWord k) (hk : k ∉ words) (ts : List Token) :
    Avoids words (t :: ts) :=
  avoids_cons (isOneOf_eq_false h hk) ts

theorem avoids_of_kind (h : ∀ text, t.kind ≠ .word text) (ts : List Token) : Avoids words (t :: ts) := by
  apply avoids_cons
  rw [Token.isOneOf, List.any_eq_false]
  intro k _ hword
  obtain ⟨text, ht⟩ := kind_of_isWord hword
  exact h text ht

theorem Avoids.mono {fewer : List String} (h : Avoids words us) (hsub : ∀ k ∈ fewer, k ∈ words) :
    Avoids fewer us := by
  intro t ht
  by_contra hfewer
  have hwords := isOneOf_of_subset (by simpa using hfewer) words hsub
  simp [h t ht] at hwords

theorem behind?_of_avoids {k : String} (h : Avoids [k] us) (ks : List String) :
    behind? (k :: ks) us = none := by
  cases us with
  | nil => rfl
  | cons t us =>
    have ht : t.isWord k = false := by simpa [Token.isOneOf] using h t rfl
    simp [behind?, ht]

theorem behindOneOf?_of_avoids (hne : [] ∉ phrases) (h : Avoids (openers phrases) us) :
    behindOneOf? phrases us = none := by
  rw [behindOneOf?, List.findSome?_eq_none_iff]
  intro phrase hphrase
  cases phrase with
  | nil => exact absurd hphrase hne
  | cons k ks =>
    have hk : k ∈ openers phrases := List.mem_filterMap.2 ⟨_, hphrase, rfl⟩
    exact behind?_of_avoids (h.mono (by simpa using hk)) ks

theorem skipOneOf_of_maySpell
    (hfree : ∀ q ∈ phrases, ∀ p ∈ phrases, q <+: p ∨ p <+: q → p = q) (h : MaySpell phrases us)
    (hrest : behindOneOf? phrases rest = none) : skipOneOf phrases (us ++ rest) = rest := by
  cases h with
  | missing =>
    rw [List.nil_append, skipOneOf, hrest]
    rfl
  | present hphrase h =>
    rw [skipOneOf, behindOneOf?_of_spells hphrase (hfree _ hphrase) h]
    rfl

theorem skipPhrase_of_maySpell (h : MaySpell [phrase] us) (hrest : behind? phrase rest = none) :
    skipPhrase phrase (us ++ rest) = rest := by
  cases h with
  | missing =>
    rw [List.nil_append, skipPhrase, hrest]
    rfl
  | present hphrase h =>
    obtain rfl := List.mem_singleton.1 hphrase
    rw [skipPhrase, behind?_of_spells h]
    rfl

/-- An optional phrase in front brings in the words that it can start with, and no others. -/
theorem avoids_append (h : MaySpell phrases us) (hne : [] ∉ phrases)
    (hopen : ∀ k ∈ openers phrases, k ∉ words) (hrest : Avoids words rest) :
    Avoids words (us ++ rest) := by
  cases h with
  | missing => exact hrest
  | @present phrase us hphrase h =>
    cases h with
    | nil => exact absurd hphrase hne
    | cons hword _ => exact avoids_of_isWord hword (hopen _ (List.mem_filterMap.2 ⟨_, hphrase, rfl⟩)) _

theorem isOrdinary_of_spells (h : Spells phrase us) : ∀ t ∈ us, t.isOrdinary := by
  induction h with
  | nil => simp
  | cons hword _ ih =>
    intro u hu
    rcases List.mem_cons.1 hu with rfl | hu
    · exact isOrdinary_of_isWord hword
    · exact ih u hu

theorem isOrdinary_of_maySpell (h : MaySpell phrases us) : ∀ t ∈ us, t.isOrdinary := by
  cases h with
  | missing => simp
  | present _ h => exact isOrdinary_of_spells h

end Phrases

section Groups

/-- Tokens with every parenthesis closed, none of which ends a statement. -/
inductive Balanced : List Token → Prop
  | nil : Balanced []
  | flat {t : Token} {ts : List Token} (ht : t.isFlat) (hts : Balanced ts) : Balanced (t :: ts)
  | group {opening closing : Token} {inner ts : List Token} (hopen : opening.kind = .leftParen)
      (hclose : closing.kind = .rightParen) (hinner : Balanced inner) (hts : Balanced ts) :
      Balanced (opening :: (inner ++ closing :: ts))

/-- Balanced tokens in parentheses. -/
inductive IsGroup : List Token → Prop
  | mk {opening closing : Token} {inner : List Token} (hopen : opening.kind = .leftParen)
      (hclose : closing.kind = .rightParen) (hinner : Balanced inner) :
      IsGroup (opening :: (inner ++ [closing]))

instance (t : Token) : Decidable t.isFlat := inferInstanceAs (Decidable (_ ∧ _ ∧ _))

theorem balanced_of_isFlat {ts : List Token} (h : ∀ t ∈ ts, t.isFlat) : Balanced ts := by
  induction ts with
  | nil => exact .nil
  | cons t ts ih => exact .flat (h t (by simp)) (ih fun u hu => h u (by simp [hu]))

private theorem splitGroup_append_of_balanced {ts : List Token} (h : Balanced ts) (depth : Nat)
    (rest : List Token) :
    splitGroup (depth + 1) (ts ++ rest) =
      (ts ++ (splitGroup (depth + 1) rest).1, (splitGroup (depth + 1) rest).2) := by
  induction h generalizing depth rest with
  | nil => rfl
  | flat ht _ ih =>
    rw [List.cons_append, splitGroup, ht.depthAfter, if_neg (by omega), ih]
    rfl
  | @group opening closing inner ts hopen hclose _ _ ihinner ihts =>
    have hdeeper : depthAfter (depth + 1) opening = depth + 1 + 1 := by simp [depthAfter, hopen]
    have hback : depthAfter (depth + 1 + 1) closing = depth + 1 := by simp [depthAfter, hclose]
    rw [List.cons_append, splitGroup, hdeeper, if_neg (by omega), List.append_assoc, ihinner,
      List.cons_append, splitGroup, hback, if_neg (by omega), ihts]
    simp

theorem splitGroup_of_isGroup {g : List Token} (h : IsGroup g) (rest : List Token) :
    splitGroup 0 (g ++ rest) = (g, rest) := by
  obtain @⟨opening, closing, inner, hopen, hclose, hinner⟩ := h
  have hopening : depthAfter 0 opening = 0 + 1 := by simp [depthAfter, hopen]
  have hclosing : depthAfter (0 + 1) closing = 0 := by simp [depthAfter, hclose]
  rw [List.cons_append, List.append_assoc, splitGroup, hopening, if_neg (by decide),
    splitGroup_append_of_balanced hinner, List.cons_append, splitGroup, if_pos hclosing]
  rfl

end Groups

section Names

/-- A name with any qualifiers in front of it, all of them bare or quoted. -/
inductive DottedName (name : String) : List Token → Prop
  | last {t : Token} (ht : t.name? = some name) : DottedName name [t]
  | qualified {qualifier dot : Token} {ts : List Token} (hq : qualifier.name?.isSome)
      (hdot : dot.kind = .dot) (hts : DottedName name ts) : DottedName name (qualifier :: dot :: ts)

theorem readDottedName_of_dottedName {name : String} {ts rest : List Token} (h : DottedName name ts)
    (hrest : startsWith .dot rest = false) : readDottedName (ts ++ rest) = (some name, rest) := by
  induction h with
  | @last t ht =>
    cases rest with
    | nil => simp [readDottedName, ht]
    | cons u rest =>
      have hu : u.kind ≠ .dot := by simpa [startsWith] using hrest
      simp [readDottedName, ht, hu]
  | @qualified qualifier dot ts hq hdot _ ih =>
    obtain ⟨n, hn⟩ := Option.isSome_iff_exists.1 hq
    simpa [readDottedName, hn, hdot] using ih

theorem readDottedName_self {name : String} {ts : List Token} (h : DottedName name ts) :
    readDottedName ts = (some name, []) := by
  have hread := readDottedName_of_dottedName h (show startsWith .dot [] = false from rfl)
  rwa [List.append_nil] at hread

theorem isOrdinary_of_dottedName {name : String} {ts : List Token} (h : DottedName name ts) :
    ∀ t ∈ ts, t.isOrdinary := by
  induction h with
  | last ht => simpa using isOrdinary_of_name? (by simp [ht])
  | @qualified qualifier dot ts hq hdot _ ih =>
    have hordinary : dot.isOrdinary := by simp [Token.isOrdinary, Token.endsStatement, hdot]
    intro t ht
    simp only [List.mem_cons] at ht
    rcases ht with rfl | rfl | ht
    · exact isOrdinary_of_name? hq
    · exact hordinary
    · exact ih t ht

end Names

section Lists

/-- Items in parentheses. -/
inductive IsList (items : List (List Token)) : List Token → Prop
  | mk {opening closing : Token} {ts : List Token} (hopen : opening.kind = .leftParen)
      (hclose : closing.kind = .rightParen) (hts : Separated items ts) :
      IsList items (opening :: (ts ++ [closing]))

theorem exists_opening_of_isList {items : List (List Token)} {ts : List Token} (h : IsList items ts) :
    ∃ opening more, ts = opening :: more ∧ opening.kind = .leftParen := by
  obtain ⟨hopen, -, -⟩ := h
  exact ⟨_, _, rfl, hopen⟩

/-- The name that an item starts with. -/
def leadingName? (item : List Token) : Option String := item.head?.bind Token.name?

/-- A list of columns names the first name of each item, whatever else stands in the item. -/
theorem readColumnList?_of_isList {items : List (List Token)} {ts : List Token} (h : IsList items ts)
    (rest : List Token) : readColumnList? (ts ++ rest) = some (items.filterMap leadingName?, rest) := by
  obtain @⟨opening, closing, ts, hopen, hclose, hts⟩ := h
  have hname (item : List Token) : (readName? item).map (·.1) = leadingName? item := by
    cases item with
    | nil => rfl
    | cons t item => cases h : t.name? <;> simp [readName?, leadingName?, h]
  have hbody := splitBody_of_separated hts hclose rest
  have hitems := filterMap_splitTopLevel (f := leadingName?) rfl true (ts ++ closing :: rest)
  rw [hbody, splitCommas_of_separated hts] at hitems
  have hrest : (splitTopLevel true (ts ++ closing :: rest)).2 = closing :: rest := by
    rw [splitTopLevel, hbody]
  simp [readColumnList?, hopen, hname, hitems, hrest, skipKind, startsWith, hclose]

theorem readColumnList?_of_not_startsWith {ts : List Token} (h : startsWith .leftParen ts = false) :
    readColumnList? ts = none := by
  cases ts with
  | nil => rfl
  | cons t ts =>
    have ht : t.kind ≠ .leftParen := by simpa [startsWith] using h
    rw [readColumnList?, if_neg ht]

theorem enclosed_of_isList {items : List (List Token)} {ts : List Token} (h : IsList items ts) :
    Enclosed ts := by
  obtain @⟨opening, closing, ts, hopen, hclose, hts⟩ := h
  obtain ⟨hnested, hdepth⟩ := nested_of_separated hts
  have hopening : depthAfter 0 opening = 1 := by simp [depthAfter, hopen]
  rw [Enclosed, Nested, depthFrom_cons, hopening, nested_append, depthFrom_append, hdepth]
  simp [hnested, Nested, Token.endsStatement, hopen, hclose, depthAfter]

end Lists

section Actions

/-- `ON DELETE` and `ON UPDATE` with their actions, any number of times. -/
inductive ReferentialActions : List Token → Prop
  | nil : ReferentialActions []
  | cons {on event : Token} {phrase : List String} {action ts : List Token} (hon : on.isWord "ON")
      (hevent : event.isOneOf ["DELETE", "UPDATE"]) (hphrase : phrase ∈ referentialActions)
      (haction : Spells phrase action) (hts : ReferentialActions ts) :
      ReferentialActions (on :: event :: (action ++ ts))

theorem skipReferentialActions_of_actions {ts rest : List Token} (h : ReferentialActions ts)
    (hrest : ∀ t, rest.head? = some t → t.isWord "ON" = false) :
    skipReferentialActions (ts ++ rest) = rest := by
  have hfree : ∀ q ∈ referentialActions, ∀ p ∈ referentialActions, q <+: p ∨ p <+: q → p = q := by
    decide
  induction h with
  | nil =>
    cases rest with
    | nil => simp [skipReferentialActions]
    | cons t rest => simp [skipReferentialActions, hrest t rfl]
  | @cons on event phrase action ts hon hevent hphrase haction _ ih =>
    have hbehind : behindOneOf? [["DELETE"], ["UPDATE"]] ([event] ++ (action ++ (ts ++ rest))) =
        some (action ++ (ts ++ rest)) := by
      obtain ⟨k, hk, hword⟩ := List.any_eq_true.1 hevent
      have hkeywords : ∀ k ∈ ["DELETE", "UPDATE"], [k] ∈ [["DELETE"], ["UPDATE"]] ∧
          ∀ p ∈ [["DELETE"], ["UPDATE"]], [k] <+: p ∨ p <+: [k] → p = [k] := by decide
      exact behindOneOf?_of_spells (hkeywords k hk).1 (hkeywords k hk).2 (.cons hword .nil) _
    have hskip := behindOneOf?_of_spells hphrase (hfree phrase hphrase) haction (ts ++ rest)
    rw [List.singleton_append] at hbehind
    rw [List.cons_append, List.cons_append, List.append_assoc, skipReferentialActions, if_pos hon]
    split
    · next more hmore =>
      obtain rfl := Option.some.inj (hbehind.symm.trans hmore)
      rw [skipOneOf, hskip, Option.getD_some, ih]
    · next hnone => simp [hbehind] at hnone

theorem startsWith_actions {kind : TokenKind} {actions rest : List Token}
    (h : ReferentialActions actions) (hkind : ∀ text, kind ≠ .word text)
    (hrest : startsWith kind rest = false) : startsWith kind (actions ++ rest) = false := by
  cases h with
  | nil => exact hrest
  | @cons on _ _ _ _ hon =>
    obtain ⟨text, ht⟩ := kind_of_isWord hon
    simpa [startsWith, ht] using (hkind text).symm

theorem isOrdinary_of_actions {ts : List Token} (h : ReferentialActions ts) :
    ∀ t ∈ ts, t.isOrdinary := by
  induction h with
  | nil => simp
  | cons hon hevent _ haction _ ih =>
    intro t ht
    simp only [List.mem_cons, List.mem_append] at ht
    rcases ht with rfl | rfl | ht | ht
    · exact isOrdinary_of_isWord hon
    · exact isOrdinary_of_isOneOf hevent
    · exact isOrdinary_of_spells haction t ht
    · exact ih t ht

end Actions

section Types

/-- What can follow the first word of a type. -/
inductive TypePart : List Token → Prop
  | arguments {g : List Token} (hg : IsGroup g) : TypePart g
  | array {opening closing : Token} (hopen : opening.kind = .leftBracket)
      (hclose : closing.kind = .rightBracket) : TypePart [opening, closing]
  | continuation {t : Token} (ht : t.isOneOf typeContinuations) : TypePart [t]
  | zone {t : Token} {ts : List Token} (ht : t.isOneOf ["WITH", "WITHOUT"])
      (hts : Spells ["TIME", "ZONE"] ts) : TypePart (t :: ts)

theorem readTypePart?_of_typePart {part : List Token} (h : TypePart part) (rest : List Token) :
    readTypePart? (part ++ rest) = some (part, rest) := by
  rw [readTypePart?_eq_some_iff]
  cases h with
  | arguments hg =>
    have hsplit := splitGroup_of_isGroup hg rest
    obtain ⟨hopen, -, -⟩ := hg
    exact .inl ⟨by simp [startsWith, hopen], hsplit⟩
  | array hopen hclose => exact .inr ⟨.array hopen hclose, rfl⟩
  | continuation ht => exact .inr ⟨.continuation ht, rfl⟩
  | zone ht hts =>
    obtain ⟨time, zone, rfl, htime, hzone⟩ := hts.exists_words
    exact .inr ⟨.zone ht htime hzone, rfl⟩

theorem readTypeTail_of_typeParts {parts : List (List Token)} {rest : List Token}
    (h : ∀ part ∈ parts, TypePart part) (hrest : readTypePart? rest = none) :
    readTypeTail (parts.flatten ++ rest) = (parts.flatten, rest) := by
  induction parts with
  | nil => exact readTypeTail_of_none hrest
  | cons part parts ih =>
    have hstep := readTypePart?_of_typePart (h part (by simp)) (parts.flatten ++ rest)
    rw [List.flatten_cons, List.append_assoc, readTypeTail_of_some hstep,
      ih fun p hp => h p (by simp [hp])]

end Types

section Statements

theorem readStatements_of_readStatement? {source : String} {statement : Statement} {us : List Token}
    (hread : readStatement? source us = some statement) (hu : ∀ t ∈ us, t.endsStatement = false)
    {semicolon : Token} (hsemi : semicolon.kind = .semicolon) (rest : List Token) :
    readStatements source (us ++ semicolon :: rest) = statement :: readStatements source rest := by
  rw [readStatements, Ddl.splitStatements_append hu hsemi, List.filterMap_cons_some hread,
    readStatements]

end Statements

end SqlSchema
