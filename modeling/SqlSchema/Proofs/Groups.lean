import SqlSchema.Proofs.Relocation
/-!
# Tokens that belong together

Tokens are enclosed if no list that they stand in is split or ended by them. Enclosed tokens between
two commas are one item, and a type read from them is read the same in front of other tokens.
-/
namespace SqlSchema

/-- The depth of parentheses behind the tokens. -/
def depthFrom (depth : Nat) (ts : List Token) : Nat := ts.foldl depthAfter depth

/-- Inside parentheses `depth` deep, none of the tokens ends or splits the list they stand in. -/
def Nested (depth : Nat) : List Token → Prop
  | [] => True
  | t :: ts =>
    t.endsStatement = false ∧ (depth = 0 → t.kind ≠ .rightParen ∧ t.kind ≠ .comma) ∧
      Nested (depthAfter depth t) ts

/-- Tokens that can be an item of a list: they close what they open, and split nothing. -/
def Enclosed (ts : List Token) : Prop := Nested 0 ts ∧ depthFrom 0 ts = 0

instance decidableNested : (depth : Nat) → (ts : List Token) → Decidable (Nested depth ts)
  | _, [] => isTrue trivial
  | depth, t :: ts =>
    have := decidableNested (depthAfter depth t) ts
    inferInstanceAs (Decidable (_ ∧ _ ∧ _))

instance (ts : List Token) : Decidable (Enclosed ts) := inferInstanceAs (Decidable (_ ∧ _))

@[simp] theorem depthFrom_nil (depth : Nat) : depthFrom depth [] = depth := rfl

@[simp] theorem depthFrom_cons (depth : Nat) (t : Token) (ts : List Token) :
    depthFrom depth (t :: ts) = depthFrom (depthAfter depth t) ts :=
  rfl

theorem depthFrom_append (depth : Nat) (xs ys : List Token) :
    depthFrom depth (xs ++ ys) = depthFrom (depthFrom depth xs) ys :=
  List.foldl_append

@[simp] theorem nested_nil (depth : Nat) : Nested depth [] := trivial

theorem nested_append {depth : Nat} {xs ys : List Token} :
    Nested depth (xs ++ ys) ↔ Nested depth xs ∧ Nested (depthFrom depth xs) ys := by
  induction xs generalizing depth with
  | nil => simp
  | cons x xs ih => simp only [List.cons_append, Nested, ih, depthFrom_cons, and_assoc]

theorem endsStatement_of_nested {depth : Nat} {ts : List Token} (h : Nested depth ts) :
    ∀ t ∈ ts, t.endsStatement = false := by
  induction ts generalizing depth with
  | nil => simp
  | cons t ts ih =>
    intro u hu
    rcases List.mem_cons.1 hu with rfl | hu
    · exact h.1
    · exact ih h.2.2 u hu

theorem Enclosed.append {xs ys : List Token} (hx : Enclosed xs) (hy : Enclosed ys) :
    Enclosed (xs ++ ys) := by
  refine ⟨nested_append.2 ⟨hx.1, ?_⟩, ?_⟩
  · rw [hx.2]
    exact hy.1
  · rw [depthFrom_append, hx.2, hy.2]

theorem enclosed_nil : Enclosed [] := ⟨trivial, rfl⟩

/-- A token that is no sign of a list. -/
def Token.isOrdinary (t : Token) : Prop :=
  t.endsStatement = false ∧ t.kind ≠ .leftParen ∧ t.kind ≠ .rightParen ∧ t.kind ≠ .comma

theorem Token.isOrdinary.depthAfter {t : Token} (h : t.isOrdinary) (depth : Nat) :
    depthAfter depth t = depth := by
  unfold SqlSchema.depthAfter
  split
  · next hk => exact absurd hk h.2.1
  · next hk => exact absurd hk h.2.2.1
  · rfl

theorem nested_cons_of_isOrdinary {depth : Nat} {t : Token} {ts : List Token} (h : t.isOrdinary) :
    Nested depth (t :: ts) ↔ Nested depth ts := by
  rw [Nested, h.depthAfter]
  exact ⟨fun hn => hn.2.2, fun hn => ⟨h.1, fun _ => ⟨h.2.2.1, h.2.2.2⟩, hn⟩⟩

theorem enclosed_cons_of_isOrdinary {t : Token} {ts : List Token} (h : t.isOrdinary) :
    Enclosed (t :: ts) ↔ Enclosed ts := by
  rw [Enclosed, Enclosed, nested_cons_of_isOrdinary h, depthFrom_cons, h.depthAfter]

theorem enclosed_of_isOrdinary {ts : List Token} (h : ∀ t ∈ ts, t.isOrdinary) : Enclosed ts := by
  induction ts with
  | nil => exact enclosed_nil
  | cons t ts ih =>
    rw [enclosed_cons_of_isOrdinary (h t (by simp))]
    exact ih fun u hu => h u (by simp [hu])

theorem Nested.deeper {depth : Nat} {ts : List Token} (h : Nested depth ts) (more : Nat) :
    Nested (depth + more) ts ∧ depthFrom (depth + more) ts = depthFrom depth ts + more := by
  induction ts generalizing depth with
  | nil => simp
  | cons t ts ih =>
    obtain ⟨hend, hsign, hrest⟩ := h
    have hstep : depthAfter (depth + more) t = depthAfter depth t + more := by
      unfold depthAfter
      split
      · omega
      · next hk =>
        have : depth ≠ 0 := fun h0 => (hsign h0).1 hk
        omega
      · rfl
    obtain ⟨hn, hd⟩ := ih hrest
    refine ⟨⟨hend, fun h0 => hsign (by omega), ?_⟩, ?_⟩
    · rwa [hstep]
    · rw [depthFrom_cons, hstep, hd, depthFrom_cons]

/-- A token that neither opens nor closes a group. -/
def Token.isFlat (t : Token) : Prop :=
  t.endsStatement = false ∧ t.kind ≠ .leftParen ∧ t.kind ≠ .rightParen

theorem Token.isOrdinary.isFlat {t : Token} (h : t.isOrdinary) : t.isFlat := ⟨h.1, h.2.1, h.2.2.1⟩

theorem Token.isFlat.depthAfter {t : Token} (h : t.isFlat) (depth : Nat) :
    depthAfter depth t = depth := by
  unfold SqlSchema.depthAfter
  split
  · next hk => exact absurd hk h.2.1
  · next hk => exact absurd hk h.2.2
  · rfl

theorem enclosed_group {opening closing : Token} {ts : List Token} (hopen : opening.kind = .leftParen)
    (hclose : closing.kind = .rightParen) (h : ∀ t ∈ ts, t.isFlat) :
    Enclosed (opening :: (ts ++ [closing])) := by
  have hopening : SqlSchema.depthAfter 0 opening = 1 := by simp [SqlSchema.depthAfter, hopen]
  suffices key : Nested 1 (ts ++ [closing]) ∧ depthFrom 1 (ts ++ [closing]) = 0 by
    refine ⟨⟨by simp [Token.endsStatement, hopen], fun _ => by simp [hopen], ?_⟩, ?_⟩
    · rw [hopening]
      exact key.1
    · rw [depthFrom_cons, hopening, key.2]
  induction ts with
  | nil => simp [Nested, Token.endsStatement, SqlSchema.depthAfter, hclose]
  | cons t ts ih =>
    have ht := h t (by simp)
    obtain ⟨hn, hd⟩ := ih fun u hu => h u (by simp [hu])
    rw [List.cons_append, depthFrom_cons, Nested, ht.depthAfter]
    exact ⟨⟨ht.1, fun h0 => by omega, hn⟩, hd⟩

theorem splitGroup_group {opening closing : Token} {ts : List Token} (hopen : opening.kind = .leftParen)
    (hclose : closing.kind = .rightParen) (h : ∀ t ∈ ts, t.isFlat) (rest : List Token) :
    splitGroup 0 (opening :: (ts ++ closing :: rest)) = (opening :: (ts ++ [closing]), rest) := by
  have hopening : SqlSchema.depthAfter 0 opening = 1 := by simp [SqlSchema.depthAfter, hopen]
  suffices key : splitGroup 1 (ts ++ closing :: rest) = (ts ++ [closing], rest) by
    rw [splitGroup, hopening, if_neg (by decide), key]
  induction ts with
  | nil => simp [splitGroup, SqlSchema.depthAfter, hclose]
  | cons t ts ih =>
    have ht := h t (by simp)
    rw [List.cons_append, splitGroup, ht.depthAfter, if_neg (by decide),
      ih fun u hu => h u (by simp [hu])]
    rfl

theorem nested_map {f : Token → Token} (hf : KeepsRole f) {depth : Nat} {ts : List Token} :
    Nested depth (ts.map f) ↔ Nested depth ts := by
  induction ts generalizing depth with
  | nil => simp
  | cons t ts ih =>
    simp only [List.map_cons, Nested, endsStatement_map hf, depthAfter_map hf, ih, ne_eq,
      hf.kind_eq_iff .rightParen rfl, hf.kind_eq_iff .comma rfl]

theorem depthFrom_map {f : Token → Token} (hf : KeepsRole f) (depth : Nat) (ts : List Token) :
    depthFrom depth (ts.map f) = depthFrom depth ts := by
  induction ts generalizing depth with
  | nil => rfl
  | cons t ts ih => rw [List.map_cons, depthFrom_cons, depthAfter_map hf, ih, depthFrom_cons]

theorem enclosed_map {f : Token → Token} (hf : KeepsRole f) {ts : List Token} :
    Enclosed (ts.map f) ↔ Enclosed ts := by
  rw [Enclosed, Enclosed, nested_map hf, depthFrom_map hf]

theorem enclosed_tokensIn (offset : Nat) (ps : List Piece) :
    Enclosed (tokensIn offset ps) ↔ Enclosed (tokensIn 0 ps) := by
  rw [tokensIn_eq_shift offset, enclosed_map (keepsRole_shift offset)]

theorem splitBody_append_of_nested {depth : Nat} {xs : List Token} (h : Nested depth xs)
    (ys : List Token) :
    splitBody true depth (xs ++ ys) =
      (xs ++ (splitBody true (depthFrom depth xs) ys).1,
        (splitBody true (depthFrom depth xs) ys).2) := by
  induction xs generalizing depth with
  | nil => rfl
  | cons x xs ih =>
    obtain ⟨hend, hsign, hrest⟩ := h
    have hgo : ¬(x.endsStatement ∨ (true ∧ depth = 0 ∧ x.kind = .rightParen)) := by
      rintro (hx | ⟨-, h0, hx⟩)
      · simp [hend] at hx
      · exact (hsign h0).1 hx
    rw [List.cons_append, splitBody, if_neg hgo, ih hrest]
    rfl

theorem splitCommas_ne_nil (depth : Nat) (ts : List Token) : splitCommas depth ts ≠ [] := by
  cases ts with
  | nil => simp [splitCommas]
  | cons t ts =>
    rw [splitCommas]
    split
    · simp
    · split <;> simp

theorem splitCommas_append_of_nested {depth : Nat} {xs : List Token} (h : Nested depth xs)
    (ys : List Token) :
    splitCommas depth (xs ++ ys) =
      (splitCommas (depthFrom depth xs) ys).modifyHead (xs ++ ·) := by
  induction xs generalizing depth with
  | nil =>
    obtain ⟨first, rest, heq⟩ := List.exists_cons_of_ne_nil (splitCommas_ne_nil depth ys)
    simp [heq]
  | cons x xs ih =>
    obtain ⟨-, hsign, hrest⟩ := h
    have hgo : ¬(x.kind = .comma ∧ depth = 0) := fun hx => (hsign hx.2).2 hx.1
    rw [List.cons_append, splitCommas, if_neg hgo, ih hrest, depthFrom_cons]
    obtain ⟨first, rest, heq⟩ := List.exists_cons_of_ne_nil
      (splitCommas_ne_nil (depthFrom (depthAfter depth x) xs) ys)
    simp [heq]

theorem splitCommas_of_enclosed {xs : List Token} (h : Enclosed xs) : splitCommas 0 xs = [xs] := by
  have key := splitCommas_append_of_nested h.1 []
  rw [h.2] at key
  simpa [splitCommas] using key

theorem splitCommas_append_comma {xs : List Token} (h : Enclosed xs) {comma : Token}
    (hc : comma.kind = .comma) (ys : List Token) :
    splitCommas 0 (xs ++ comma :: ys) = xs :: splitCommas 0 ys := by
  rw [splitCommas_append_of_nested h.1, h.2, splitCommas, if_pos ⟨hc, rfl⟩]
  simp

theorem endsStatement_of_mem_splitBody {closes : Bool} {depth : Nat} {ts : List Token} {t : Token}
    (h : t ∈ (splitBody closes depth ts).1) : t.endsStatement = false := by
  induction ts generalizing depth with
  | nil => simp [splitBody] at h
  | cons u ts ih =>
    rw [splitBody] at h
    split at h
    · simp at h
    · next hgo =>
      rcases List.mem_cons.1 h with rfl | h
      · simpa using fun he => hgo (.inl he)
      · exact ih h

theorem splitBody_comma {comma : Token} (hc : comma.kind = .comma) (ts : List Token) :
    splitBody true 0 (comma :: ts) = (comma :: (splitBody true 0 ts).1, (splitBody true 0 ts).2) := by
  rw [splitBody, if_neg (by simp [Token.endsStatement, hc]),
    show depthAfter 0 comma = 0 by simp [depthAfter, hc]]

/-- Behind the closing parenthesis of a list stands what follows the list. -/
theorem splitBody_closed (closing : Token) (hc : closing.kind = .rightParen) (rest : List Token) :
    splitBody true 0 (closing :: rest) = ([], closing :: rest) := by
  rw [splitBody, if_pos (.inr ⟨rfl, rfl, hc⟩)]

theorem enclosed_of_mem_splitCommas {ts : List Token}
    (hclosed : startsWith .rightParen (splitBody true 0 ts).2) :
    ∀ item ∈ splitCommas 0 (splitBody true 0 ts).1, Enclosed item := by
  -- only the first item can start inside of groups, namely of those that are open in front of it
  suffices key : ∀ depth, startsWith .rightParen (splitBody true depth ts).2 →
      ∃ first rest, splitCommas depth (splitBody true depth ts).1 = first :: rest ∧
        Nested depth first ∧ depthFrom depth first = 0 ∧ ∀ item ∈ rest, Enclosed item by
    obtain ⟨first, rest, heq, hn, hd, hrest⟩ := key 0 hclosed
    rw [heq]
    intro item hitem
    rcases List.mem_cons.1 hitem with rfl | hitem
    · exact ⟨hn, hd⟩
    · exact hrest item hitem
  clear hclosed
  induction ts with
  | nil => simp [splitBody, startsWith]
  | cons t ts ih =>
    intro depth hclosed
    rw [splitBody] at hclosed ⊢
    split at hclosed
    · next hstop =>
      rw [if_pos hstop]
      have hkind : t.kind = .rightParen := by simpa [startsWith] using hclosed
      have h0 : depth = 0 := by
        rcases hstop with h | h
        · simp [Token.endsStatement, hkind] at h
        · exact h.2.1
      subst h0
      exact ⟨[], [], rfl, trivial, rfl, by simp⟩
    · next hgo =>
      rw [if_neg hgo]
      have hend : t.endsStatement = false := by simpa using fun h => hgo (.inl h)
      have hparen : depth = 0 → t.kind ≠ .rightParen := fun h0 hk => hgo (.inr ⟨rfl, h0, hk⟩)
      obtain ⟨first, rest, heq, hn, hd, hrest⟩ := ih (depthAfter depth t) hclosed
      simp only [splitCommas]
      split
      · next hcomma =>
        obtain ⟨hk, rfl⟩ := hcomma
        have h0 : depthAfter 0 t = 0 := by simp [depthAfter, hk]
        rw [h0] at heq hn hd ⊢
        refine ⟨[], _, rfl, trivial, rfl, fun item hitem => ?_⟩
        rw [heq] at hitem
        rcases List.mem_cons.1 hitem with rfl | hitem
        · exact ⟨hn, hd⟩
        · exact hrest item hitem
      · next hcomma =>
        rw [heq]
        exact ⟨t :: first, rest, rfl, ⟨hend, fun h0 => ⟨hparen h0, fun hk => hcomma ⟨hk, h0⟩⟩, hn⟩, hd,
          hrest⟩

section Types

theorem splitGroup_append_of_closed {depth : Nat} {xs ys : List Token}
    (h : splitGroup depth (xs ++ ys) = (xs, ys)) (hd : depthFrom depth xs = 0) (hx : xs ≠ [])
    (zs : List Token) : splitGroup depth (xs ++ zs) = (xs, zs) := by
  induction xs generalizing depth with
  | nil => exact absurd rfl hx
  | cons x xs ih =>
    rw [List.cons_append, splitGroup] at h ⊢
    split at h
    · next h0 =>
      obtain rfl : xs = [] := by simpa using (Prod.mk.inj h).1.symm
      rw [if_pos h0]
      rfl
    · next h0 =>
      rw [if_neg h0]
      obtain ⟨h1, h2⟩ := Prod.mk.inj h
      rw [List.cons.injEq] at h1
      have hne : xs ≠ [] := by
        rintro rfl
        exact h0 hd
      rw [ih (Prod.ext h1.2 h2) hd hne]

theorem depthFrom_splitGroup (depth : Nat) (ts : List Token) :
    depthFrom depth (splitGroup depth ts).1 = 0 ∨ (splitGroup depth ts).2 = [] := by
  induction ts generalizing depth with
  | nil => exact .inr rfl
  | cons t ts ih =>
    rw [splitGroup]
    split
    · next h0 => exact .inl h0
    · exact ih _

theorem isOrdinary_of_word {t : Token} {text : String} (h : t.kind = .word text) :
    t.isOrdinary := by
  simp [Token.isOrdinary, Token.endsStatement, h]

theorem isOrdinary_of_name? {t : Token} (h : t.name?.isSome) : t.isOrdinary := by
  unfold Token.name? at h
  split at h
  · next hk => simp [Token.isOrdinary, Token.endsStatement, hk]
  · next hk => simp [Token.isOrdinary, Token.endsStatement, hk]
  · cases h

theorem isOrdinary_of_isWord {keyword : String} {t : Token} (h : t.isWord keyword) : t.isOrdinary := by
  obtain ⟨text, hk⟩ := kind_of_isWord h
  exact isOrdinary_of_word hk

theorem isOrdinary_of_isOneOf {keywords : List String} {t : Token} (h : t.isOneOf keywords) :
    t.isOrdinary := by
  obtain ⟨keyword, -, hk⟩ := List.any_eq_true.1 h
  exact isOrdinary_of_isWord hk

theorem FlatPart.enclosed {part : List Token} (h : FlatPart part) : Enclosed part := by
  apply enclosed_of_isOrdinary
  cases h with
  | array hopen hclose => simp [Token.isOrdinary, Token.endsStatement, hopen, hclose]
  | continuation ht => simpa using isOrdinary_of_isOneOf ht
  | zone ht htime hzone =>
    simpa using ⟨isOrdinary_of_isOneOf ht, isOrdinary_of_isWord htime, isOrdinary_of_isWord hzone⟩

theorem depthFrom_readTypePart? {ts part rest : List Token} (h : readTypePart? ts = some (part, rest)) :
    depthFrom 0 part = 0 ∨ rest = [] := by
  rcases readTypePart?_eq_some_iff.1 h with ⟨-, hsplit⟩ | ⟨hflat, -⟩
  · have key := depthFrom_splitGroup 0 ts
    rwa [hsplit] at key
  · exact .inl hflat.enclosed.2

theorem depthFrom_readTypeTail (ts : List Token) :
    depthFrom 0 (readTypeTail ts).1 = 0 ∨ (readTypeTail ts).2 = [] := by
  fun_induction readTypeTail ts with
  | case1 => exact .inl rfl
  | case2 ts part rest h more rest' hmore ih =>
    rw [hmore] at ih
    rcases depthFrom_readTypePart? h with hd | rfl
    · rwa [depthFrom_append, hd]
    · rw [readTypeTail, Prod.mk.injEq] at hmore
      simp only [readTypePart?] at hmore
      exact .inr hmore.2.symm

theorem readTypePart?_append_of_closed {part rest : List Token}
    (h : readTypePart? (part ++ rest) = some (part, rest)) (hd : depthFrom 0 part = 0)
    (more : List Token) : readTypePart? (part ++ more) = some (part, more) := by
  have hne : part ≠ [] := by
    rintro rfl
    simpa using readTypePart?_length h
  rw [readTypePart?_eq_some_iff] at h ⊢
  rcases h with ⟨hopen, hsplit⟩ | ⟨hflat, -⟩
  · obtain ⟨t, part, rfl⟩ := List.exists_cons_of_ne_nil hne
    exact .inl ⟨hopen, splitGroup_append_of_closed hsplit hd hne more⟩
  · exact .inr ⟨hflat, rfl⟩

/-- A type that closes its groups is read on behind the tokens that it consists of. -/
theorem readTypeTail_append_of_closed {tail : List Token} (h : readTypeTail tail = (tail, []))
    (hd : depthFrom 0 tail = 0) (more : List Token) :
    readTypeTail (tail ++ more) = (tail ++ (readTypeTail more).1, (readTypeTail more).2) := by
  fun_induction readTypeTail tail with
  | case1 ts hnone =>
    obtain rfl : ts = [] := (Prod.mk.inj h).2
    rfl
  | case2 ts part rest hpart tail rest' htail ih =>
    obtain ⟨h1, rfl⟩ := Prod.mk.inj h
    have happ := readTypePart?_append hpart
    obtain rfl : tail = rest := List.append_cancel_left (h1.trans happ.symm)
    have hdpart : depthFrom 0 part = 0 := by
      rcases depthFrom_readTypePart? hpart with h0 | rfl
      · exact h0
      · rwa [← happ, List.append_nil] at hd
    rw [← happ] at hpart hd ⊢
    rw [depthFrom_append, hdpart] at hd
    have hstep := readTypePart?_append_of_closed hpart hdpart (tail ++ more)
    rw [List.append_assoc, readTypeTail_of_some hstep, ih htail hd, List.append_assoc]

theorem readTypeTail_self {ts tail rest : List Token} (h : readTypeTail ts = (tail, rest)) :
    readTypeTail tail = (tail, []) := by
  fun_induction readTypeTail ts generalizing tail with
  | case1 ts hnone =>
    obtain rfl : [] = tail := (Prod.mk.inj h).1
    exact readTypeTail_of_none rfl
  | case2 ts part rest' hpart more rest'' hmore ih =>
    obtain ⟨rfl, rfl⟩ := Prod.mk.inj h
    have hself := ih hmore
    have happ := readTypePart?_append hpart
    have hstep : readTypePart? (part ++ more) = some (part, more) := by
      rcases depthFrom_readTypePart? hpart with hd | rfl
      · rw [← happ] at hpart
        exact readTypePart?_append_of_closed hpart hd more
      · rw [readTypeTail_of_none rfl] at hmore
        obtain ⟨rfl, -⟩ := Prod.mk.inj hmore
        rw [happ, hpart]
    rw [readTypeTail_of_some hstep, hself]

/-- A token that can end a type behind its first word. -/
def Token.closesType (t : Token) : Prop :=
  t.kind = .rightParen ∨ t.kind = .rightBracket ∨ ∃ text, t.kind = .word text ∧ text ≠ "#"

private theorem closesType_of_isWord {keyword : String} {t : Token} (h : t.isWord keyword)
    (hk : keyword ≠ "#") : t.closesType := by
  obtain ⟨text, ht⟩ := kind_of_isWord h
  refine .inr (.inr ⟨text, ht, ?_⟩)
  rintro rfl
  rw [Token.isWord, ht] at h
  have hupper : "#".toList.map Char.toUpper = keyword.toList := by simpa [Text.isKeyword] using h
  exact hk (String.toList_injective hupper.symm)

private theorem closesType_splitGroup {depth : Nat} {ts : List Token} (h0 : depth ≠ 0)
    (hd : depthFrom depth (splitGroup depth ts).1 = 0) :
    ∃ t, (splitGroup depth ts).1.getLast? = some t ∧ t.closesType := by
  induction ts generalizing depth with
  | nil => exact absurd hd h0
  | cons t ts ih =>
    rw [splitGroup] at hd ⊢
    split at hd
    · next hzero =>
      rw [if_pos hzero]
      refine ⟨t, rfl, .inl ?_⟩
      unfold SqlSchema.depthAfter at hzero
      split at hzero
      · omega
      · assumption
      · exact absurd hzero h0
    · next hne =>
      rw [if_neg hne]
      obtain ⟨u, hu, hcloses⟩ := ih hne hd
      exact ⟨u, by rw [List.getLast?_cons, hu]; rfl, hcloses⟩

private theorem closesType_readTypePart? {ts part rest : List Token}
    (h : readTypePart? ts = some (part, rest)) (hd : depthFrom 0 part = 0) :
    ∃ t, part.getLast? = some t ∧ t.closesType := by
  rcases readTypePart?_eq_some_iff.1 h with ⟨hopen, hsplit⟩ | ⟨hflat, -⟩
  · cases ts with
    | nil => simp [startsWith] at hopen
    | cons t ts =>
      have hdepth : SqlSchema.depthAfter 0 t = 1 := by
        have ht : t.kind = .leftParen := by simpa [startsWith] using hopen
        simp [SqlSchema.depthAfter, ht]
      rw [splitGroup, hdepth, if_neg (by decide)] at hsplit
      obtain ⟨rfl, -⟩ := Prod.mk.inj hsplit
      rw [depthFrom_cons, hdepth] at hd
      obtain ⟨u, hu, hcloses⟩ := closesType_splitGroup (by decide) hd
      exact ⟨u, by rw [List.getLast?_cons, hu]; rfl, hcloses⟩
  · cases hflat with
    | array _ hclose => exact ⟨_, rfl, .inr (.inl hclose)⟩
    | continuation ht =>
      obtain ⟨keyword, hk, hword⟩ := List.any_eq_true.1 ht
      have hne : ∀ k ∈ typeContinuations, k ≠ "#" := by decide
      exact ⟨_, rfl, closesType_of_isWord hword (hne keyword hk)⟩
    | zone _ _ hzone => exact ⟨_, rfl, closesType_of_isWord hzone (by decide)⟩

/-- Behind its first word, a type ends with a parenthesis, a bracket or a word that continues it. -/
theorem closesType_readTypeTail {ts tail rest : List Token} (h : readTypeTail ts = (tail, rest))
    (hd : depthFrom 0 tail = 0) {t : Token} (ht : tail.getLast? = some t) : t.closesType := by
  fun_induction readTypeTail ts generalizing tail rest with
  | case1 ts hnone =>
    obtain ⟨rfl, -⟩ := Prod.mk.inj h
    simp at ht
  | case2 ts part rest' hpart more rest'' hmore ih =>
    obtain ⟨rfl, -⟩ := Prod.mk.inj h
    have hclosed : depthFrom 0 part = 0 ∨ more = [] := by
      rcases depthFrom_readTypePart? hpart with h0 | rfl
      · exact .inl h0
      · rw [readTypeTail_of_none rfl] at hmore
        exact .inr (Prod.mk.inj hmore).1.symm
    rcases hclosed with h0 | rfl
    · rw [depthFrom_append, h0] at hd
      rw [List.getLast?_append] at ht
      cases hlast : more.getLast? with
      | some u =>
        obtain rfl : u = t := by simpa [hlast] using ht
        exact ih hmore hd hlast
      | none =>
        obtain ⟨u, hu, hcloses⟩ := closesType_readTypePart? hpart h0
        obtain rfl : u = t := by simpa [hlast, hu] using ht
        exact hcloses
    · rw [List.append_nil] at hd ht
      obtain ⟨u, hu, hcloses⟩ := closesType_readTypePart? hpart hd
      obtain rfl := Option.some.inj (hu.symm.trans ht)
      exact hcloses

end Types

end SqlSchema
