import Mathlib.Data.List.Forall2
import SqlSchema.Proofs.Composition
import SqlSchema.Proofs.Groups
/-!
# Items between commas

Enclosed items with commas between them are split into these items again, up to the parenthesis that
closes their list. Pieces that are written with the same separator between them are the items of such a
list, and an element is read the same wherever it stands.
-/
namespace SqlSchema

section Lists

/-- Items with commas between them. An item has no comma outside of its groups, and may be empty. -/
inductive Separated : List (List Token) → List Token → Prop
  | single {item : List Token} (h : Enclosed item) : Separated [item] item
  | cons {item ts : List Token} {items : List (List Token)} {comma : Token} (h : Enclosed item)
      (hcomma : comma.kind = .comma) (hts : Separated items ts) :
      Separated (item :: items) (item ++ comma :: ts)

variable {items : List (List Token)} {ts : List Token}

theorem kind_or_mem_of_separated (h : Separated items ts) {t : Token} (ht : t ∈ ts) :
    t.kind = .comma ∨ ∃ item ∈ items, t ∈ item := by
  induction h with
  | single => exact .inr ⟨_, by simp, ht⟩
  | cons _ hcomma _ ih =>
    rcases List.mem_append.1 ht with ht | ht
    · exact .inr ⟨_, by simp, ht⟩
    rcases List.mem_cons.1 ht with rfl | ht
    · exact .inl hcomma
    · exact (ih ht).imp_right fun ⟨item, hitem, hmem⟩ => ⟨item, by simp [hitem], hmem⟩

theorem splitBody_of_separated (h : Separated items ts) {closing : Token}
    (hclose : closing.kind = .rightParen) (rest : List Token) :
    splitBody true 0 (ts ++ closing :: rest) = (ts, closing :: rest) := by
  induction h with
  | single h => rw [splitBody_append_of_nested h.1, h.2, splitBody_closed closing hclose, List.append_nil]
  | cons h hcomma _ ih =>
    rw [List.append_assoc, List.cons_append, splitBody_append_of_nested h.1, h.2,
      splitBody_comma hcomma, ih]

theorem splitCommas_of_separated (h : Separated items ts) : splitCommas 0 ts = items := by
  induction h with
  | single h => exact splitCommas_of_enclosed h
  | cons h hcomma _ ih => rw [splitCommas_append_comma h hcomma, ih]

/-- Inside of parentheses, no comma between items splits anything. -/
theorem nested_of_separated (h : Separated items ts) : Nested 1 ts ∧ depthFrom 1 ts = 1 := by
  induction h with
  | single h =>
    have hdeeper := h.1.deeper 1
    rwa [h.2] at hdeeper
  | @cons item ts items comma h hcomma _ ih =>
    have hdeeper := h.1.deeper 1
    rw [h.2] at hdeeper
    have hflat : comma.isFlat := by simp [Token.isFlat, Token.endsStatement, hcomma]
    rw [nested_append, depthFrom_append, hdeeper.2, depthFrom_cons, Nested, hflat.depthAfter]
    exact ⟨⟨hdeeper.1, hflat.1, fun h0 => by omega, ih.1⟩, ih.2⟩

theorem endsStatement_of_separated (h : Separated items ts) : ∀ t ∈ ts, t.endsStatement = false :=
  endsStatement_of_nested (nested_of_separated h).1

@[simp] theorem readElement?_nil (source : String) : readElement? source [] = none := by
  simp [readElement?, behind?, opensConstraint, readColumn?, readName?]

theorem filterMap_filter_isEmpty {α : Type} {f : List Token → Option α} (hf : f [] = none)
    (items : List (List Token)) :
    (items.filter fun item => !item.isEmpty).filterMap f = items.filterMap f := by
  rw [List.filterMap_filter]
  apply List.filterMap_congr
  intro item _
  cases item with
  | nil => simp [hf]
  | cons t ts => simp

theorem filterMap_splitTopLevel {α : Type} {f : List Token → Option α} (hf : f [] = none)
    (closes : Bool) (ts : List Token) :
    (splitTopLevel closes ts).1.filterMap f = (splitCommas 0 (splitBody closes 0 ts).1).filterMap f := by
  rw [splitTopLevel]
  exact filterMap_filter_isEmpty hf _

end Lists

section Pieces

/-- What an element is read as. -/
def elementOf? (ps : List Piece) : Option TableElement :=
  readElement? (String.ofList (rawText ps)) (tokensIn 0 ps)

theorem readElement?_tokensIn (before after : List Char) (ps : List Piece) :
    readElement? (String.ofList (before ++ rawText ps ++ after)) (tokensIn (Text.byteSize before) ps) =
      elementOf? ps := by
  rw [tokensIn_eq_shift, elementOf?]
  apply readElement?_shift
  intro t ht
  simpa using stop_of_mem_tokensIn ht

/-- The item has the tokens of `ps` where they stand in `whole`. -/
def StandsAt (place : Nat) (whole ps : List Piece) (item : List Token) : Prop :=
  ∃ front back, whole = front ++ ps ++ back ∧ item = tokensIn (place + Text.byteSize (rawText front)) ps

variable (sep : List Piece) {es : List (List Piece)}

theorem rawText_intercalate (es : List (List Piece)) :
    rawText (sep.intercalate es) = (rawText sep).intercalate (es.map rawText) := by
  induction es with
  | nil => rfl
  | cons e es ih =>
    cases es with
    | nil => simp
    | cons e' es =>
      rw [List.intercalate_cons_cons, rawText_append, rawText_append, ih, List.map_cons, List.map_cons,
        List.map_cons, List.intercalate_cons_cons]

/-- What stands behind a separator does not concern the items in front of it. -/
theorem lexemes_intercalate {d : Dialect} {c next : Char} (hsep : IsSelfContained d sep)
    (hhead : (rawText sep).head? = some c)
    (hes : ∀ e ∈ es, Lexemes d e (some c) ∧ Lexemes d e (some next)) :
    Lexemes d (sep.intercalate es) (some next) := by
  induction es with
  | nil => trivial
  | cons e es ih =>
    have he := hes e (by simp)
    cases es with
    | nil =>
      rw [List.intercalate_singleton]
      exact he.2
    | cons e' es =>
      rw [List.intercalate_cons_cons, List.append_assoc]
      refine lexemes_append.2 ⟨?_, lexemes_append.2 ⟨hsep _, ih fun x hx => hes x (by simp [hx])⟩⟩
      rw [rawText_append, List.head?_append, hhead]
      exact he.1

theorem exists_separated (hsep : sep.filterMap Piece.token? = [.comma])
    (hes : ∀ e ∈ es, Enclosed (tokensIn 0 e)) (hne : es ≠ []) (place : Nat) :
    ∃ items, Separated items (tokensIn place (sep.intercalate es)) ∧
      List.Forall₂ (StandsAt place (sep.intercalate es)) es items := by
  induction es generalizing place with
  | nil => exact absurd rfl hne
  | cons e es ih =>
    have he := (enclosed_tokensIn place e).2 (hes e (by simp))
    cases es with
    | nil =>
      rw [List.intercalate_singleton]
      exact ⟨[tokensIn place e], .single he, .cons ⟨[], [], by simp, rfl⟩ .nil⟩
    | cons e' es =>
      obtain ⟨comma, heq, hcomma⟩ := List.map_eq_singleton_iff.1
        ((kind_tokensIn (place + Text.byteSize (rawText e)) sep).trans hsep)
      obtain ⟨items, hitems, hstand⟩ := ih (fun x hx => hes x (by simp [hx])) (by simp)
        (place + Text.byteSize (rawText (e ++ sep)))
      rw [List.intercalate_cons_cons]
      generalize sep.intercalate (e' :: es) = rest at hitems hstand
      refine ⟨tokensIn place e :: items, ?_, .cons ⟨[], sep ++ rest, by simp, rfl⟩ ?_⟩
      · rw [tokensIn_append, tokensIn_append, heq, List.append_assoc, List.singleton_append]
        exact .cons he hcomma hitems
      · refine hstand.imp fun x item => ?_
        rintro ⟨front, back, rfl, rfl⟩
        refine ⟨e ++ sep ++ front, back, by simp, ?_⟩
        rw [rawText_append (e ++ sep), Text.byteSize_append, Nat.add_assoc]

/-- The elements of a list are read one by one. -/
theorem exists_elements (hsep : sep.filterMap Piece.token? = [.comma])
    (hes : ∀ e ∈ es, Enclosed (tokensIn 0 e)) (before : List Char) :
    ∃ items, Separated items (tokensIn (Text.byteSize before) (sep.intercalate es)) ∧
      ∀ after, items.filterMap
          (readElement? (String.ofList (before ++ rawText (sep.intercalate es) ++ after))) =
        es.filterMap elementOf? := by
  by_cases hne : es = []
  · subst hne
    exact ⟨[[]], .single enclosed_nil, by simp⟩
  obtain ⟨items, hitems, hstand⟩ := exists_separated sep hsep hes hne (Text.byteSize before)
  refine ⟨items, hitems, fun after => ?_⟩
  clear hitems hes hne
  generalize sep.intercalate es = whole at hstand
  induction hstand with
  | nil => rfl
  | @cons e item es items hitem _ ih =>
    obtain ⟨front, back, rfl, rfl⟩ := hitem
    have hread := readElement?_tokensIn (before ++ rawText front) (rawText back ++ after) e
    rw [Text.byteSize_append] at hread
    rw [List.filterMap_cons, List.filterMap_cons, ih, ← hread]
    simp

end Pieces

end SqlSchema
