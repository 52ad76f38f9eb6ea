import Mathlib.Data.List.Basic
import SqlSchema.Proofs.Readers
/-!
# What the grammar sees of a token

Readers tell tokens apart by their signs and by the keywords that bare words spell. So those that skip
tokens commute with every change that keeps both, whatever it does to the names, the literals, the
numbers and the places of the tokens.
-/
namespace SqlSchema

namespace TokenKind

/-- The kind without the text that it carries. -/
def role : TokenKind → TokenKind
  | .word _ => .word ""
  | .quoted _ => .quoted ""
  | .literal _ => .literal ""
  | .number _ => .number ""
  | kind => kind

/-- Whether the kind carries no text. -/
def isSign : TokenKind → Bool
  | .word _ | .quoted _ | .literal _ | .number _ => false
  | _ => true

theorem role_eq_iff {kind : TokenKind} (h : kind.isSign) (other : TokenKind) :
    other.role = kind ↔ other = kind := by
  cases kind <;> cases other <;> simp_all [role, isSign]

end TokenKind

/-- A change of tokens that keeps signs and keywords. -/
structure KeepsRole (f : Token → Token) : Prop where
  role : ∀ t, (f t).kind.role = t.kind.role
  isWord : ∀ t keyword, (f t).isWord keyword = t.isWord keyword

section Role

variable {f : Token → Token} (hf : KeepsRole f)

include hf

theorem KeepsRole.kind_eq_iff (kind : TokenKind) (hk : kind.isSign) (t : Token) :
    (f t).kind = kind ↔ t.kind = kind := by
  rw [← TokenKind.role_eq_iff hk (f t).kind, hf.role t, TokenKind.role_eq_iff hk]

theorem KeepsRole.isOneOf (t : Token) (keywords : List String) :
    (f t).isOneOf keywords = t.isOneOf keywords := by
  simp only [Token.isOneOf, hf.isWord]

theorem KeepsRole.name?_isSome (t : Token) : (f t).name?.isSome = t.name?.isSome := by
  have hrole := hf.role t
  unfold Token.name?
  cases hk : t.kind <;> cases hk' : (f t).kind <;> simp_all [TokenKind.role]

theorem depthAfter_map (depth : Nat) (t : Token) : depthAfter depth (f t) = depthAfter depth t := by
  have hl := hf.kind_eq_iff .leftParen rfl t
  have hr := hf.kind_eq_iff .rightParen rfl t
  unfold depthAfter
  split
  · next h => rw [hl.1 h]
  · next h => rw [hr.1 h]
  · next h1 h2 =>
    split
    · next h => exact absurd (hl.2 h) h1
    · next h => exact absurd (hr.2 h) h2
    · rfl

theorem endsStatement_map (t : Token) : (f t).endsStatement = t.endsStatement := by
  rw [Bool.eq_iff_iff]
  simp only [Token.endsStatement, Bool.or_eq_true, beq_iff_eq, hf.kind_eq_iff .semicolon rfl,
    hf.kind_eq_iff .endOfText rfl]

theorem behind?_map (phrase : List String) (ts : List Token) :
    behind? phrase (ts.map f) = (behind? phrase ts).map (List.map f) := by
  induction phrase generalizing ts with
  | nil => simp [behind?]
  | cons k ks ih =>
    cases ts with
    | nil => rfl
    | cons t ts =>
      simp only [List.map_cons, behind?, hf.isWord, ih]
      split <;> rfl

theorem skipPhrase_map (phrase : List String) (ts : List Token) :
    skipPhrase phrase (ts.map f) = (skipPhrase phrase ts).map f := by
  rw [skipPhrase, skipPhrase, behind?_map hf]
  cases behind? phrase ts <;> rfl

theorem behindOneOf?_map (phrases : List (List String)) (ts : List Token) :
    behindOneOf? phrases (ts.map f) = (behindOneOf? phrases ts).map (List.map f) := by
  induction phrases with
  | nil => rfl
  | cons phrase phrases ih =>
    unfold behindOneOf? at ih ⊢
    rw [List.findSome?_cons, List.findSome?_cons, behind?_map hf]
    cases behind? phrase ts with
    | none => exact ih
    | some rest => rfl

theorem skipOneOf_map (phrases : List (List String)) (ts : List Token) :
    skipOneOf phrases (ts.map f) = (skipOneOf phrases ts).map f := by
  rw [skipOneOf, skipOneOf, behindOneOf?_map hf]
  cases behindOneOf? phrases ts <;> rfl

theorem startsWith_map (kind : TokenKind) (hk : kind.isSign) (ts : List Token) :
    startsWith kind (ts.map f) = startsWith kind ts := by
  cases ts with
  | nil => rfl
  | cons t ts =>
    rw [Bool.eq_iff_iff]
    simp only [startsWith, List.map_cons, List.head?_cons, Option.any_some, beq_iff_eq,
      hf.kind_eq_iff kind hk]

theorem skipKind_map (kind : TokenKind) (hk : kind.isSign) (ts : List Token) :
    skipKind kind (ts.map f) = (skipKind kind ts).map f := by
  rw [skipKind, skipKind, startsWith_map hf kind hk]
  split <;> simp

theorem splitGroup_map (depth : Nat) (ts : List Token) :
    splitGroup depth (ts.map f) = ((splitGroup depth ts).1.map f, (splitGroup depth ts).2.map f) := by
  induction ts generalizing depth with
  | nil => rfl
  | cons t ts ih =>
    simp only [List.map_cons, splitGroup, depthAfter_map hf, ih]
    split <;> simp

theorem splitBody_map (closes : Bool) (depth : Nat) (ts : List Token) :
    splitBody closes depth (ts.map f) =
      ((splitBody closes depth ts).1.map f, (splitBody closes depth ts).2.map f) := by
  induction ts generalizing depth with
  | nil => rfl
  | cons t ts ih =>
    simp only [List.map_cons, splitBody, depthAfter_map hf, endsStatement_map hf,
      hf.kind_eq_iff .rightParen rfl, ih]
    split <;> simp

theorem splitCommas_map (depth : Nat) (ts : List Token) :
    splitCommas depth (ts.map f) = (splitCommas depth ts).map (List.map f) := by
  induction ts generalizing depth with
  | nil => rfl
  | cons t ts ih =>
    simp only [List.map_cons, splitCommas, depthAfter_map hf, hf.kind_eq_iff .comma rfl, ih]
    split
    · rfl
    · cases splitCommas (depthAfter depth t) ts <;> rfl

theorem splitTopLevel_map (closes : Bool) (ts : List Token) :
    splitTopLevel closes (ts.map f) =
      ((splitTopLevel closes ts).1.map (List.map f), (splitTopLevel closes ts).2.map f) := by
  simp only [splitTopLevel, splitBody_map hf, splitCommas_map hf, List.filter_map, Prod.mk.injEq,
    and_true]
  congr 2
  funext item
  simp

theorem splitStatements_map (ts : List Token) :
    splitStatements (ts.map f) = (splitStatements ts).map (List.map f) := by
  induction ts with
  | nil => rfl
  | cons t ts ih =>
    simp only [List.map_cons, splitStatements, hf.kind_eq_iff .endOfText rfl,
      hf.kind_eq_iff .semicolon rfl, ih]
    split
    · rfl
    split
    · rfl
    · cases splitStatements ts <;> rfl

theorem skipReferentialActions_map (ts : List Token) :
    skipReferentialActions (ts.map f) = (skipReferentialActions ts).map f := by
  fun_induction skipReferentialActions ts with
  | case1 => rw [List.map_nil, skipReferentialActions]
  | case2 t ts hon rest hrest ih =>
    rw [List.map_cons, skipReferentialActions, if_pos (by rwa [hf.isWord])]
    split
    · next rest' h =>
      rw [behindOneOf?_map hf, hrest, Option.map_some, Option.some.injEq] at h
      rw [← h, skipOneOf_map hf, ih]
    · next h => simp [behindOneOf?_map hf, hrest] at h
  | case3 t ts hon hnone ih =>
    rw [List.map_cons, skipReferentialActions, if_pos (by rwa [hf.isWord])]
    split
    · next h => simp [behindOneOf?_map hf, hnone] at h
    · exact ih
  | case4 t ts hon =>
    rw [List.map_cons, skipReferentialActions, if_neg (by rwa [hf.isWord])]

theorem readTypePart?_map (ts : List Token) :
    readTypePart? (ts.map f) = (readTypePart? ts).map fun r => (r.1.map f, r.2.map f) := by
  cases ts with
  | nil => rfl
  | cons t ts =>
    simp only [List.map_cons, readTypePart?, hf.kind_eq_iff .leftParen rfl,
      hf.kind_eq_iff .leftBracket rfl, hf.isOneOf, startsWith_map hf .rightBracket rfl,
      behind?_map hf]
    split
    · rw [← List.map_cons, splitGroup_map hf]
      rfl
    split
    · simp [List.map_take]
    split
    · rfl
    split
    · cases behind? ["TIME", "ZONE"] ts <;> simp [List.map_take]
    · rfl

theorem readTypeTail_map (ts : List Token) :
    readTypeTail (ts.map f) = ((readTypeTail ts).1.map f, (readTypeTail ts).2.map f) := by
  fun_induction readTypeTail ts with
  | case1 ts h =>
    rw [readTypeTail]
    split
    · rfl
    · next h' => simp [readTypePart?_map hf, h] at h'
  | case2 ts part rest h more rest' hmore ih =>
    rw [readTypeTail]
    split
    · next h' => simp [readTypePart?_map hf, h] at h'
    · next part' tail h' =>
      rw [readTypePart?_map hf, h, Option.map_some, Option.some.injEq, Prod.mk.injEq] at h'
      rw [← h'.1, ← h'.2, ih, hmore]
      simp

theorem opensConstraint_map (ts : List Token) : opensConstraint (ts.map f) = opensConstraint ts := by
  cases ts with
  | nil => rfl
  | cons t ts =>
    simp only [List.map_cons, opensConstraint, hf.isOneOf]
    cases ts with
    | nil => rfl
    | cons next rest =>
      have hhead : (rest.map f).head?.any (·.isOneOf constraintOptions) =
          rest.head?.any (·.isOneOf constraintOptions) := by
        cases rest with
        | nil => rfl
        | cons u rest => simp [hf.isOneOf]
      have hnext := hf.role next
      have hword := hf.isOneOf next
      rw [List.map_cons]
      generalize f next = next' at hnext hword ⊢
      obtain ⟨kind, start, stop⟩ := next
      obtain ⟨kind', start', stop'⟩ := next'
      cases kind <;> cases kind' <;>
        simp_all [TokenKind.role, startsWith_map hf .leftParen rfl]

theorem behindName?_map (ts : List Token) :
    (readName? (ts.map f)).map (·.2) = ((readName? ts).map (·.2)).map (List.map f) := by
  cases ts with
  | nil => rfl
  | cons t ts =>
    have hname := hf.name?_isSome t
    simp only [List.map_cons, readName?]
    cases ht : t.name? <;> cases hft : (f t).name? <;> simp_all

theorem behindIndexName?_map (ts : List Token) :
    behindIndexName? (ts.map f) = (behindIndexName? ts).map (List.map f) := by
  unfold behindIndexName?
  rw [startsWith_map hf .leftParen rfl, behindName?_map hf]
  split <;> rfl

theorem behindConstraintName?_map (ts : List Token) :
    behindConstraintName? (ts.map f) = (behindConstraintName? ts).map (List.map f) := by
  unfold behindConstraintName?
  rw [behind?_map hf]
  cases behind? ["CONSTRAINT"] ts with
  | none => rfl
  | some rest => exact behindName?_map hf rest

end Role

end SqlSchema
