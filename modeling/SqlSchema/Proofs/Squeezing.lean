import SqlSchema.Proofs.Blanks
import SqlSchema.Proofs.Relocation
/-!
# Lexemes with squeezed blanks

Squeezing the blanks of a text keeps its pieces: a quoted name, a literal or a comment stays one piece,
if with fewer blanks in it, and no blank between two pieces is lost.
-/
namespace SqlSchema

namespace Text

theorem squeeze_cons_of_not_blank {c : Char} (h : isBlank c = false) (blank : Bool) (cs : List Char) :
    squeeze blank (c :: cs) = c :: squeeze false cs := by
  simp [squeeze, h]

theorem head?_squeeze (cs : List Char) :
    (squeeze false cs).head? = cs.head?.map fun c => if isBlank c then ' ' else c := by
  cases cs with
  | nil => rfl
  | cons c cs =>
    rw [squeeze]
    split <;> simp [*]

private theorem head?_of_squeeze {cs : List Char} {x : Char} (hx : isBlank x = false)
    (h : (squeeze false cs).head? = some x) : cs.head? = some x := by
  rw [head?_squeeze, Option.map_eq_some_iff] at h
  obtain ⟨c, hc, heq⟩ := h
  split at heq
  · rw [← heq] at hx
    cases hx
  · rw [hc, heq]

end Text

namespace Piece

theorem Doubled.squeeze {close : Char} (hclose : Text.isBlank close = false) {cs : List Char}
    (h : Doubled close cs) (blank : Bool) : Doubled close (Text.squeeze blank cs) := by
  induction h generalizing blank with
  | nil => exact .nil
  | pair _ ih =>
    rw [Text.squeeze_cons_of_not_blank hclose, Text.squeeze_cons_of_not_blank hclose]
    exact .pair (ih false)
  | plain hc _ ih =>
    rw [Text.squeeze]
    split
    · split
      · exact ih true
      · exact .plain (Text.ne_of_class (p := Text.isBlank) rfl hclose) (ih true)
    · exact .plain hc (ih false)

theorem Literal.squeeze {escapes : Bool} {cs : List Char} (h : Literal escapes cs) (blank : Bool) :
    Literal escapes (Text.squeeze blank cs) := by
  have hquote : Text.isBlank '\'' = false := rfl
  induction h generalizing blank with
  | nil => exact .nil
  | quotes _ ih =>
    rw [Text.squeeze_cons_of_not_blank hquote, Text.squeeze_cons_of_not_blank hquote]
    exact .quotes (ih false)
  | escape he _ ih =>
    rw [Text.squeeze_cons_of_not_blank (show Text.isBlank '\\' = false from rfl), Text.squeeze]
    split
    · exact .escape he (ih true)
    · exact .escape he (ih false)
  | plain hc he _ ih =>
    rw [Text.squeeze]
    split
    · split
      · exact ih true
      · exact .plain (by decide) (by simp) (ih true)
    · exact .plain hc he (ih false)

theorem Comment.squeeze {cs : List Char} (h : Comment cs) (blank : Bool) :
    Comment (Text.squeeze blank cs) := by
  induction h generalizing blank with
  | nil => exact .nil
  | cons hc _ ih =>
    rw [Text.squeeze]
    split
    · split
      · exact ih true
      · exact .cons (by simp) (ih true)
    · exact .cons (fun h => hc ⟨h.1, Text.head?_of_squeeze rfl h.2⟩) (ih false)

/-- What squeezing makes of a piece that is no blank. -/
def IsSqueezed (p q : Piece) : Prop :=
  (∀ blank, Text.squeeze blank p.raw = q.raw) ∧ (∀ blank, Text.endsBlank blank p.raw = false) ∧
    q.token?.map TokenKind.shape = p.token?.map TokenKind.shape

private theorem isSqueezed_self {p : Piece} (hne : p.raw ≠ [])
    (h : ∀ c ∈ p.raw, Text.isBlank c = false) : IsSqueezed p p :=
  ⟨Text.squeeze_of_not_blank h, Text.endsBlank_of_not_blank h hne, rfl⟩

private theorem isSqueezed_delimited {first last : Char} (hfirst : Text.isBlank first = false)
    (hlast : Text.isBlank last = false) (kind kind' : PieceKind) (body : List Char)
    (hkind : (token? ⟨kind', []⟩).map TokenKind.shape = (token? ⟨kind, []⟩).map TokenKind.shape) :
    IsSqueezed ⟨kind, first :: body ++ [last]⟩ ⟨kind', first :: Text.squeeze false body ++ [last]⟩ := by
  refine ⟨fun blank => ?_, fun blank => ?_, ?_⟩
  · rw [List.cons_append, Text.squeeze_cons_of_not_blank hfirst, Text.squeeze_append,
      Text.squeeze_cons_of_not_blank hlast]
    rfl
  · rw [List.cons_append, Text.endsBlank, Text.endsBlank_append]
    exact hlast
  · exact hkind

/-- A complete lexeme stays one when its blanks are squeezed. -/
theorem Lexeme.squeeze {d : Dialect} {p : Piece} {next : Option Char} (h : Lexeme d p next)
    (hp : p.isComplete) (hblank : p.kind ≠ .blank) : ∃ q, Lexeme d q next ∧ IsSqueezed p q := by
  have hquote : Text.isBlank '\'' = false := rfl
  cases h with
  | blank => exact absurd rfl hblank
  | @quoted q body _ hq hbody hk hnext =>
    have hopen : Text.isBlank q.opening = false := by cases q <;> rfl
    have hclose : Text.isBlank q.closing = false := by cases q <;> rfl
    refine ⟨_, .quoted hq (hbody.squeeze hclose false) (fun hb => ?_) hnext,
      isSqueezed_delimited hopen hclose _ _ body rfl⟩
    have hhead := hk hb
    cases body with
    | nil => exact hhead
    | cons c body =>
      have hc : c ≠ ']' := by simpa using hhead
      rw [Text.squeeze]
      split <;> simp [hc]
  | lineComment => simp [isComplete] at hp
  | @blockComment body _ hbody =>
    refine ⟨_, .blockComment (hbody.squeeze false), ?_⟩
    have key := isSqueezed_delimited (show Text.isBlank '/' = false from rfl) (show Text.isBlank '/' = false from rfl)
      (.blockComment true) (.blockComment true) ('*' :: body ++ ['*']) rfl
    have hstep : Text.squeeze false ('*' :: body ++ ['*']) = '*' :: Text.squeeze false body ++ ['*'] := by
      rw [List.cons_append, Text.squeeze_cons_of_not_blank (by rfl), Text.squeeze_append]
      rfl
    rw [hstep] at key
    simpa using key
  | openComment => simp [isComplete] at hp
  | @punctuation c kind _ hkind hk =>
    exact ⟨_, .punctuation hkind hk,
      isSqueezed_self (by simp) (by simpa using isBlank_of_punctuation? hkind)⟩
  | @literal body _ hbody hnext =>
    exact ⟨_, .literal (hbody.squeeze false) hnext, isSqueezed_delimited hquote hquote _ _ body rfl⟩
  | @escapedLiteral e body _ he hbody hnext =>
    refine ⟨_, .escapedLiteral he (hbody.squeeze false) hnext, ?_⟩
    have hblank : Text.isBlank e = false := by
      rcases eq_of_toLower he with rfl | rfl <;> rfl
    have key := isSqueezed_delimited hblank hquote (.token (.literal (String.ofList (literalValue true body))))
      (.token (.literal (String.ofList (literalValue true (Text.squeeze false body))))) ('\'' :: body) rfl
    rw [Text.squeeze_cons_of_not_blank hquote] at key
    exact key
  | @number c cs _ hc hcs hnext =>
    exact ⟨_, .number hc hcs hnext, isSqueezed_self (by simp) (isBlank_of_mem_number hc hcs)⟩
  | @word c cs _ hc hcs hnext he hhash =>
    exact ⟨_, .word hc hcs hnext he hhash, isSqueezed_self (by simp) (isBlank_of_mem_word hc hcs)⟩
  | @stray c _ hs hb hminus hslash hsign hq hd hw =>
    exact ⟨_, .stray hs hb hminus hslash hsign hq hd hw, isSqueezed_self (by simp) (by simpa using hb)⟩

end Piece

theorem lexemes_squeeze {d : Dialect} {ps : List Piece} {c : Char} (h : Lexemes d ps (some c))
    (hps : ∀ p ∈ ps, p.isComplete) (blank : Bool) :
    ∃ qs, rawText qs = Text.squeeze blank (rawText ps) ∧ Lexemes d qs (some c) ∧
      (qs.filterMap Piece.token?).map TokenKind.shape = (ps.filterMap Piece.token?).map TokenKind.shape ∧
      (ps.head?.any (·.token?.isSome) → qs.head?.any (·.token?.isSome)) := by
  induction ps generalizing blank with
  | nil => exact ⟨[], rfl, trivial, rfl, id⟩
  | cons p ps ih =>
    have hrest := ih h.2 fun q hq => hps q (by simp [hq])
    by_cases hp : p.kind = .blank
    · obtain ⟨x, hx, hraw⟩ : ∃ x, Text.isBlank x ∧ p.raw = [x] := by
        have hlexeme := h.1
        obtain ⟨kind, raw⟩ := p
        obtain rfl : kind = .blank := hp
        generalize (rawText ps).head?.or (some c) = next at hlexeme
        cases hlexeme with
        | blank hx => exact ⟨_, hx, rfl⟩
      obtain ⟨qs, hqs, hlexemes, hshape, -⟩ := hrest true
      have htoken : p.token? = none := by simp [Piece.token?, hp]
      rw [rawText_cons, hraw, List.singleton_append, Text.squeeze, if_pos hx, List.filterMap_cons_none htoken]
      cases blank with
      | true => exact ⟨qs, by simpa using hqs, hlexemes, hshape, by simp [htoken]⟩
      | false =>
        refine ⟨⟨.blank, [' ']⟩ :: qs, by simp [hqs], ⟨.blank rfl, hlexemes⟩, ?_, by simp [htoken]⟩
        rw [List.filterMap_cons_none rfl, hshape]
    · obtain ⟨qs, hqs, hlexemes, hshape, -⟩ := hrest false
      have halike : Alike ((rawText ps).head?.or (some c)) ((rawText qs).head?.or (some c)) := by
        rw [hqs, Text.head?_squeeze]
        cases (rawText ps).head? with
        | none => exact .refl _
        | some x =>
          by_cases hx : Text.isBlank x
          · exact .inr ⟨by simpa using hx, by simp [hx]; rfl⟩
          · exact .inl (by simp [hx])
      obtain ⟨q, hq, hraw, hends, htoken⟩ :=
        (h.1.before_of_isComplete halike (hps p (by simp))).squeeze (hps p (by simp)) hp
      have hsome : q.token?.isSome = p.token?.isSome := by
        rw [← Option.isSome_map, htoken, Option.isSome_map]
      refine ⟨q :: qs, ?_, ⟨hq, hlexemes⟩, ?_, by simp [hsome]⟩
      · rw [rawText_cons, rawText_cons, Text.squeeze_append, hraw, hends, hqs]
      · rw [List.filterMap_cons, List.filterMap_cons]
        cases hp' : p.token? <;> cases hq' : q.token? <;> simp_all

end SqlSchema
