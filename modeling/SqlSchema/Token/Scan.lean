import SqlSchema.Text.Basic
import SqlSchema.Token.Piece
/-!
# Scanning

The pieces of a script and their tokens. The raw text of the pieces, put together again, is the script
itself, up to the place where an identifier opens that never closes.
-/
namespace SqlSchema

namespace Piece

theorem splitQuoted_append {close : Char} {cs body rest : List Char}
    (h : splitQuoted close cs = some (body, rest)) : body ++ close :: rest = cs := by
  fun_induction splitQuoted close cs generalizing body with
  | case1 => simp at h
  | case2 => simp_all
  | case3 => simp at h
  | case4 more ih =>
    simp only [Option.map_eq_some_iff, Prod.mk.injEq, Prod.exists] at h
    obtain ⟨b, r, hb, rfl, rfl⟩ := h
    simp [ih hb]
  | case5 => simp_all
  | case6 c d more hc ih =>
    simp only [Option.map_eq_some_iff, Prod.mk.injEq, Prod.exists] at h
    obtain ⟨b, r, hb, rfl, rfl⟩ := h
    simp [ih hb]

theorem splitLiteral_append {escapes : Bool} {cs body rest : List Char}
    (h : splitLiteral escapes cs = some (body, rest)) : body ++ '\'' :: rest = cs := by
  fun_induction splitLiteral escapes cs generalizing body with
  | case1 => simp at h
  | case2 => simp_all
  | case3 => simp at h
  | case4 c d more hc ih =>
    simp only [Option.map_eq_some_iff, Prod.mk.injEq, Prod.exists] at h
    obtain ⟨b, r, hb, rfl, rfl⟩ := h
    simp [ih hb]
  | case5 => simp_all
  | case6 c d more hc hq ih =>
    simp only [Option.map_eq_some_iff, Prod.mk.injEq, Prod.exists] at h
    obtain ⟨b, r, hb, rfl, rfl⟩ := h
    simp [ih hb]

theorem splitComment_append {cs body rest : List Char}
    (h : splitComment cs = some (body, rest)) : body ++ '*' :: '/' :: rest = cs := by
  fun_induction splitComment cs generalizing body with
  | case1 => simp at h
  | case2 => simp at h
  | case3 => simp_all
  | case4 c d more hc ih =>
    simp only [Option.map_eq_some_iff, Prod.mk.injEq, Prod.exists] at h
    obtain ⟨b, r, hb, rfl, rfl⟩ := h
    simp [ih hb]

theorem readLiteral_append (escapes : Bool) (lead cs : List Char) :
    (readLiteral escapes lead cs).1.raw ++ (readLiteral escapes lead cs).2 = lead ++ cs := by
  unfold readLiteral
  split
  · next body rest h => simp [← splitLiteral_append h]
  · simp

theorem readWord_append (d : Dialect) (c : Char) (cs : List Char) :
    (readWord d c cs).1.raw ++ (readWord d c cs).2 = c :: cs := by
  have key : c :: cs.takeWhile (continuesWord d) ++ cs.dropWhile (continuesWord d) = c :: cs := by
    simp
  unfold readWord
  simp only
  split
  · next e rest ht hd =>
    rw [hd] at key
    split
    · rw [readLiteral_append]; simpa [ht] using key
    · exact key
  · exact key

theorem readLineComment_append (c : Char) (cs : List Char) :
    (readLineComment c cs).1.raw ++ (readLineComment c cs).2 = c :: cs := by
  simp only [readLineComment, List.cons_append, List.append_assoc, List.take_append_drop,
    List.takeWhile_append_dropWhile]

theorem readPlain_append (d : Dialect) (c : Char) (cs : List Char) :
    (readPlain d c cs).1.raw ++ (readPlain d c cs).2 = c :: cs := by
  unfold readPlain
  split
  · rfl
  split
  · exact readLineComment_append c cs
  split
  · exact readLineComment_append c cs
  split
  · next h =>
    obtain ⟨rest, rfl⟩ : ∃ rest, cs = '*' :: rest := by
      cases cs <;> simp_all
    unfold readBlockComment
    split
    · next body more hs => simpa [h.1] using splitComment_append hs
    · simp [h.1]
  split
  · rfl
  split
  · rw [readLiteral_append]; rfl
  split
  · simp [readNumber]
  split
  · exact readWord_append d c cs
  · rfl

theorem openedStyle?_opening {d : Dialect} {c : Char} {cs : List Char} {q : QuoteStyle}
    (h : openedStyle? d c cs = some q) : q.opening = c := by
  unfold openedStyle? at h
  split at h
  · simp at h
  · simpa using List.find?_some h

theorem read?_append {d : Dialect} {c : Char} {cs : List Char} {p : Piece} {rest : List Char}
    (h : read? d c cs = some (p, rest)) : p.raw ++ rest = c :: cs := by
  unfold read? at h
  split at h
  · next q hq =>
    simp only [readQuoted, Option.map_eq_some_iff, Prod.mk.injEq, Prod.exists] at h
    obtain ⟨body, more, hs, rfl, rfl⟩ := h
    simp [openedStyle?_opening hq, ← splitQuoted_append hs]
  · simp only [Option.some.injEq] at h
    have key := readPlain_append d c cs
    rwa [h] at key

theorem readLiteral_raw_ne_nil {escapes : Bool} {lead cs : List Char} (h : lead ≠ []) :
    (readLiteral escapes lead cs).1.raw ≠ [] := by
  unfold readLiteral
  split <;> simp [h]

theorem read?_raw_ne_nil {d : Dialect} {c : Char} {cs : List Char} {p : Piece} {rest : List Char}
    (h : read? d c cs = some (p, rest)) : p.raw ≠ [] := by
  unfold read? at h
  split at h
  · simp only [readQuoted, Option.map_eq_some_iff, Prod.mk.injEq, Prod.exists] at h
    obtain ⟨_, _, _, rfl, rfl⟩ := h
    simp
  · simp only [Option.some.injEq] at h
    have hp : p = (readPlain d c cs).1 := by rw [h]
    rw [hp]
    unfold readPlain readWord readNumber readLineComment readBlockComment
    grind [readLiteral_raw_ne_nil]

/-- What follows a piece is shorter than what it was cut from. -/
theorem read?_length {d : Dialect} {c : Char} {cs : List Char} {p : Piece} {rest : List Char}
    (h : read? d c cs = some (p, rest)) : rest.length ≤ cs.length := by
  have h1 := congrArg List.length (read?_append h)
  have h2 := List.length_pos_iff.mpr (read?_raw_ne_nil h)
  simp only [List.length_append, List.length_cons] at h1
  omega

end Piece

/-- The pieces of a text, and what is left of it from an identifier on that never closes. -/
def scan (d : Dialect) : List Char → List Piece × List Char
  | [] => ([], [])
  | c :: cs =>
    match _h : Piece.read? d c cs with
    | none => ([], c :: cs)
    | some (p, rest) =>
      let (ps, left) := scan d rest
      (p :: ps, left)
termination_by cs => cs.length
decreasing_by
  have := Piece.read?_length _h
  simp only [List.length_cons]
  omega

/-- The tokens among the pieces, of which the first starts at `offset`, and the end of the text. -/
def tokensOf (offset : Nat) : List Piece → List Token
  | [] => [⟨.endOfText, offset, offset⟩]
  | p :: ps =>
    let rest := tokensOf (offset + p.size) ps
    match p.token? with
    | some kind => ⟨kind, offset, offset + p.size⟩ :: rest
    | none => rest

/-- Where the literals among the pieces start that were cut short. -/
def cutPositions (here : Text.Position) : List Piece → List Text.Position
  | [] => []
  | p :: ps =>
    let rest := cutPositions (here.advance p.raw) ps
    if p.isCut then here :: rest else rest

/-- The position behind the pieces. -/
def endPosition (ps : List Piece) : Text.Position :=
  Text.Position.start.advance (ps.flatMap (·.raw))

/-- The tokens of a text, or the position of the first identifier that never closes. -/
def tokenize (d : Dialect) (text : String) : Except Text.Position (List Token) :=
  match scan d text.toList with
  | (ps, []) => .ok (tokensOf 0 ps)
  | (ps, _ :: _) => .error (endPosition ps)

end SqlSchema
