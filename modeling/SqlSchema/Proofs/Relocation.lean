import SqlSchema.Proofs.Renaming
import SqlSchema.Proofs.Spans
/-!
# Reading tokens elsewhere

Readers look at the kinds of tokens and not at their places, so each of them commutes with a change of
the places. Those that only skip do not even see names. The single exception is a column's type, which
is cut out of the source.
-/
namespace SqlSchema

/-- What the grammar sees of a token besides names: the text of a word, but no other text. -/
def TokenKind.shape : TokenKind → TokenKind
  | .quoted _ => .quoted ""
  | .literal _ => .literal ""
  | .number _ => .number ""
  | kind => kind

/-- The token without its place and the text that the grammar does not see. -/
def Token.bare (t : Token) : Token := ⟨t.kind.shape, 0, 0⟩

@[simp] theorem TokenKind.shape_eq_word_iff {kind : TokenKind} {text : String} :
    kind.shape = .word text ↔ kind = .word text := by
  cases kind <;> simp [shape]

theorem keepsRole_bare : KeepsRole Token.bare where
  role t := by
    obtain ⟨kind, start, stop⟩ := t
    cases kind <;> rfl
  isWord t keyword := by
    obtain ⟨kind, start, stop⟩ := t
    cases kind <;> rfl

theorem renames_shift (n : Nat) : Renames (Token.shift n) .id .id where
  role _ := rfl
  isWord _ _ := rfl
  name _ := rfl

theorem keepsRole_shift (n : Nat) : KeepsRole (Token.shift n) := (renames_shift n).toKeepsRole

section Shift

theorem readDottedName_shift (n : Nat) (ts : List Token) :
    readDottedName (ts.map (Token.shift n)) =
      ((readDottedName ts).1, (readDottedName ts).2.map (Token.shift n)) := by
  simpa [Prod.ext_iff] using readDottedName_map (renames_shift n) ts

theorem readConstraint?_shift (n : Nat) (ts : List Token) :
    readConstraint? (ts.map (Token.shift n)) = readConstraint? ts := by
  simpa using readConstraint?_map (renames_shift n) ts

variable (before source after : List Char) {ts : List Token}
  (hts : ∀ t ∈ ts, t.stop ≤ Text.byteSize source)

include hts

private theorem sourceText_infix_shift (us : List Token) (h : us <:+: ts) :
    sourceText (String.ofList (before ++ source ++ after))
        (us.map (Token.shift (Text.byteSize before))) =
      sourceText (String.ofList source) us :=
  sourceText_shift before source after fun t ht => hts t (h.subset ht)

theorem readElement?_shift :
    readElement? (String.ofList (before ++ source ++ after))
        (ts.map (Token.shift (Text.byteSize before))) =
      readElement? (String.ofList source) ts := by
  have hread := readElement?_map (renames_shift (Text.byteSize before)) fun us hus =>
    congrArg (fun text => Text.collapse text) (sourceText_infix_shift before source after hts us hus)
  simpa using hread

/-- A statement reads the same wherever its text stands in a script. -/
theorem readStatement?_shift :
    readStatement? (String.ofList (before ++ source ++ after))
        (ts.map (Token.shift (Text.byteSize before))) =
      readStatement? (String.ofList source) ts := by
  have hread := readStatement?_map (renames_shift (Text.byteSize before)) fun us hus =>
    congrArg (fun text => Text.collapse text) (sourceText_infix_shift before source after hts us hus)
  simpa using hread

end Shift

end SqlSchema
