import SqlSchema.Proofs.Normalization
import SqlSchema.Proofs.Scanning
import SqlSchema.Script
/-!
# SQL that all dialects share

Dialects disagree about four characters: two that open quoted identifiers, the sign that opens comments
in one of them, and the backslash in literals. A script without these is read alike in all dialects,
also where it is malformed.
-/
namespace SqlSchema

/-- The characters that dialects disagree about. -/
def dialectSigns : List Char := ['\x60', '[', '#', '\\']

/-- A text that means the same in every dialect. -/
def IsCommon (cs : List Char) : Prop := ∀ c ∈ cs, c ∉ dialectSigns

instance (cs : List Char) : Decidable (IsCommon cs) :=
  List.decidableBAll (fun c => c ∉ dialectSigns) cs

theorem IsCommon.of_subset {cs ds : List Char} (h : IsCommon cs) (hs : ds ⊆ cs) : IsCommon ds :=
  fun c hc => h c (hs hc)

theorem IsCommon.tail {c : Char} {cs : List Char} (h : IsCommon (c :: cs)) : IsCommon cs :=
  h.of_subset (List.subset_cons_self c cs)

theorem IsCommon.ne {c x : Char} {cs : List Char} (h : IsCommon cs) (hc : c ∈ cs)
    (hx : x ∈ dialectSigns) : c ≠ x := by
  rintro rfl
  exact h c hc hx

namespace Piece

theorem splitLiteral_of_isCommon {cs : List Char} (h : IsCommon cs) (escapes escapes' : Bool) :
    splitLiteral escapes cs = splitLiteral escapes' cs := by
  fun_induction splitLiteral escapes cs with
  | case1 => rfl
  | case2 => simp [splitLiteral]
  | case3 c hc => simp [splitLiteral, hc]
  | case4 c d rest hq ih =>
    have hne := h.ne (x := '\\') List.mem_cons_self (by decide)
    rw [splitLiteral, if_pos (.inl (by simpa [hne] using hq)), ih h.tail.tail]
  | case5 d rest hq =>
    have hne : d ≠ '\'' := by simpa using hq
    simp [splitLiteral, hne]
  | case6 c d rest hq hc ih =>
    have hne := h.ne (x := '\\') List.mem_cons_self (by decide)
    rw [splitLiteral, if_neg (by simp [hne, hc]), if_neg hc, ih h.tail]

theorem literalValue_of_isCommon {cs : List Char} (h : IsCommon cs) (escapes escapes' : Bool) :
    literalValue escapes cs = literalValue escapes' cs := by
  fun_induction literalValue escapes cs with
  | case1 => rfl
  | case2 => rfl
  | case3 c d rest hq ih => rw [literalValue, if_pos hq, ih h.tail.tail]
  | case4 c d rest hq hs ih =>
    exact absurd hs.1 (h.ne (x := '\\') List.mem_cons_self (by decide))
  | case5 c d rest hq hs ih =>
    have hne := h.ne (x := '\\') List.mem_cons_self (by decide)
    rw [literalValue, if_neg hq, if_neg (by simp [hne]), ih h.tail]

theorem readLiteral_of_isCommon (escapes escapes' : Bool) (lead : List Char) {cs : List Char}
    (h : IsCommon cs) : readLiteral escapes lead cs = readLiteral escapes' lead cs := by
  unfold readLiteral
  rw [splitLiteral_of_isCommon h escapes escapes']
  cases hsplit : splitLiteral escapes' cs with
  | none => rfl
  | some r =>
    obtain ⟨body, rest⟩ := r
    have hbody : body ⊆ cs := by
      rw [← splitLiteral_append hsplit]
      exact List.subset_append_left _ _
    dsimp only
    rw [literalValue_of_isCommon (h.of_subset hbody) escapes escapes']

private theorem while_congr {p q : Char → Bool} {cs : List Char} (h : ∀ x ∈ cs, p x = q x) :
    cs.takeWhile p = cs.takeWhile q ∧ cs.dropWhile p = cs.dropWhile q := by
  induction cs with
  | nil => exact ⟨rfl, rfl⟩
  | cons c cs ih =>
    obtain ⟨htake, hdrop⟩ := ih fun x hx => h x (List.mem_cons_of_mem c hx)
    rw [List.takeWhile_cons, List.takeWhile_cons, List.dropWhile_cons, List.dropWhile_cons,
      h c List.mem_cons_self, htake, hdrop]
    exact ⟨rfl, rfl⟩

variable (d d' : Dialect)

theorem readWord_of_isCommon (c : Char) {cs : List Char} (h : IsCommon cs) :
    readWord d c cs = readWord d' c cs := by
  have hword : ∀ x ∈ cs, continuesWord d x = continuesWord d' x := by
    intro x hx
    simp [continuesWord, h.ne (x := '#') hx (by decide)]
  unfold readWord
  rw [(while_congr hword).1, (while_congr hword).2]

theorem readPlain_of_isCommon {c : Char} {cs : List Char} (h : IsCommon (c :: cs)) :
    readPlain d c cs = readPlain d' c cs := by
  have hhash := h.ne (x := '#') List.mem_cons_self (by decide)
  unfold readPlain
  simp only [hhash, false_and, if_false, readWord_of_isCommon d d' c h.tail,
    readLiteral_of_isCommon (d == .mysql) (d' == .mysql) [c] h.tail]

theorem openedStyle?_of_isCommon {c : Char} {cs : List Char} (h : IsCommon (c :: cs)) :
    openedStyle? d c cs = openedStyle? d' c cs := by
  have hbacktick := h.ne (x := '\x60') List.mem_cons_self (by decide)
  have hbracket := h.ne (x := '[') List.mem_cons_self (by decide)
  have hdouble : ∀ d : Dialect, QuoteStyle.double ∈ d.quoteStyles := fun d => by cases d <;> decide
  unfold openedStyle?
  simp only [hbracket, false_and, if_false]
  by_cases hquote : c = '"'
  · subst hquote
    exact (Dialect.styleOpening?_opening (hdouble d)).trans
      (Dialect.styleOpening?_opening (hdouble d')).symm
  · rw [Dialect.styleOpening?_eq_none hbacktick hbracket hquote,
      Dialect.styleOpening?_eq_none hbacktick hbracket hquote]

theorem read?_of_isCommon {c : Char} {cs : List Char} (h : IsCommon (c :: cs)) :
    read? d c cs = read? d' c cs := by
  unfold read?
  rw [openedStyle?_of_isCommon d d' h, readPlain_of_isCommon d d' h]

end Piece

theorem scan_of_isCommon (d d' : Dialect) {cs : List Char} (h : IsCommon cs) :
    scan d cs = scan d' cs := by
  fun_induction scan d cs with
  | case1 => rw [scan_nil]
  | case2 c cs hread =>
    rw [scan_cons_of_none ((Piece.read?_of_isCommon d' d h).trans hread)]
  | case3 c cs p rest hread ps left hscan ih =>
    have hrest : rest ⊆ c :: cs := by
      rw [← Piece.read?_append hread]
      exact List.subset_append_right _ _
    rw [scan_cons_of_read? ((Piece.read?_of_isCommon d' d h).trans hread), ← ih (h.of_subset hrest),
      hscan]

theorem tokenize_of_isCommon (d d' : Dialect) {text : String} (h : IsCommon text.toList) :
    tokenize d text = tokenize d' text := by
  rw [tokenize, scan_of_isCommon d d' h, tokenize]

theorem IsCommon.normalize {text : String} (h : IsCommon text.toList) :
    IsCommon (Text.normalize text).toList := by
  intro c hc
  rw [Text.normalize, String.toList_ofList] at hc
  rcases Text.mem_normalizeChars hc with rfl | hc
  · decide
  · exact h c hc

/-- The dialect makes no difference to the schema of a script, or to the error, if the script holds none of
the characters that dialects disagree about. -/
theorem readSchema_of_isCommon {input : String} (h : IsCommon input.toList) (d d' : Dialect)
    (dedup : Bool) (maxBytes : Nat) :
    readSchema ⟨d, dedup, maxBytes⟩ input = readSchema ⟨d', dedup, maxBytes⟩ input := by
  unfold readSchema Script.read
  dsimp only
  split
  · rfl
  · rw [tokenize_of_isCommon (d.resolve (Text.normalize input)) (d'.resolve (Text.normalize input))
      h.normalize]
    cases tokenize (d'.resolve (Text.normalize input)) (Text.normalize input) <;> rfl

theorem readSchema_of_isCommon_serial :
    IsCommon "CREATE TABLE t (id SERIAL, a TEXT DEFAULT E'it''s; \"b".toList ∧
      readSchema ⟨.auto, true, 100⟩ "CREATE TABLE t (id SERIAL, a TEXT DEFAULT E'it''s; \"b" =
        readSchema ⟨.mysql, true, 100⟩ "CREATE TABLE t (id SERIAL, a TEXT DEFAULT E'it''s; \"b" :=
  ⟨by decide, readSchema_of_isCommon (by decide) .auto .mysql true 100⟩

end SqlSchema
