import SqlSchema.Export.Ddl
import SqlSchema.Proofs.Normalization
import SqlSchema.Proofs.Scanning
/-!
# Names in exported SQL

A name that is written in SQL is one lexeme in front of any sign of the grammar, and its token gives
the name back, whatever characters it has.
-/
namespace SqlSchema

namespace Text

private theorem isAlpha_toNat {c : Char} (h : c.isAlpha) :
    c.toNat ∈ List.range' 65 26 ++ List.range' 97 26 := by
  rw [List.mem_append, List.mem_range'_1, List.mem_range'_1]
  rcases Bool.or_eq_true_iff.1 h with h | h
  · obtain ⟨hlo, hhi⟩ := of_decide_eq_true h
    have h1 : 65 ≤ c.toNat := UInt32.le_iff_toNat_le.mp hlo
    have h2 : c.toNat ≤ 90 := UInt32.le_iff_toNat_le.mp hhi
    exact .inl ⟨h1, by omega⟩
  · obtain ⟨hlo, hhi⟩ := Bool.and_eq_true_iff.1 h
    have h1 : 97 ≤ c.toNat := UInt32.le_iff_toNat_le.mp (of_decide_eq_true hlo)
    have h2 : c.toNat ≤ 122 := UInt32.le_iff_toNat_le.mp (of_decide_eq_true hhi)
    exact .inr ⟨h1, by omega⟩

theorem isLetter_of_isAlpha {c : Char} (h : c.isAlpha) : isLetter c := by
  have key : ∀ n ∈ List.range' 65 26 ++ List.range' 97 26, inRanges n letterRanges := by
    decide
  exact key _ (isAlpha_toNat h)

theorem isNumber_of_isDigit {c : Char} (h : c.isDigit) : isNumber c := by
  have key : ∀ n ∈ List.range' 48 10, inRanges n numberRanges := by decide
  exact key _ (isDigit_toNat h)

theorem isLetterOrNumber_of_isAlphanum {c : Char} (h : c.isAlphanum) : isLetterOrNumber c := by
  simp only [Char.isAlphanum, Bool.or_eq_true] at h
  rcases h with h | h
  · simp [isLetterOrNumber, isLetter_of_isAlpha h]
  · simp [isLetterOrNumber, isNumber_of_isDigit h]

/-- A text that keeps its line breaks when it is normalized as a part of another one. -/
structure IsSolid (s : String) : Prop where
  noReturn : '\r' ∉ s.toList
  noBlankLine : HasNoBlankLine s.toList

end Text

namespace QuoteStyle

theorem undouble_doubled (close : Char) (cs : List Char) : undouble close (doubled close cs) = cs := by
  induction cs with
  | nil => rfl
  | cons c cs ih =>
    by_cases hc : c = close
    · subst hc
      simpa [doubled, undouble] using ih
    · simp only [doubled, List.flatMap_cons, if_neg hc, List.singleton_append] at ih ⊢
      cases hd : cs.flatMap (fun c => if c = close then [c, c] else [c]) with
      | nil =>
        rw [hd] at ih
        rw [← ih]
        rfl
      | cons d ds =>
        rw [undouble, if_neg fun h => hc h.1, ← hd, ih]

theorem doubled_isDoubled (close : Char) (cs : List Char) : Piece.Doubled close (doubled close cs) := by
  induction cs with
  | nil => exact .nil
  | cons c cs ih =>
    by_cases hc : c = close
    · subst hc
      simpa [doubled] using Piece.Doubled.pair ih
    · simpa [doubled, hc] using Piece.Doubled.plain hc ih

theorem mem_doubled {close c : Char} {cs : List Char} (h : c ∈ doubled close cs) : c ∈ cs := by
  obtain ⟨x, hx, hc⟩ := List.mem_flatMap.1 h
  split at hc <;> simp_all

theorem undouble_subset (close : Char) (cs : List Char) : undouble close cs ⊆ cs := by
  fun_induction undouble close cs with
  | case1 => exact List.Subset.refl _
  | case2 => exact List.Subset.refl _
  | case3 c d rest h ih =>
    obtain ⟨rfl, rfl⟩ := h
    exact List.cons_subset_cons _ fun x hx => List.mem_cons_of_mem _ (ih hx)
  | case4 c d rest h ih => exact List.cons_subset_cons c ih

private theorem lineState?_cons_of_ne {c : Char} (hn : c ≠ '\n') (hb : Text.isBlank c = false)
    (blank : Bool) (cs : List Char) : Text.lineState? blank (c :: cs) = Text.lineState? false cs := by
  rw [Text.lineState?, if_neg hn, hb, Bool.and_false]

theorem lineState?_doubled {close : Char} (hb : Text.isBlank close = false) (blank : Bool)
    (cs : List Char) : Text.lineState? blank (doubled close cs) = Text.lineState? blank cs := by
  have hn : close ≠ '\n' := (Text.ne_of_class (p := Text.isBlank) rfl hb).symm
  induction cs generalizing blank with
  | nil => rfl
  | cons c cs ih =>
    simp only [doubled, List.flatMap_cons] at ih ⊢
    split
    · next hc =>
      subst hc
      simp only [List.cons_append, List.nil_append, lineState?_cons_of_ne hn hb, ih]
    · simp only [List.singleton_append, Text.lineState?, ih]

theorem lineState?_undouble {close : Char} (hb : Text.isBlank close = false) (blank : Bool)
    (cs : List Char) : Text.lineState? blank (undouble close cs) = Text.lineState? blank cs := by
  have hn : close ≠ '\n' := (Text.ne_of_class (p := Text.isBlank) rfl hb).symm
  fun_induction undouble close cs generalizing blank with
  | case1 => rfl
  | case2 => rfl
  | case3 c d rest h ih =>
    obtain ⟨rfl, rfl⟩ := h
    simp only [lineState?_cons_of_ne hn hb, ih]
  | case4 c d rest h ih => simp only [Text.lineState?, ih]

end QuoteStyle

namespace Ddl

/-- The token of a name as it is written. -/
def nameKind (name : String) : TokenKind :=
  if isBare name.toList then .word name else .quoted name

/-- A name as it is written. -/
def namePiece (name : String) : Piece := ⟨.token (nameKind name), (quote name).toList⟩

@[simp] theorem token?_namePiece (name : String) : (namePiece name).token? = some (nameKind name) := rfl

@[simp] theorem raw_namePiece (name : String) : (namePiece name).raw = (quote name).toList := rfl

private theorem isBare_cons {name : List Char} (h : isBare name) :
    ∃ c cs, name = c :: cs ∧ (c.isAlpha ∨ c = '_') ∧ ∀ x ∈ c :: cs, isBareChar x := by
  simp only [isBare, Bool.and_eq_true, List.all_eq_true] at h
  cases name with
  | nil => simp at h
  | cons c cs => exact ⟨c, cs, rfl, by simpa using h.1, h.2⟩

private theorem opensWord_of_isAlpha {c : Char} (h : c.isAlpha ∨ c = '_') : Piece.opensWord c := by
  rcases h with h | rfl
  · simp [Piece.opensWord, Text.isLetter_of_isAlpha h]
  · rfl

private theorem continuesWord_of_isBareChar (d : Dialect) {c : Char} (h : isBareChar c) :
    Piece.continuesWord d c := by
  simp only [isBareChar, Bool.or_eq_true, decide_eq_true_eq] at h
  rcases h with (h | rfl) | rfl
  · simp [Piece.continuesWord, Text.isLetterOrNumber_of_isAlphanum h]
  · simp [Piece.continuesWord]
  · simp [Piece.continuesWord]

theorem isBlank_of_isBare {word : List Char} (h : isBare word) : ∀ c ∈ word, Text.isBlank c = false := by
  intro c hc
  simp only [isBare, Bool.and_eq_true, List.all_eq_true] at h
  refine Bool.eq_false_iff.2 fun hb => ?_
  have hcontinues := continuesWord_of_isBareChar .generic (h.2 c hc)
  simp [Piece.continuesWord_of_isBlank hb] at hcontinues

theorem continuesWord_of_isSeam (d : Dialect) {c : Char} (h : isSeam c) :
    Piece.continuesWord d c = false := by
  simp only [isSeam, Bool.or_eq_true, decide_eq_true_eq] at h
  rcases h with ((((h | rfl) | rfl) | rfl) | rfl) | rfl
  · exact Piece.continuesWord_of_isBlank h
  all_goals cases d <;> decide

theorem continuesNumber_of_isSeam {c : Char} (h : isSeam c) : Piece.continuesNumber c = false := by
  simp only [isSeam, Bool.or_eq_true, decide_eq_true_eq] at h
  rcases h with ((((h | rfl) | rfl) | rfl) | rfl) | rfl
  · exact Piece.continuesNumber_of_isBlank h
  all_goals rfl

theorem ne_of_isSeam {c x : Char} (h : isSeam c) (hx : isSeam x = false) :
    some c ≠ some x := by
  simpa using Text.ne_of_class h hx

theorem lexeme_word (d : Dialect) {word : String} (h : isBare word.toList) {next : Char}
    (hn : isSeam next) : Piece.Lexeme d ⟨.token (.word word), word.toList⟩ (some next) := by
  obtain ⟨c, cs, heq, hc, hcs⟩ := isBare_cons h
  obtain rfl : word = String.ofList (c :: cs) := by rw [← heq, String.ofList_toList]
  rw [String.toList_ofList]
  refine .word (opensWord_of_isAlpha hc)
    (fun x hx => continuesWord_of_isBareChar d (hcs x (by simp [hx])))
    (by simp [continuesWord_of_isSeam d hn]) (fun _ _ => ne_of_isSeam hn rfl) fun hhash => ?_
  obtain ⟨rfl, -⟩ := hhash
  rcases hc with hc | hc
  · exact absurd hc (by decide)
  · simp at hc

theorem lexeme_namePiece (d : Dialect) (name : String) {next : Char} (hn : isSeam next) :
    Piece.Lexeme d (namePiece name) (some next) := by
  unfold namePiece nameKind quote
  split
  · next h => exact lexeme_word d h hn
  · have hdouble : .double ∈ d.quoteStyles := by cases d <;> simp [Dialect.quoteStyles]
    have key := Piece.Lexeme.quoted (d := d) hdouble
      (QuoteStyle.doubled_isDoubled '"' name.toList) (by simp) (ne_of_isSeam hn rfl)
    rw [show QuoteStyle.closing .double = '"' from rfl, QuoteStyle.undouble_doubled,
      String.ofList_toList] at key
    rw [String.toList_ofList]
    exact key

theorem name?_nameKind (name : String) (start stop : Nat) :
    Token.name? ⟨nameKind name, start, stop⟩ = some name := by
  unfold nameKind
  split <;> rfl

/-- The line in which a name ends is not blank. -/
theorem lineState?_quote {name : String} (h : Text.HasNoBlankLine name.toList) (blank : Bool) :
    Text.lineState? blank (quote name).toList = some false := by
  unfold quote
  split
  · next hbare =>
    obtain ⟨c, cs, heq, hc, hcs⟩ := isBare_cons hbare
    rw [heq]
    refine Text.lineState?_of_word (c := c) (fun hm => ?_) (by simp)
      (Piece.isBlank_of_opensWord (opensWord_of_isAlpha hc)) blank
    have := continuesWord_of_isBareChar .generic (hcs _ hm)
    simp [Piece.continuesWord_of_isBlank (c := '\n') rfl] at this
  · obtain ⟨b, hb⟩ := Option.isSome_iff_exists.1 h
    have hquote : Text.isBlank '"' = false := by rfl
    rw [String.toList_ofList, QuoteStyle.enclose, List.cons_append, Text.lineState?,
      if_neg (by decide), Text.lineState?_append, show QuoteStyle.opening .double = '"' from rfl,
      show QuoteStyle.closing .double = '"' from rfl, hquote, Bool.and_false,
      QuoteStyle.lineState?_doubled hquote, hb]
    simp [Text.lineState?, hquote]

theorem mem_quote {name : String} {c : Char} (h : c ∈ (quote name).toList) :
    c = '"' ∨ c ∈ name.toList := by
  unfold quote at h
  split at h
  · exact .inr h
  · rw [String.toList_ofList, QuoteStyle.enclose] at h
    simp only [List.cons_append, List.mem_cons, List.mem_append, List.not_mem_nil, or_false] at h
    rcases h with h | h | h
    · exact .inl h
    · exact .inr (QuoteStyle.mem_doubled h)
    · exact .inl h

end Ddl

end SqlSchema
