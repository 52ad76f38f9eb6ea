import SqlSchema.Token.Piece
/-!
# Disjoint character classes

Blanks, digits, letters and the signs of the grammar exclude each other, so the first character of a
piece decides of what kind it is.
-/
namespace SqlSchema

namespace Text

private theorem exists_range_of_inRanges {n : Nat} {rs : List (Nat × Nat)} (h : inRanges n rs) :
    ∃ r ∈ rs, r.1 ≤ n ∧ n ≤ r.2 := by
  induction rs with
  | nil => simp [inRanges] at h
  | cons r rs ih =>
    by_cases hlo : n < r.1
    · simp [inRanges, hlo] at h
    · simp only [inRanges, hlo, if_false, Bool.or_eq_true, decide_eq_true_eq] at h
      rcases h with h | h
      · exact ⟨r, by simp, by omega, h⟩
      · obtain ⟨r', hr', hn⟩ := ih h
        exact ⟨r', by simp [hr'], hn⟩

private theorem forall_inRanges {rs : List (Nat × Nat)} {p : Nat → Bool}
    (h : ∀ r ∈ rs, ∀ n ∈ List.range' r.1 (r.2 + 1 - r.1), p n) {n : Nat} (hn : inRanges n rs) :
    p n := by
  obtain ⟨r, hr, hlo, hhi⟩ := exists_range_of_inRanges hn
  exact h r hr n (List.mem_range'_1.2 ⟨hlo, by omega⟩)

theorem isLetterOrNumber_of_isBlank {c : Char} (h : isBlank c) : isLetterOrNumber c = false := by
  have key : !(inRanges c.toNat letterRanges || inRanges c.toNat numberRanges) :=
    forall_inRanges (p := fun n => !(inRanges n letterRanges || inRanges n numberRanges))
      (by decide +kernel) h
  simpa only [Bool.not_eq_true', isLetterOrNumber, isLetter, isNumber] using key

theorem isDigit_toNat {c : Char} (h : c.isDigit) : c.toNat ∈ List.range' 48 10 := by
  simp only [Char.isDigit, Bool.and_eq_true, decide_eq_true_eq] at h
  have h1 : 48 ≤ c.toNat := UInt32.le_iff_toNat_le.mp h.1
  have h2 : c.toNat ≤ 57 := UInt32.le_iff_toNat_le.mp h.2
  exact List.mem_range'_1.2 ⟨h1, by omega⟩

theorem isLetter_of_isDigit {c : Char} (h : c.isDigit) : isLetter c = false := by
  have key : ∀ n ∈ List.range' 48 10, inRanges n letterRanges = false := by decide
  exact key _ (isDigit_toNat h)

theorem isBlank_of_isDigit {c : Char} (h : c.isDigit) : isBlank c = false := by
  have key : ∀ n ∈ List.range' 48 10, inRanges n blankRanges = false := by decide
  exact key _ (isDigit_toNat h)

theorem ne_of_class {p : Char → Bool} {c d : Char} (hc : p c) (hd : p d = false) : c ≠ d := by
  rintro rfl
  simp [hc] at hd

end Text

namespace Piece

theorem continuesWord_of_isBlank {d : Dialect} {c : Char} (h : Text.isBlank c) :
    continuesWord d c = false := by
  simp [continuesWord, Text.isLetterOrNumber_of_isBlank h, Text.ne_of_class h (d := '_') (by rfl),
    Text.ne_of_class h (d := '$') (by rfl), Text.ne_of_class h (d := '#') (by rfl)]

theorem continuesNumber_of_isBlank {c : Char} (h : Text.isBlank c) : continuesNumber c = false := by
  have hdigit : c.isDigit = false := by
    refine Bool.eq_false_iff.2 fun hd => ?_
    simp [Text.isBlank_of_isDigit hd] at h
  simp [continuesNumber, hdigit, Text.ne_of_class h (d := '.') (by rfl)]

theorem punctuation?_of_isBlank {c : Char} (h : Text.isBlank c) : punctuation? c = none := by
  simp [punctuation?, Text.ne_of_class h (d := '(') (by rfl), Text.ne_of_class h (d := ')') (by rfl),
    Text.ne_of_class h (d := ',') (by rfl), Text.ne_of_class h (d := ';') (by rfl),
    Text.ne_of_class h (d := '.') (by rfl), Text.ne_of_class h (d := '[') (by rfl),
    Text.ne_of_class h (d := ']') (by rfl)]

theorem isBlank_of_opensWord {c : Char} (h : opensWord c) : Text.isBlank c = false := by
  refine Bool.eq_false_iff.2 fun hb => ?_
  have hl := Text.isLetterOrNumber_of_isBlank hb
  simp only [Text.isLetterOrNumber, Bool.or_eq_false_iff] at hl
  simp [opensWord, hl.1, Text.ne_of_class hb (d := '_') (by rfl),
    Text.ne_of_class hb (d := '#') (by rfl)] at h

private theorem not_isBlank {c : Char} {p : Char → Bool} (hp : ∀ x, Text.isBlank x → p x = false) (h : p c) :
    Text.isBlank c = false := by
  refine Bool.eq_false_iff.2 fun hb => ?_
  simp [hp c hb] at h

theorem isBlank_of_punctuation? {c : Char} {kind : TokenKind} (h : punctuation? c = some kind) :
    Text.isBlank c = false :=
  not_isBlank (p := fun x => (punctuation? x).isSome) (fun x hx => by simp [punctuation?_of_isBlank hx])
    (by simp [h])

theorem isBlank_of_mem_number {c : Char} {cs : List Char} (hc : c.isDigit)
    (hcs : ∀ x ∈ cs, continuesNumber x) : ∀ x ∈ c :: cs, Text.isBlank x = false := by
  intro x hx
  rcases List.mem_cons.1 hx with rfl | hx
  · exact Text.isBlank_of_isDigit hc
  · exact not_isBlank (fun _ => continuesNumber_of_isBlank) (hcs x hx)

theorem isBlank_of_mem_word {d : Dialect} {c : Char} {cs : List Char} (hc : opensWord c)
    (hcs : ∀ x ∈ cs, continuesWord d x) : ∀ x ∈ c :: cs, Text.isBlank x = false := by
  intro x hx
  rcases List.mem_cons.1 hx with rfl | hx
  · exact isBlank_of_opensWord hc
  · exact not_isBlank (fun _ => continuesWord_of_isBlank) (hcs x hx)

theorem isDigit_of_opensWord {c : Char} (h : opensWord c) : c.isDigit = false := by
  refine Bool.eq_false_iff.2 fun hd => ?_
  have hu : c ≠ '_' := Text.ne_of_class hd (by rfl)
  have hh : c ≠ '#' := Text.ne_of_class hd (by rfl)
  simp [opensWord, Text.isLetter_of_isDigit hd, hu, hh] at h

theorem punctuation?_of_opensWord {c : Char} (h : opensWord c) : punctuation? c = none := by
  simp [punctuation?, Text.ne_of_class h (d := '(') (by rfl), Text.ne_of_class h (d := ')') (by rfl),
    Text.ne_of_class h (d := ',') (by rfl), Text.ne_of_class h (d := ';') (by rfl),
    Text.ne_of_class h (d := '.') (by rfl), Text.ne_of_class h (d := '[') (by rfl),
    Text.ne_of_class h (d := ']') (by rfl)]

theorem punctuation?_of_isDigit {c : Char} (h : c.isDigit) : punctuation? c = none := by
  have key (x : Char) (hx : x.isDigit = false) : c ≠ x := Text.ne_of_class h hx
  simp [punctuation?, key '(' (by rfl), key ')' (by rfl), key ',' (by rfl), key ';' (by rfl),
    key '.' (by rfl), key '[' (by rfl), key ']' (by rfl)]

end Piece

namespace Dialect

theorem styleOpening?_eq_none_iff {d : Dialect} {c : Char} :
    d.styleOpening? c = none ↔ ∀ q ∈ d.quoteStyles, q.opening ≠ c := by
  simp [styleOpening?, List.find?_eq_none]

theorem styleOpening?_eq_none {d : Dialect} {c : Char} (hb : c ≠ '\x60') (hk : c ≠ '[')
    (hq : c ≠ '"') : d.styleOpening? c = none := by
  rw [styleOpening?_eq_none_iff]
  intro q _
  cases q
  · exact hb.symm
  · exact hk.symm
  · exact hq.symm

theorem styleOpening?_opening {d : Dialect} {q : QuoteStyle} (h : q ∈ d.quoteStyles) :
    d.styleOpening? q.opening = some q := by
  cases d <;> cases q <;> first | rfl | simp [quoteStyles] at h

end Dialect

end SqlSchema
