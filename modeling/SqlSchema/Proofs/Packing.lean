import SqlSchema.Proofs.Normalization
/-!
# Texts inside of a script

A text inside of a script keeps its first line and its last when the script is normalized, for these are
parts of longer lines there. It loses its blank lines in between. So a script that is put together from
texts is normalized by packing each of them.
-/
namespace SqlSchema.Text

/-- Drops the blank lines between the first line and the last. What is pending is the start of a line that
is blank so far: it is kept as soon as the line turns out not to be blank, or to be the last one. -/
def packFrom (pending : List Char) : List Char → List Char
  | [] => pending
  | c :: cs =>
    if c = '\n' then packFrom ['\n'] cs
    else if pending ≠ [] ∧ isBlank c then packFrom (pending ++ [c]) cs
    else pending ++ c :: packFrom [] cs

/-- The text with line feeds as its only line breaks and without blank lines in between. -/
def packChars (cs : List Char) : List Char := packFrom [] (unifyBreaks cs)

/-- What is left of a text when a script is normalized that it stands in. -/
def packed (s : String) : String := String.ofList (packChars s.toList)

/-- Nothing, or the start of a line that is blank so far. -/
def IsPending (cs : List Char) : Prop :=
  cs = [] ∨ ∃ blanks, cs = '\n' :: blanks ∧ '\n' ∉ blanks ∧ isBlankLine blanks

section Lines

theorem isPending_break : IsPending ['\n'] := .inr ⟨[], rfl, by simp, rfl⟩

theorem IsPending.concat {pending : List Char} (h : IsPending pending) (hne : pending ≠ []) {c : Char}
    (hbreak : c ≠ '\n') (hblank : isBlank c) : IsPending (pending ++ [c]) := by
  rcases h with rfl | ⟨blanks, rfl, hn, hb⟩
  · exact absurd rfl hne
  · refine .inr ⟨blanks ++ [c], rfl, ?_, ?_⟩
    · simp [hn, hbreak.symm]
    · simpa [isBlankLine, hblank] using hb

theorem textLines_packFrom {pending : List Char} (h : IsPending pending) (front cs : List Char) :
    textLines (front ++ packFrom pending cs) = textLines (front ++ pending ++ cs) := by
  induction cs generalizing pending front with
  | nil => simp [packFrom]
  | cons c cs ih =>
    rw [packFrom]
    split
    · next hc =>
      subst hc
      rw [ih isPending_break, List.append_assoc, List.singleton_append, textLines_append, textLines_append]
      rcases h with rfl | ⟨blanks, rfl, hn, hb⟩
      · rw [List.append_nil]
      · have hnone : textLines blanks = [] := by
          rw [textLines, List.splitOn_eq_singleton hn]
          simp [hb]
        rw [textLines_append, hnone, List.append_nil]
    · next hc =>
      split
      · next hblank =>
        rw [ih (h.concat hblank.1 hc hblank.2)]
        simp
      · have hstep := ih (.inl rfl) (front ++ pending ++ [c])
        simpa using hstep

theorem hasNoBlankLine_packFrom {pending : List Char} (h : IsPending pending) (cs : List Char) :
    HasNoBlankLine (packFrom pending cs) := by
  induction cs generalizing pending with
  | nil =>
    rcases h with rfl | ⟨blanks, rfl, hn, -⟩
    · rfl
    · simp [packFrom, HasNoBlankLine, lineState?, lineState?_of_not_mem hn]
  | cons c cs ih =>
    rw [packFrom]
    split
    · exact ih isPending_break
    · next hc =>
      split
      · next hblank => exact ih (h.concat hblank.1 hc hblank.2)
      · next hkeep =>
        have hrest : (lineState? false (packFrom [] cs)).isSome := ih (.inl rfl)
        rcases h with rfl | ⟨blanks, rfl, hn, -⟩
        · simpa [HasNoBlankLine, lineState?, hc] using hrest
        · have hblank : isBlank c = false := by simpa using hkeep
          simpa [HasNoBlankLine, lineState?, lineState?_append, lineState?_of_not_mem hn, hc, hblank]
            using hrest

end Lines

section Joined

/-- A part of a single line, which keeps the line from being blank. -/
def isInline (cs : List Char) : Bool := !cs.contains '\n' && !cs.contains '\r' && !isBlankLine cs

variable {cs : List Char}

private theorem packFrom_append {ys zs : List Char} (h : ∀ pending, packFrom pending ys = pending ++ zs)
    (pending xs : List Char) : packFrom pending (xs ++ ys) = packFrom pending xs ++ zs := by
  induction xs generalizing pending with
  | nil => exact h pending
  | cons x xs ih =>
    simp only [List.cons_append, packFrom]
    split
    · exact ih _
    split
    · exact ih _
    · rw [ih, List.append_assoc, List.cons_append]

private theorem packFrom_unbroken (h : '\n' ∉ cs) (ys : List Char) :
    packFrom [] (cs ++ ys) = cs ++ packFrom [] ys := by
  induction cs with
  | nil => rfl
  | cons x cs ih =>
    have hx : x ≠ '\n' := fun hx => h (by simp [hx])
    have hrest := ih fun hm => h (List.mem_cons_of_mem _ hm)
    simp [packFrom, hx, hrest]

private theorem packFrom_line (h : '\n' ∉ cs) (hblank : isBlankLine cs = false)
    (pending ys : List Char) : packFrom pending (cs ++ ys) = pending ++ (cs ++ packFrom [] ys) := by
  induction cs generalizing pending with
  | nil => simp [isBlankLine] at hblank
  | cons x cs ih =>
    have hx : x ≠ '\n' := fun hx => h (by simp [hx])
    have hcs : '\n' ∉ cs := fun hm => h (List.mem_cons_of_mem _ hm)
    rw [List.cons_append, packFrom, if_neg hx]
    split
    · next hpending =>
      have hrest : isBlankLine cs = false := by simpa [isBlankLine, hpending.2] using hblank
      rw [ih hcs hrest]
      simp
    · rw [packFrom_unbroken hcs, List.cons_append]

private theorem unifyBreaks_append (xs : List Char) {ys : List Char} (h : ys.head? ≠ some '\n') :
    unifyBreaks (xs ++ ys) = unifyBreaks xs ++ unifyBreaks ys := by
  fun_induction unifyBreaks xs with
  | case1 => rfl
  | case2 rest ih => simp [unifyBreaks, ih]
  | case3 x rest hx ih =>
    rw [List.cons_append, unifyBreaks, ih, List.cons_append]
    intro more hr hmore
    cases rest with
    | nil =>
      obtain rfl : ys = '\n' :: more := hmore
      exact h rfl
    | cons y rest =>
      obtain ⟨rfl, -⟩ := List.cons.inj hmore
      exact hx rest hr rfl

theorem unifyBreaks_unbroken (h : '\r' ∉ cs) (ys : List Char) :
    unifyBreaks (cs ++ ys) = cs ++ unifyBreaks ys := by
  induction cs with
  | nil => rfl
  | cons x cs ih =>
    have hx : x ≠ '\r' := fun hx => h (by simp [hx])
    rw [List.cons_append, unifyBreaks, if_neg hx, ih fun hm => h (List.mem_cons_of_mem _ hm),
      List.cons_append]
    intro rest hr
    exact absurd hr hx

/-- What is joined by parts of single lines is packed text by text. -/
theorem packChars_append (h : isInline cs) (xs ys : List Char) :
    packChars (xs ++ cs ++ ys) = packChars xs ++ cs ++ packChars ys := by
  obtain ⟨⟨hbreak, hreturn⟩, hblank⟩ :
      ('\n' ∉ cs ∧ '\r' ∉ cs) ∧ isBlankLine cs = false := by
    simpa [isInline] using h
  have hhead : (cs ++ ys).head? ≠ some '\n' := by
    cases cs with
    | nil => simp [isBlankLine] at hblank
    | cons x cs =>
      intro hx
      obtain rfl := Option.some.inj hx
      exact hbreak List.mem_cons_self
  rw [packChars, List.append_assoc, unifyBreaks_append xs hhead, unifyBreaks_unbroken hreturn,
    packFrom_append (packFrom_line hbreak hblank · _), List.append_assoc]
  rfl

theorem packChars_intercalate (h : isInline cs) (parts : List (List Char)) :
    packChars (cs.intercalate parts) = cs.intercalate (parts.map packChars) := by
  induction parts with
  | nil => rfl
  | cons part parts ih =>
    cases parts with
    | nil => simp
    | cons next parts =>
      rw [List.intercalate_cons_cons, packChars_append h, ih]
      simp only [List.map_cons, List.intercalate_cons_cons]

@[simp] theorem packChars_nil : packChars [] = [] := rfl

theorem packChars_concat (h : isInline cs) (xs : List Char) : packChars (xs ++ cs) = packChars xs ++ cs := by
  simpa using packChars_append h xs []

theorem isInline_singleton {c : Char} (hblank : isBlank c = false) : isInline [c] := by
  have hne {x : Char} (hx : isBlank x) : x ≠ c := by
    rintro rfl
    simp [hblank] at hx
  simp [isInline, isBlankLine, hblank, hne (x := '\n') rfl, hne (x := '\r') rfl]

theorem packChars_append_of_getLast? {xs : List Char} (h : xs.getLast?.any fun c => !isBlank c)
    (ys : List Char) : packChars (xs ++ ys) = packChars xs ++ packChars ys := by
  cases hlast : xs.getLast? with
  | none => simp [hlast] at h
  | some c =>
    obtain ⟨front, rfl⟩ := List.getLast?_eq_some_iff.1 hlast
    have hc : isInline [c] := isInline_singleton (by simpa [hlast] using h)
    rw [packChars_append hc, packChars_concat hc]

end Joined

/-- A text with no blanks at its ends is normalized by packing it. -/
theorem normalizeChars_eq_packChars {cs : List Char} (hfirst : cs.head?.any fun c => !isBlank c)
    (hlast : cs.getLast?.any fun c => !isBlank c) : normalizeChars cs = packChars cs := by
  have hlines : textLines (packChars cs) = textLines (unifyBreaks cs) :=
    textLines_packFrom (.inl rfl) [] (unifyBreaks cs)
  have hstate : HasNoBlankLine (packChars cs) := hasNoBlankLine_packFrom (.inl rfl) _
  obtain ⟨x, rest, rfl⟩ : ∃ x rest, cs = x :: rest := by
    cases cs with
    | nil => simp at hfirst
    | cons x rest => exact ⟨x, rest, rfl⟩
  have hx : isBlank x = false := by simpa using hfirst
  have hhead : packChars (x :: rest) = x :: packChars rest :=
    packChars_append (isInline_singleton hx) [] rest
  have hend : (packChars (x :: rest)).getLast?.all fun c => !isBlank c := by
    obtain ⟨front, y, heq⟩ : ∃ front y, x :: rest = front ++ [y] :=
      ⟨_, _, (List.dropLast_concat_getLast (by simp)).symm⟩
    rw [heq] at hlast ⊢
    have hy : isBlank y = false := by simpa using hlast
    simp [packChars_concat (isInline_singleton hy), hy]
  have hfirst' : (packChars (x :: rest)).head?.all fun c => !isBlank c := by simp [hhead, hx]
  rw [normalizeChars, ← textLines, ← hlines]
  exact trim_textLines (lineState?_of_ends hstate (by simp [hhead]) hfirst' hend) hfirst' hend

end SqlSchema.Text
