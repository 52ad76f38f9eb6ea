import SqlSchema.Proofs.CharClasses
import SqlSchema.Text.Words
/-!
# Normalized texts

A normalized text has no carriage returns and no blank lines. A text of that kind loses nothing when it
is normalized, and joined by blank lines such texts lose the blank lines only.
-/
namespace SqlSchema.Text

/-- Whether the last line of a text is blank so far, given the same of the line it starts in. There is
no answer if another line of it is blank. -/
def lineState? (blank : Bool) : List Char → Option Bool
  | [] => some blank
  | c :: cs =>
    if c = '\n' then if blank then none else lineState? true cs
    else lineState? (blank && isBlank c) cs

/-- No line is blank between two line breaks of the text. -/
def HasNoBlankLine (cs : List Char) : Prop := (lineState? false cs).isSome

theorem lineState?_append (blank : Bool) (xs ys : List Char) :
    lineState? blank (xs ++ ys) = (lineState? blank xs).bind fun b => lineState? b ys := by
  induction xs generalizing blank with
  | nil => rfl
  | cons x xs ih =>
    simp only [List.cons_append, lineState?]
    split
    · split
      · rfl
      · exact ih true
    · exact ih _

theorem lineState?_of_not_mem {cs : List Char} (h : '\n' ∉ cs) (blank : Bool) :
    lineState? blank cs = some (blank && cs.all isBlank) := by
  induction cs generalizing blank with
  | nil => simp [lineState?]
  | cons c cs ih =>
    have hc : c ≠ '\n' := fun hc => h (by simp [hc])
    rw [lineState?, if_neg hc, ih fun hm => h (List.mem_cons_of_mem _ hm), List.all_cons,
      Bool.and_assoc]

theorem lineState?_of_word {cs : List Char} {c : Char} (h : '\n' ∉ cs) (hc : c ∈ cs)
    (hb : isBlank c = false) (blank : Bool) : lineState? blank cs = some false := by
  have hall : cs.all isBlank = false := List.all_eq_false.2 ⟨c, hc, by simp [hb]⟩
  rw [lineState?_of_not_mem h, hall, Bool.and_false]

theorem lineState?_false {cs : List Char} (h : (lineState? true cs).isSome) : HasNoBlankLine cs := by
  unfold HasNoBlankLine
  induction cs with
  | nil => rfl
  | cons c cs ih =>
    simp only [lineState?] at h ⊢
    split at h
    · simp at h
    · next hc =>
      rw [if_neg hc]
      cases hb : isBlank c with
      | false => simpa [hb] using h
      | true => exact ih (by simpa [hb] using h)

theorem HasNoBlankLine.part (blank : Bool) (xs zs : List Char) {ys : List Char}
    (h : (lineState? blank (xs ++ ys ++ zs)).isSome) : HasNoBlankLine ys := by
  rw [lineState?_append, lineState?_append] at h
  cases hx : lineState? blank xs with
  | none => simp [hx] at h
  | some b =>
    have hy : (lineState? b ys).isSome := by
      rw [hx, Option.bind_some] at h
      exact Option.isSome_of_isSome_bind h
    cases b with
    | false => exact hy
    | true => exact lineState?_false hy

theorem hasNoBlankLine_of_not_mem {cs : List Char} (h : '\n' ∉ cs) : HasNoBlankLine cs := by
  simp [HasNoBlankLine, lineState?_of_not_mem h]

/-- The lines of a text that are not blank. -/
def textLines (cs : List Char) : List (List Char) :=
  (cs.splitOn '\n').filter fun line => !isBlankLine line

@[simp] theorem textLines_nil : textLines [] = [] := rfl

theorem textLines_append (xs ys : List Char) :
    textLines (xs ++ '\n' :: ys) = textLines xs ++ textLines ys := by
  simp [textLines, List.splitOn_append_cons_self]

private theorem lines_of_lineState? {blank : Bool} {cs : List Char} (h : lineState? blank cs = some false) :
    ∃ first rest, cs.splitOn '\n' = first :: rest ∧ (blank → isBlankLine first = false) ∧
      ∀ line ∈ rest, isBlankLine line = false := by
  induction cs generalizing blank with
  | nil =>
    obtain rfl : blank = false := by simpa [lineState?] using h
    exact ⟨[], [], rfl, by simp, by simp⟩
  | cons c cs ih =>
    rw [List.splitOn_cons_eq_if_modifyHead]
    simp only [lineState?] at h
    split at h
    · next hc =>
      split at h
      · simp at h
      · next hb =>
        obtain ⟨first, rest, heq, hfirst, hrest⟩ := ih h
        refine ⟨[], first :: rest, by simp [hc, heq], by simp [hb], fun line hline => ?_⟩
        rcases List.mem_cons.1 hline with rfl | hline
        · exact hfirst rfl
        · exact hrest line hline
    · next hc =>
      obtain ⟨first, rest, heq, hfirst, hrest⟩ := ih h
      refine ⟨c :: first, rest, by simp [hc, heq], fun hb => ?_, hrest⟩
      cases hblank : isBlank c with
      | false => simp [isBlankLine, hblank]
      | true =>
        have := hfirst (by simp [hb, hblank])
        simpa [isBlankLine, hblank] using this

theorem textLines_eq {cs : List Char} (h : lineState? true cs = some false) :
    textLines cs = cs.splitOn '\n' := by
  obtain ⟨first, rest, heq, hfirst, hrest⟩ := lines_of_lineState? h
  rw [textLines, List.filter_eq_self, heq]
  intro line hline
  rcases List.mem_cons.1 hline with rfl | hline
  · simp [hfirst rfl]
  · simp [hrest line hline]

theorem intercalate_append {α : Type} (sep : List α) {xss yss : List (List α)} (hx : xss ≠ [])
    (hy : yss ≠ []) :
    sep.intercalate (xss ++ yss) = sep.intercalate xss ++ sep ++ sep.intercalate yss := by
  induction xss with
  | nil => exact absurd rfl hx
  | cons xs xss ih =>
    cases xss with
    | nil =>
      obtain ⟨ys, yss, rfl⟩ := List.exists_cons_of_ne_nil hy
      simp [List.intercalate_cons_cons]
    | cons xs' xss =>
      have := ih (by simp)
      simp only [List.cons_append, List.intercalate_cons_cons] at this ⊢
      rw [this]
      simp

theorem intercalate_flatMap {α β : Type} (sep : List α) {f : β → List (List α)} {xs : List β}
    (hf : ∀ x ∈ xs, f x ≠ []) :
    sep.intercalate (xs.flatMap f) = sep.intercalate (xs.map fun x => sep.intercalate (f x)) := by
  induction xs with
  | nil => rfl
  | cons x xs ih =>
    cases xs with
    | nil => simp
    | cons y xs =>
      have hne : (y :: xs).flatMap f ≠ [] := by simp [hf y (by simp)]
      rw [List.flatMap_cons, intercalate_append _ (hf x (by simp)) hne,
        ih fun z hz => hf z (by simp [hz])]
      simp only [List.map_cons, List.intercalate_cons_cons]

theorem intercalate_concat {α : Type} (sep : List α) (xss : List (List α)) (xs : List α) :
    sep.intercalate (xss ++ [xs]) = (xss.flatMap (· ++ sep)) ++ xs := by
  induction xss with
  | nil => simp
  | cons ys xss ih =>
    rw [List.cons_append, List.intercalate_cons_of_ne_nil (by simp), ih]
    simp

/-- The lines of a joined text are those of its parts. -/
theorem textLines_intercalate (parts : List (List Char)) :
    textLines (['\n'].intercalate parts) = parts.flatMap textLines := by
  induction parts with
  | nil => rfl
  | cons part parts ih =>
    cases parts with
    | nil => simp
    | cons next parts =>
      rw [List.intercalate_cons_cons, List.append_assoc, List.singleton_append, textLines_append, ih]
      rfl

theorem unifyBreaks_eq_self {cs : List Char} (h : '\r' ∉ cs) : unifyBreaks cs = cs := by
  fun_induction unifyBreaks cs with
  | case1 => rfl
  | case2 => simp at h
  | case3 c rest hc ih =>
    have hne : c ≠ '\r' := fun hr => h (by simp [hr])
    rw [if_neg hne, ih fun hm => h (List.mem_cons_of_mem _ hm)]

theorem not_mem_unifyBreaks (cs : List Char) : '\r' ∉ unifyBreaks cs := by
  fun_induction unifyBreaks cs with
  | case1 => simp
  | case2 rest ih => simpa using ih
  | case3 c rest hc ih =>
    rw [List.mem_cons, not_or]
    refine ⟨?_, ih⟩
    split
    · simp
    · next h => exact fun he => h he.symm

theorem mem_unifyBreaks {cs : List Char} {c : Char} (h : c ∈ unifyBreaks cs) : c = '\n' ∨ c ∈ cs := by
  fun_induction unifyBreaks cs with
  | case1 => simp at h
  | case2 rest ih =>
    rcases List.mem_cons.1 h with rfl | h
    · exact .inl rfl
    · exact (ih h).imp_right fun hc => by simp [hc]
  | case3 x rest hx ih =>
    rcases List.mem_cons.1 h with rfl | h
    · split
      · exact .inl rfl
      · exact .inr List.mem_cons_self
    · exact (ih h).imp_right (List.mem_cons_of_mem x)

theorem trim_eq_self {cs : List Char} (hfirst : cs.head?.all fun c => !isBlank c)
    (hlast : cs.getLast?.all fun c => !isBlank c) : trim cs = cs := by
  have key {xs : List Char} (h : xs.head?.all fun c => !isBlank c) : xs.dropWhile isBlank = xs := by
    cases xs with
    | nil => rfl
    | cons x xs => simp_all
  rw [trim, key hfirst, key (by rwa [List.head?_reverse]), List.reverse_reverse]

theorem trim_isInfix (cs : List Char) : trim cs <:+: cs := by
  have hsuffix : cs.dropWhile isBlank <:+ cs := List.dropWhile_suffix _
  refine List.IsInfix.trans (List.IsPrefix.isInfix ?_) hsuffix.isInfix
  rw [trim, ← List.reverse_suffix, List.reverse_reverse]
  exact List.dropWhile_suffix _

theorem normalizeChars_eq {cs : List Char} (h : '\r' ∉ cs) :
    normalizeChars cs = trim (['\n'].intercalate (textLines cs)) := by
  rw [normalizeChars, unifyBreaks_eq_self h, textLines]

private theorem lineState?_intercalate {lines : List (List Char)} (hne : lines ≠ [])
    (hbreak : ∀ line ∈ lines, '\n' ∉ line) (hblank : ∀ line ∈ lines, isBlankLine line = false) :
    lineState? true (['\n'].intercalate lines) = some false := by
  have hline {line : List Char} (hb : '\n' ∉ line) (hl : isBlankLine line = false) (b : Bool) :
      lineState? b line = some false := by
    rw [lineState?_of_not_mem hb, show line.all isBlank = false from hl, Bool.and_false]
  induction lines with
  | nil => exact absurd rfl hne
  | cons line lines ih =>
    have hfirst := hline (hbreak line (by simp)) (hblank line (by simp)) true
    cases lines with
    | nil => simpa using hfirst
    | cons next lines =>
      rw [List.intercalate_cons_cons, List.append_assoc, lineState?_append, hfirst]
      exact ih (by simp) (fun l hl => hbreak l (by simp [hl])) fun l hl => hblank l (by simp [hl])

private theorem line_of_mem_splitOn {cs line : List Char} (h : line ∈ cs.splitOn '\n') :
    '\n' ∉ line ∧ line ⊆ cs := by
  induction cs generalizing line with
  | nil => simp_all
  | cons c cs ih =>
    rw [List.splitOn_cons_eq_if_modifyHead] at h
    split at h
    · rcases List.mem_cons.1 h with rfl | h
      · simp
      · exact ⟨(ih h).1, fun x hx => List.mem_cons_of_mem c ((ih h).2 hx)⟩
    · next hc =>
      obtain ⟨first, rest, heq⟩ := List.exists_cons_of_ne_nil (List.splitOn_ne_nil '\n' cs)
      rw [heq] at h ih
      rcases List.mem_cons.1 h with rfl | h
      · have hne : '\n' ≠ c := fun he => hc (by simp [← he])
        obtain ⟨hbreak, hsub⟩ := ih List.mem_cons_self
        exact ⟨by simp [hne, hbreak], List.cons_subset_cons c hsub⟩
      · obtain ⟨hbreak, hsub⟩ := ih (List.mem_cons_of_mem _ h)
        exact ⟨hbreak, fun x hx => List.mem_cons_of_mem c (hsub hx)⟩

theorem mem_intercalate {sep : List Char} {parts : List (List Char)} {c : Char}
    (h : c ∈ sep.intercalate parts) : c ∈ sep ∨ ∃ part ∈ parts, c ∈ part := by
  induction parts with
  | nil => simp at h
  | cons part parts ih =>
    cases parts with
    | nil => exact .inr ⟨part, by simp, by simpa using h⟩
    | cons next parts =>
      rw [List.intercalate_cons_cons, List.mem_append, List.mem_append] at h
      rcases h with (h | h) | h
      · exact .inr ⟨part, by simp, h⟩
      · exact .inl h
      · rcases ih h with h | ⟨q, hq, hc⟩
        · exact .inl h
        · exact .inr ⟨q, by simp [hq], hc⟩

theorem hasNoBlankLine_normalizeChars (cs : List Char) : HasNoBlankLine (normalizeChars cs) := by
  obtain ⟨before, after, heq⟩ := trim_isInfix (['\n'].intercalate (textLines (unifyBreaks cs)))
  by_cases hne : textLines (unifyBreaks cs) = []
  · rw [normalizeChars, ← textLines, hne]
    exact hasNoBlankLine_of_not_mem (by simp [trim])
  · have hstate := lineState?_intercalate hne
      (fun line hline => (line_of_mem_splitOn (List.mem_filter.1 hline).1).1)
      fun line hline => by simpa using (List.mem_filter.1 hline).2
    refine HasNoBlankLine.part true before after ?_
    rw [show normalizeChars cs = trim (['\n'].intercalate (textLines (unifyBreaks cs))) from rfl, heq,
      hstate]
    rfl

theorem not_mem_normalizeChars (cs : List Char) : '\r' ∉ normalizeChars cs := by
  intro h
  rcases mem_intercalate ((trim_isInfix _).subset h) with h | ⟨line, hline, hc⟩
  · simp at h
  · exact not_mem_unifyBreaks cs ((line_of_mem_splitOn (List.mem_filter.1 hline).1).2 hc)

theorem mem_normalizeChars {cs : List Char} {c : Char} (h : c ∈ normalizeChars cs) :
    c = '\n' ∨ c ∈ cs := by
  rcases mem_intercalate ((trim_isInfix _).subset h) with h | ⟨line, hline, hc⟩
  · exact .inl (List.mem_singleton.1 h)
  · exact mem_unifyBreaks ((line_of_mem_splitOn (List.mem_filter.1 hline).1).2 hc)

section Joined

private theorem head?_dropWhile_isBlank (cs : List Char) :
    (cs.dropWhile isBlank).head?.all fun c => !isBlank c := by
  induction cs with
  | nil => rfl
  | cons c cs ih =>
    rw [List.dropWhile_cons]
    split
    · exact ih
    · next h => simpa using h

theorem ends_trim (cs : List Char) :
    ((trim cs).head?.all fun c => !isBlank c) ∧ (trim cs).getLast?.all fun c => !isBlank c := by
  have hlast := head?_dropWhile_isBlank (cs.dropWhile isBlank).reverse
  have hpart : trim cs <+: cs.dropWhile isBlank := by
    rw [trim, ← List.reverse_suffix, List.reverse_reverse]
    exact List.dropWhile_suffix _
  constructor
  · obtain ⟨after, hafter⟩ := hpart
    have hfirst := head?_dropWhile_isBlank cs
    rw [← hafter, List.head?_append] at hfirst
    cases h : (trim cs).head? with
    | none => rfl
    | some c => simpa [h] using hfirst
  · rwa [trim, List.getLast?_reverse]

theorem ends_normalizeChars (cs : List Char) :
    ((normalizeChars cs).head?.all fun c => !isBlank c) ∧
      (normalizeChars cs).getLast?.all fun c => !isBlank c :=
  ends_trim _

/-- A text without blank lines that has no blanks at either end begins and ends in lines that are not
blank. -/
theorem lineState?_of_ends {cs : List Char} (h : HasNoBlankLine cs) (hne : cs ≠ [])
    (hfirst : cs.head?.all fun c => !isBlank c) (hlast : cs.getLast?.all fun c => !isBlank c) :
    lineState? true cs = some false := by
  have hsome : (lineState? false cs).isSome := h
  have hstart : lineState? true cs = lineState? false cs := by
    cases cs with
    | nil => exact absurd rfl hne
    | cons c cs =>
      have hc : isBlank c = false := by simpa using hfirst
      have hbreak : c ≠ '\n' := by
        rintro rfl
        exact absurd hc (by decide)
      simp [lineState?, hbreak, hc]
  obtain ⟨front, c, rfl⟩ : ∃ front c, cs = front ++ [c] :=
    ⟨_, _, (List.dropLast_concat_getLast hne).symm⟩
  have hc : isBlank c = false := by simpa using hlast
  have hbreak : c ≠ '\n' := by
    rintro rfl
    exact absurd hc (by decide)
  rw [hstart, lineState?_append]
  rw [lineState?_append] at hsome
  cases hfront : lineState? false front with
  | none => simp [hfront] at hsome
  | some b => simp [lineState?, hbreak, hc]

/-- A text loses nothing if it begins and ends in lines that are not blank, has no blank line between them
and no blanks at either end. -/
theorem trim_textLines {cs : List Char} (h : lineState? true cs = some false)
    (hfirst : cs.head?.all fun c => !isBlank c) (hlast : cs.getLast?.all fun c => !isBlank c) :
    trim (['\n'].intercalate (textLines cs)) = cs := by
  rw [textLines_eq h, List.intercalate_splitOn, trim_eq_self hfirst hlast]

theorem lineState?_normalizeChars {cs : List Char} (hne : normalizeChars cs ≠ []) :
    lineState? true (normalizeChars cs) = some false := by
  obtain ⟨hfirst, hlast⟩ := ends_normalizeChars cs
  exact lineState?_of_ends (hasNoBlankLine_normalizeChars cs) hne hfirst hlast

theorem normalizeChars_normalizeChars (cs : List Char) :
    normalizeChars (normalizeChars cs) = normalizeChars cs := by
  by_cases hne : normalizeChars cs = []
  · rw [hne]
    rfl
  · obtain ⟨hfirst, hlast⟩ := ends_normalizeChars cs
    rw [normalizeChars_eq (not_mem_normalizeChars cs),
      trim_textLines (lineState?_normalizeChars hne) hfirst hlast]

theorem normalizeChars_join {xs ys : List Char} (hx : normalizeChars xs = xs)
    (hy : normalizeChars ys = ys) (hxne : xs ≠ []) (hyne : ys ≠ []) :
    normalizeChars (xs ++ '\n' :: ys) = xs ++ '\n' :: ys := by
  have hstate {cs : List Char} (h : normalizeChars cs = cs) (hne : cs ≠ []) :
      lineState? true cs = some false := by
    rw [← h] at hne ⊢
    exact lineState?_normalizeChars hne
  have hxr := not_mem_normalizeChars xs
  have hyr := not_mem_normalizeChars ys
  have hfirst := (ends_normalizeChars xs).1
  have hlast := (ends_normalizeChars ys).2
  rw [hx] at hxr hfirst
  rw [hy] at hyr hlast
  have hboth : lineState? true (xs ++ '\n' :: ys) = some false := by
    rw [lineState?_append, hstate hx hxne]
    exact hstate hy hyne
  have hreturn : '\r' ∉ xs ++ '\n' :: ys := by
    simp [hxr, hyr]
  rw [normalizeChars_eq hreturn, trim_textLines hboth]
  · obtain ⟨x, xs, rfl⟩ := List.exists_cons_of_ne_nil hxne
    exact hfirst
  · obtain ⟨front, y, rfl⟩ : ∃ front y, ys = front ++ [y] :=
      ⟨_, _, (List.dropLast_concat_getLast hyne).symm⟩
    rw [← List.cons_append, ← List.append_assoc, List.getLast?_concat]
    rwa [List.getLast?_concat] at hlast

end Joined

end SqlSchema.Text

namespace SqlSchema

theorem splitOn_lines {lines : List (List Char)} (h : ∀ line ∈ lines, '\n' ∉ line) :
    (lines.flatMap (· ++ ['\n'])).splitOn '\n' = lines ++ [[]] := by
  induction lines with
  | nil => rfl
  | cons line lines ih =>
    have hrest := ih fun next hnext => h next (List.mem_cons_of_mem line hnext)
    rw [List.flatMap_cons, List.append_assoc, List.singleton_append,
      List.splitOn_append_cons_self_of_not_mem (h line List.mem_cons_self), hrest]
    rfl

end SqlSchema
