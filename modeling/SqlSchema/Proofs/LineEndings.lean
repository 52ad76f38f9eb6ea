import SqlSchema.Proofs.Packing
/-!
# Line endings

A script keeps its lines that are not blank when it is normalized, and nothing else. It makes no difference
how the lines are ended and which blank lines stand between them.
-/
namespace SqlSchema.Text

/-- The ways to end a line. -/
inductive LineEnding
  | lineFeed
  | carriageReturn
  | both
deriving DecidableEq, Repr

def LineEnding.text : LineEnding → String
  | lineFeed => "\n"
  | carriageReturn => "\r"
  | both => "\r\n"

/-- A text without line breaks. -/
def IsUnbroken (s : String) : Prop := '\r' ∉ s.toList ∧ '\n' ∉ s.toList

/-- The text of lines that are ended one by one. -/
def endedLines (lines : List (String × LineEnding)) : String :=
  String.join (lines.map fun line => line.1 ++ line.2.text)

/-- The lines that do not consist of blanks only. -/
def solidLines (lines : List (String × LineEnding)) : List String :=
  (lines.map (·.1)).filter fun line => line.toList.any fun c => !isBlank c

/-- A text with line feeds as its only line breaks, without blank lines and without blanks at either end. -/
structure IsNormalized (s : String) : Prop where
  noReturn : '\r' ∉ s.toList
  noBlankLine : s ≠ "" → ∀ line ∈ s.toList.splitOn '\n', ∃ c ∈ line, isBlank c = false
  firstNotBlank : ∀ c ∈ s.toList.head?, isBlank c = false
  lastNotBlank : ∀ c ∈ s.toList.getLast?, isBlank c = false

section Lines

theorem textLines_of_not_mem {cs : List Char} (h : '\n' ∉ cs) :
    textLines cs = if isBlankLine cs then [] else [cs] := by
  rw [textLines, List.splitOn_eq_singleton h]
  by_cases hblank : isBlankLine cs <;> simp [hblank]

/-- An ended line is followed by a line feed and the lines of the rest. A carriage return that is read
together with the line feed behind it is followed by one line less, which is empty. -/
theorem exists_unifyBreaks_ending (ending : LineEnding) (rest : List Char) :
    ∃ more, unifyBreaks (ending.text.toList ++ rest) = '\n' :: more ∧
      textLines more = textLines (unifyBreaks rest) := by
  have hfeed : ∀ more, unifyBreaks ('\n' :: more) = '\n' :: unifyBreaks more := by
    have hfree : '\r' ∉ ['\n'] := by decide
    exact unifyBreaks_unbroken hfree
  cases ending with
  | lineFeed => exact ⟨unifyBreaks rest, hfeed rest, rfl⟩
  | both => exact ⟨unifyBreaks rest, rfl, rfl⟩
  | carriageReturn =>
    by_cases hrest : ∃ more, rest = '\n' :: more
    · obtain ⟨more, rfl⟩ := hrest
      have hblank : textLines (unifyBreaks ('\n' :: more)) = textLines (unifyBreaks more) := by
        rw [hfeed]
        exact textLines_append [] (unifyBreaks more)
      exact ⟨unifyBreaks more, rfl, hblank.symm⟩
    · refine ⟨unifyBreaks rest, ?_, rfl⟩
      have hreturn : unifyBreaks ('\r' :: rest) = '\n' :: unifyBreaks rest := by
        rw [unifyBreaks, if_pos rfl]
        intro more _ hmore
        exact hrest ⟨more, hmore⟩
      exact hreturn

theorem textLines_ended {cs : List Char} (hreturn : '\r' ∉ cs) (ending : LineEnding) (rest : List Char) :
    textLines (unifyBreaks (cs ++ (ending.text.toList ++ rest))) =
      textLines cs ++ textLines (unifyBreaks rest) := by
  obtain ⟨more, hbreaks, hlines⟩ := exists_unifyBreaks_ending ending rest
  rw [unifyBreaks_unbroken hreturn, hbreaks, textLines_append, hlines]

theorem textLines_endedLines {lines : List (String × LineEnding)} (h : ∀ line ∈ lines, IsUnbroken line.1) :
    textLines (unifyBreaks (endedLines lines).toList) = (solidLines lines).map String.toList := by
  induction lines with
  | nil => rfl
  | cons line lines ih =>
    obtain ⟨hreturn, hbreak⟩ := h line List.mem_cons_self
    have hrest := ih fun next hnext => h next (List.mem_cons_of_mem line hnext)
    have hchars : (endedLines (line :: lines)).toList =
        line.1.toList ++ (line.2.text.toList ++ (endedLines lines).toList) := by
      simp [endedLines, String.toList_join]
    rw [hchars, textLines_ended hreturn, hrest, textLines_of_not_mem hbreak]
    by_cases hblank : isBlankLine line.1.toList
    · have hdropped : solidLines (line :: lines) = solidLines lines :=
        List.filter_cons_of_neg (by simpa [isBlankLine] using hblank)
      simp [hblank, hdropped]
    · have hkept : solidLines (line :: lines) = line.1 :: solidLines lines :=
        List.filter_cons_of_pos (by simpa [isBlankLine] using hblank)
      simp [hblank, hkept]

end Lines

section Normalized

variable {lines : List (String × LineEnding)}

theorem normalize_eq_trim (h : ∀ line ∈ lines, IsUnbroken line.1) :
    normalize (endedLines lines) = String.ofList (trim ("\n".intercalate (solidLines lines)).toList) := by
  have hchars : ("\n".intercalate (solidLines lines)).toList =
      ['\n'].intercalate ((solidLines lines).map String.toList) :=
    String.toList_intercalate
  rw [hchars, ← textLines_endedLines h]
  rfl

theorem toList_normalize (s : String) : (normalize s).toList = normalizeChars s.toList :=
  String.toList_ofList

theorem isNormalized_normalize (s : String) : IsNormalized (normalize s) := by
  obtain ⟨hfirst, hlast⟩ := ends_normalizeChars s.toList
  constructor
  · rw [toList_normalize]
    exact not_mem_normalizeChars s.toList
  · intro hne line hline
    rw [Ne, ← String.toList_eq_nil_iff, toList_normalize] at hne
    rw [toList_normalize, ← textLines_eq (lineState?_normalizeChars hne)] at hline
    simpa [isBlankLine] using (List.mem_filter.1 hline).2
  · intro c hc
    rw [toList_normalize] at hc
    rw [Option.mem_def.1 hc] at hfirst
    simpa using hfirst
  · intro c hc
    rw [toList_normalize] at hc
    rw [Option.mem_def.1 hc] at hlast
    simpa using hlast

theorem normalize_normalize (s : String) : normalize (normalize s) = normalize s := by
  rw [normalize, toList_normalize, normalizeChars_normalizeChars, normalize]

/-- What is left of a script are its lines that are not blank, joined by line feeds and trimmed. So two
scripts with the same such lines are the same to a reader. What is left has carriage returns, blank lines
and blanks at its ends no longer, and is not changed once more. -/
theorem normalize_endedLines (h : ∀ line ∈ lines, IsUnbroken line.1) :
    normalize (endedLines lines) = String.ofList (trim ("\n".intercalate (solidLines lines)).toList) ∧
      (∀ others, (∀ line ∈ others, IsUnbroken line.1) → solidLines others = solidLines lines →
        normalize (endedLines others) = normalize (endedLines lines)) ∧
      ∀ s, normalize (normalize s) = normalize s ∧ IsNormalized (normalize s) := by
  refine ⟨normalize_eq_trim h, ?_, ?_⟩
  · intro others hothers heq
    rw [normalize_eq_trim h, normalize_eq_trim hothers, heq]
  · intro s
    exact ⟨normalize_normalize s, isNormalized_normalize s⟩

/-- A carriage return in front of an empty line that a line feed ends, and lines of other blanks. -/
def mixedLines : List (String × LineEnding) :=
  [("\t", .both), ("  a ", .carriageReturn), ("", .lineFeed), ("\u00a0\u2003", .carriageReturn),
    ("b", .both), ("c\u3000", .lineFeed), (" ", .carriageReturn)]

theorem normalize_mixedLines :
    (∀ line ∈ mixedLines, IsUnbroken line.1) ∧ normalize (endedLines mixedLines) = "a \nb\nc" := by
  have hlines : ∀ line ∈ mixedLines, IsUnbroken line.1 := by
    unfold IsUnbroken
    decide
  have htrim : trim ("\n".intercalate (solidLines mixedLines)).toList = "a \nb\nc".toList := by
    decide
  refine ⟨hlines, ?_⟩
  rw [(normalize_endedLines hlines).1, htrim, String.ofList_toList]

end Normalized

end SqlSchema.Text
