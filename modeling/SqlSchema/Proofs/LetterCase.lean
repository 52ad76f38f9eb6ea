import SqlSchema.Proofs.Recasing
import SqlSchema.Proofs.Renaming
/-!
# The case of letters

Keywords are recognised in capitals and in small letters. So a text in small letters has the statements
of the text itself, with their names and types in small letters, and it is refused at the same place.
-/
namespace SqlSchema

/-- A change of the case of letters. -/
structure Recases (f : Char → Char) : Prop extends KeepsClass f where
  toUpper : ∀ c, (f c).toUpper = c.toUpper
  space : f ' ' = ' '

namespace Text

def recase (f : Char → Char) (s : String) : String := String.ofList (s.toList.map f)

section Collapse

variable {f : Char → Char} (hf : ∀ c, isBlank (f c) = isBlank c)

include hf

private theorem splitOnP_map (cs : List Char) :
    (cs.map f).splitOnP isBlank = (cs.splitOnP isBlank).map (List.map f) := by
  induction cs with
  | nil => rfl
  | cons c cs ih =>
    rw [List.map_cons, List.splitOnP_cons_eq_if_modifyHead, List.splitOnP_cons_eq_if_modifyHead, hf, ih]
    split
    · simp
    · obtain ⟨first, rest, heq⟩ := List.exists_cons_of_ne_nil (List.splitOnP_ne_nil isBlank cs)
      simp [heq]

theorem words_map (cs : List Char) : words (cs.map f) = (words cs).map (List.map f) := by
  rw [words, words, splitOnP_map hf, List.filter_map]
  congr 2
  funext w
  simp

theorem collapse_recase (hspace : f ' ' = ' ') (s : String) :
    collapse (recase f s) = recase f (collapse s) := by
  have hjoin (ws : List (List Char)) :
      [' '].intercalate (ws.map (List.map f)) = ([' '].intercalate ws).map f := by
    have hmap : List.map f = fun w => w.flatMap fun c => [f c] :=
      funext fun _ => List.map_eq_flatMap
    rw [hmap]
    exact (flatMap_intercalate (g := fun c => [f c]) (congrArg (fun c => [c]) hspace) ws).symm
  simp only [collapse, recase, String.toList_ofList, words_map hf, hjoin]

end Collapse

end Text

section Recase

variable {f : Char → Char}

theorem renames_mapChars (hf : ∀ c, (f c).toUpper = c.toUpper) :
    Renames (Token.mapChars f) ⟨Text.recase f, Text.recase f⟩ .id where
  role t := by
    obtain ⟨kind, start, stop⟩ := t
    cases kind <;> rfl
  isWord t keyword := by
    have hupper : Char.toUpper ∘ f = Char.toUpper := funext hf
    obtain ⟨kind, start, stop⟩ := t
    cases kind <;> simp [Token.mapChars, TokenKind.mapChars, Token.isWord, Text.isKeyword, hupper]
  name t := by
    obtain ⟨kind, start, stop⟩ := t
    cases kind <;> simp [Token.mapChars, TokenKind.mapChars, Token.name?, Text.recase]

theorem sourceText_map_mapChars (source : String) (ts : List Token) :
    sourceText source (ts.map (Token.mapChars f)) = sourceText source ts := by
  unfold sourceText
  rw [List.head?_map, List.getLast?_map]
  cases ts.head? <;> cases ts.getLast? <;> rfl

theorem readStatements_mapChars_id (source : String) (ts : List Token) :
    readStatements source (ts.map (Token.mapChars id)) = readStatements source ts := by
  have hid : Text.recase id = fun s => s := by
    funext s
    simp [Text.recase]
  have hrenames : Renames (Token.mapChars id) .id .id := by
    have h := renames_mapChars (f := id) fun _ => rfl
    rwa [hid] at h
  simpa using readStatements_map hrenames fun us _ =>
    congrArg (fun text => Text.collapse text) (sourceText_map_mapChars source us)

variable (hf : Recases f)

include hf

private theorem readStatements_mapChars (ps : List Piece) :
    readStatements (String.ofList ((rawText ps).map f)) ((tokensOf 0 ps).map (Token.mapChars f)) =
      (readStatements (String.ofList (rawText ps)) (tokensOf 0 ps)).map
        (Statement.reword ⟨Text.recase f, Text.recase f⟩) := by
  have hend (source : String) (ts : List Token) (place : Nat) :
      readStatements source (ts ++ [⟨.endOfText, place, place⟩]) = readStatements source ts := by
    rw [readStatements, splitStatements_concat_end _ rfl, readStatements]
  have htype (us : List Token) (hus : us <:+: tokensIn 0 ps) :
      Text.collapse (sourceText (String.ofList ((rawText ps).map f)) (us.map (Token.mapChars f))) =
        Text.recase f (Text.collapse (sourceText (String.ofList (rawText ps)) us)) := by
    rw [sourceText_mapChars hf.utf8Size hus, ← Text.recase, Text.collapse_recase hf.isBlank hf.space]
  have hread := readStatements_map (renames_mapChars hf.toUpper) htype
  rw [tokensOf_eq, List.map_append, hend]
  rw [Statement.reword_id, List.map_id_fun'] at hread
  exact (hend _ _ _).trans hread

/-- The statements of a text in other case are those of the text with their names and types in other
case. A text that is refused is refused at the same place. -/
theorem map_readStatements_recase (d : Dialect) (text : String) :
    (tokenize d (Text.recase f text)).map (readStatements (Text.recase f text)) =
      (tokenize d text).map fun ts =>
        (readStatements text ts).map (Statement.reword ⟨Text.recase f, Text.recase f⟩) := by
  obtain ⟨hpieces, hleft⟩ := Prod.ext_iff.1 (scan_map hf.toKeepsClass d text.toList)
  have hraw := rawText_scan d text.toList
  unfold tokenize
  rw [Text.recase, String.toList_ofList]
  generalize scan d (text.toList.map f) = r', scan d text.toList = r at *
  obtain ⟨ps', left'⟩ := r'
  obtain ⟨ps, left⟩ := r
  simp only [Prod.map_fst, Prod.map_snd, id] at hpieces hleft hraw
  subst hleft
  cases left with
  | nil =>
    rw [List.append_nil] at hraw
    have hread := readStatements_mapChars hf ps
    rw [← tokensOf_mapChars hf.utf8Size, ← hpieces, tokensOf_mapChars (f := id) fun _ => rfl,
      readStatements_mapChars_id, hraw, String.ofList_toList] at hread
    exact congrArg Except.ok hread
  | cons c cs =>
    have hposition : endPosition ps' = endPosition ps := by
      have hrawText := congrArg rawText hpieces
      rw [rawText_mapChars, rawText_mapChars, List.map_id] at hrawText
      rw [endPosition, ← rawText, hrawText, advance_map hf.toKeepsClass, endPosition, rawText]
    exact congrArg Except.error hposition

end Recase

section Lower

/-- What does not tell a capital from its small letter does not see the case of letters at all. -/
private theorem apply_toLower {α : Type} (g : Char → α)
    (h : ∀ n ∈ List.range' 65 26, g (Char.ofNat (n + 32)) = g (Char.ofNat n)) (c : Char) :
    g c.toLower = g c := by
  by_cases hrange : c.val ≥ 'A'.val ∧ c.val ≤ 'Z'.val
  · have h1 : 65 ≤ c.toNat := UInt32.le_iff_toNat_le.1 hrange.1
    have h2 : c.toNat ≤ 90 := UInt32.le_iff_toNat_le.1 hrange.2
    have hsmall : c.toLower.toNat = c.toNat + 32 := by
      unfold Char.toLower
      rw [dif_pos hrange]
      have hval : c.val.toNat ≤ 90 := h2
      have hadd : (c.val + 32).toNat = (c.val.toNat + 32) % 2 ^ 32 := UInt32.toNat_add _ _
      exact hadd.trans (Nat.mod_eq_of_lt (by omega))
    have hc := h c.toNat (List.mem_range'_1.2 ⟨h1, by omega⟩)
    rwa [← hsmall, Char.ofNat_toNat, Char.ofNat_toNat] at hc
  · unfold Char.toLower
    rw [dif_neg hrange]

theorem recases_toLower : Recases Char.toLower where
  isBlank := apply_toLower Text.isBlank (by decide)
  isLetter := apply_toLower Text.isLetter (by decide)
  isNumber := apply_toLower Text.isNumber (by decide)
  isDigit := apply_toLower Char.isDigit (by decide)
  utf8Size := apply_toLower Char.utf8Size (by decide)
  eq_iff x hx c := by
    have hsigns : scanSigns.all fun x => (List.range' 65 26).all fun n =>
        decide (Char.ofNat (n + 32) = x) == decide (Char.ofNat n = x) := by decide
    have hsign := List.all_eq_true.1 hsigns x hx
    simp only [List.all_eq_true, beq_iff_eq] at hsign
    exact decide_eq_decide.1 (apply_toLower (fun c => decide (c = x)) hsign c)
  toLower_eq c := by rw [apply_toLower Char.toLower (by decide)]
  toUpper := apply_toLower Char.toUpper (by decide)
  space := rfl

/-- The statement with its names and types in small letters. -/
def Statement.lower (s : Statement) : Statement := s.reword ⟨Text.lower, Text.lower⟩

/-- The statements of a text in small letters are those of the text with their names and types in small
letters. A text that is refused is refused at the same place. -/
theorem readStatements_lower (d : Dialect) (text : String) :
    (tokenize d (Text.lower text)).map (readStatements (Text.lower text)) =
      (tokenize d text).map fun ts => (readStatements text ts).map Statement.lower :=
  map_readStatements_recase recases_toLower d text

end Lower

end SqlSchema
