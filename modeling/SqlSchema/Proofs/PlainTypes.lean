import SqlSchema.Proofs.Rereading
/-!
# Plain types

A plain type is a word with numbers in parentheses, array suffixes and the words that continue types
behind it. It is read in full in front of any sign of the grammar.
-/
namespace SqlSchema

/-- What can stand in a plain type behind its first word. -/
inductive IsTypeSuffix : String → Prop
  | arguments {ns : List String} (h : ∀ n ∈ ns, n ≠ "" ∧ n.toList.all Char.isDigit) :
    IsTypeSuffix ("(" ++ ", ".intercalate ns ++ ")")
  | array : IsTypeSuffix "[]"
  | continuation {word : String} (h : ∃ k ∈ typeContinuations, Text.isKeyword k word) :
    IsTypeSuffix (" " ++ word)
  | timeZone {first time zone : String} (hfirst : ∃ k ∈ ["WITH", "WITHOUT"], Text.isKeyword k first)
    (htime : Text.isKeyword "TIME" time) (hzone : Text.isKeyword "ZONE" zone) :
    IsTypeSuffix (" " ++ first ++ " " ++ time ++ " " ++ zone)

inductive IsPlainType : String → Prop
  | word {w : String} (h : Ddl.isBare w.toList) : IsPlainType w
  | suffix {type s : String} (ht : IsPlainType type) (hs : IsTypeSuffix s) : IsPlainType (type ++ s)

namespace Ddl

/-- The pieces of a part of a type that follows other parts. -/
structure IsSuffix (d : Dialect) (s : String) (ps : List Piece) : Prop where
  raw : rawText ps = s.toList
  lexemes : ∀ next, isSeam next → Lexemes d ps (some next)
  opens : (rawText ps).head?.any isSeam
  ends : ps.getLast?.any (·.token?.isSome)
  part : readTypePart? (tokensIn 0 ps) = some (tokensIn 0 ps, [])
  enclosed : Enclosed (tokensIn 0 ps)
  squeezed : Text.squeeze false s.toList = s.toList
  closed : ∀ blank, Text.endsBlank blank s.toList = false

/-- The pieces of a plain type. -/
structure IsPlain (d : Dialect) (type : String) (ps : List Piece) : Prop where
  raw : rawText ps = type.toList
  lexemes : ∀ next, isSeam next → Lexemes d ps (some next)
  run : IsRun ps
  tokens : ∃ next word tail, tokensIn 0 ps = next :: tail ∧ next.kind = .word word ∧
    readTypeTail tail = (tail, []) ∧ Enclosed tail
  squeezed : Text.squeeze true type.toList = type.toList
  closed : Text.endsBlank true type.toList = false

section Words

private theorem isWord_of_isKeyword {k word : String} {t : Token} (ht : t.kind = .word word)
    (h : Text.isKeyword k word) : t.isWord k := by
  rw [Token.isWord, ht]
  exact h

end Words

section Suffixes

/-- Words with a space in front of each. -/
def spacedPieces (ws : List String) : List Piece := ws.flatMap fun w => [blankPiece ' ', wordPiece w]

section Spaced

variable {ws : List String}

private theorem rawText_spacedPieces (ws : List String) :
    rawText (spacedPieces ws) = ws.flatMap fun w => ' ' :: w.toList := by
  simp [rawText, spacedPieces, blankPiece, wordPiece, List.flatMap_assoc]

private theorem lexemes_spacedPieces (d : Dialect) (h : ∀ w ∈ ws, isBare w.toList) {next : Char}
    (hn : isSeam next) : Lexemes d (spacedPieces ws) (some next) := by
  induction ws with
  | nil => trivial
  | cons w ws ih =>
    have hseam : ∃ c, (rawText (spacedPieces ws)).head?.or (some next) = some c ∧ isSeam c := by
      cases ws with
      | nil => exact ⟨next, rfl, hn⟩
      | cons => exact ⟨' ', rfl, rfl⟩
    obtain ⟨c, hc, hseam⟩ := hseam
    refine ⟨.blank rfl, ?_, ih fun w hw => h w (by simp [hw])⟩
    change Piece.Lexeme d (wordPiece w) ((rawText (spacedPieces ws)).head?.or (some next))
    rw [hc]
    exact lexeme_word d (h w (by simp)) hseam

private theorem endsBlank_spaced (h : ∀ w ∈ ws, isBare w.toList) (hne : ws ≠ []) (blank : Bool) :
    Text.endsBlank blank (ws.flatMap fun w => ' ' :: w.toList) = false := by
  induction ws generalizing blank with
  | nil => exact absurd rfl hne
  | cons w ws ih =>
    have hw := h w (by simp)
    have hword : w.toList ≠ [] := fun hnil => by simp [hnil, isBare] at hw
    rw [List.flatMap_cons, Text.endsBlank_append, Text.endsBlank,
      Text.endsBlank_of_not_blank (isBlank_of_isBare hw) hword]
    cases ws with
    | nil => rfl
    | cons v ws => exact ih (fun u hu => h u (by simp [hu])) (by simp) false

private theorem squeeze_spaced (h : ∀ w ∈ ws, isBare w.toList) :
    Text.squeeze false (ws.flatMap fun w => ' ' :: w.toList) = ws.flatMap fun w => ' ' :: w.toList := by
  induction ws with
  | nil => rfl
  | cons w ws ih =>
    have hw := h w (by simp)
    have hone : ∀ v ∈ [w], isBare v.toList := by simpa using hw
    have hends : Text.endsBlank false (' ' :: w.toList) = false := by
      simpa using endsBlank_spaced hone (by simp) false
    have hword : Text.squeeze false (' ' :: w.toList) = ' ' :: Text.squeeze true w.toList := rfl
    rw [List.flatMap_cons, Text.squeeze_append, hends, ih fun u hu => h u (by simp [hu]), hword,
      Text.squeeze_of_not_blank (isBlank_of_isBare hw)]

/-- Bare words follow other parts of a type if they are a part of it together. -/
private theorem isSuffix_spaced (d : Dialect) {s : String}
    (hs : s.toList = ws.flatMap fun w => ' ' :: w.toList) (h : ∀ w ∈ ws, isBare w.toList)
    (hne : ws ≠ []) (hpart : FlatPart (tokensIn 0 (spacedPieces ws))) :
    IsSuffix d s (spacedPieces ws) where
  raw := by rw [rawText_spacedPieces, hs]
  lexemes _ hn := lexemes_spacedPieces d h hn
  opens := by
    obtain ⟨w, ws, rfl⟩ := List.exists_cons_of_ne_nil hne
    rfl
  ends := by
    obtain ⟨front, w, rfl⟩ := (List.eq_nil_or_concat ws).resolve_left hne
    have hends : spacedPieces (front.concat w) =
        spacedPieces front ++ [blankPiece ' '] ++ [wordPiece w] := by
      simp [spacedPieces]
    rw [hends, List.getLast?_concat]
    rfl
  part := readTypePart?_eq_some_iff.2 (.inr ⟨hpart, (List.append_nil _).symm⟩)
  enclosed := hpart.enclosed
  squeezed := by rw [hs, squeeze_spaced h]
  closed blank := by rw [hs, endsBlank_spaced h hne]

end Spaced

private theorem isSuffix_array (d : Dialect) :
    IsSuffix d "[]" [signPiece '[' .leftBracket, signPiece ']' .rightBracket] where
  raw := rfl
  lexemes _ _ := ⟨.punctuation rfl fun _ => .inl rfl, .punctuation rfl (fun h => by simp at h), trivial⟩
  opens := rfl
  ends := rfl
  part := rfl
  enclosed := ⟨⟨rfl, by decide, rfl, by decide, trivial⟩, rfl⟩
  squeezed := rfl
  closed blank := by cases blank <;> rfl

private theorem isSuffix_continuation (d : Dialect) {word : String}
    (h : ∃ k ∈ typeContinuations, Text.isKeyword k word) :
    IsSuffix d (" " ++ word) (spacedPieces [word]) := by
  obtain ⟨k, hk, hword⟩ := h
  have hbare : isBare word.toList := by
    have hupper : ∀ k ∈ typeContinuations, k.toList.all Char.isUpper ∧ k ≠ "" := by decide
    exact isBare_of_isKeyword (hupper k hk).1 (hupper k hk).2 hword
  have htokens : ∃ t : Token, t.kind = .word word ∧ tokensIn 0 (spacedPieces [word]) = [t] :=
    ⟨⟨.word word, _, _⟩, rfl, rfl⟩
  obtain ⟨t, ht, heq⟩ := htokens
  have hone : t.isOneOf typeContinuations := isOneOf_of_isWord (isWord_of_isKeyword ht hword) hk
  refine isSuffix_spaced d (by simp) (by simpa using hbare) (by simp) ?_
  rw [heq]
  exact .continuation hone

private theorem isSuffix_timeZone (d : Dialect) {first time zone : String}
    (hfirst : ∃ k ∈ ["WITH", "WITHOUT"], Text.isKeyword k first) (htime : Text.isKeyword "TIME" time)
    (hzone : Text.isKeyword "ZONE" zone) :
    IsSuffix d (" " ++ first ++ " " ++ time ++ " " ++ zone) (spacedPieces [first, time, zone]) := by
  obtain ⟨k, hk, hword⟩ := hfirst
  have hbare : isBare first.toList := by
    have hupper : ∀ k ∈ ["WITH", "WITHOUT"], k.toList.all Char.isUpper ∧ k ≠ "" := by decide
    exact isBare_of_isKeyword (hupper k hk).1 (hupper k hk).2 hword
  have hbare' : isBare time.toList := isBare_of_isKeyword rfl (by decide) htime
  have hbare'' : isBare zone.toList := isBare_of_isKeyword rfl (by decide) hzone
  have htokens : ∃ t u v : Token, t.kind = .word first ∧ u.kind = .word time ∧ v.kind = .word zone ∧
      tokensIn 0 (spacedPieces [first, time, zone]) = [t, u, v] :=
    ⟨⟨.word first, _, _⟩, ⟨.word time, _, _⟩, ⟨.word zone, _, _⟩, rfl, rfl, rfl, rfl⟩
  obtain ⟨t, u, v, ht, hu, hv, heq⟩ := htokens
  have hone : t.isOneOf ["WITH", "WITHOUT"] := isOneOf_of_isWord (isWord_of_isKeyword ht hword) hk
  refine isSuffix_spaced d (by simp) (by simpa using ⟨hbare, hbare', hbare''⟩) (by simp) ?_
  rw [heq]
  exact .zone hone (isWord_of_isKeyword hu htime) (isWord_of_isKeyword hv hzone)

def numberPiece (n : String) : Piece := ⟨.token (.number n), n.toList⟩

private theorem numeral_cons {n : String} (h : n ≠ "" ∧ n.toList.all Char.isDigit) :
    ∃ c cs, n = String.ofList (c :: cs) ∧ ∀ x ∈ c :: cs, x.isDigit := by
  obtain ⟨c, cs, hcs⟩ := List.exists_cons_of_ne_nil fun hnil => h.1 (String.toList_injective hnil)
  exact ⟨c, cs, by rw [← hcs, String.ofList_toList], by simpa [hcs] using h.2⟩

private theorem lexeme_numberPiece (d : Dialect) {n : String} (h : n ≠ "" ∧ n.toList.all Char.isDigit)
    {next : Char} (hn : isSeam next) : Piece.Lexeme d (numberPiece n) (some next) := by
  obtain ⟨c, cs, rfl, hdigits⟩ := numeral_cons h
  rw [numberPiece, String.toList_ofList]
  refine .number (hdigits c (by simp)) (fun x hx => ?_) ?_
  · simp [Piece.continuesNumber, hdigits x (by simp [hx])]
  · simpa using continuesNumber_of_isSeam hn

private theorem isItem_numberPiece (n : String) : IsItem (numberPiece n) :=
  ⟨.number n, rfl, fun _ _ => by simp [Token.isOrdinary, Token.endsStatement]⟩

private theorem squeeze_numerals {ns : List String} (h : ∀ n ∈ ns, n ≠ "" ∧ n.toList.all Char.isDigit)
    (blank : Bool) : Text.squeeze blank ([',', ' '].intercalate (ns.map String.toList)) =
      [',', ' '].intercalate (ns.map String.toList) := by
  have hblank {n : String} (hn : n ∈ ns) : ∀ c ∈ n.toList, Text.isBlank c = false := fun c hc =>
    Text.isBlank_of_isDigit (List.all_eq_true.1 (h n hn).2 c hc)
  induction ns generalizing blank with
  | nil => rfl
  | cons n ns ih =>
    have hn := Text.squeeze_of_not_blank (hblank (n := n) (by simp)) blank
    cases ns with
    | nil => simpa using hn
    | cons m ns =>
      have hrest := ih (fun k hk => h k (by simp [hk])) true fun hk => hblank (by simp [hk])
      simp only [List.map_cons] at hrest ⊢
      have hstep (cs : List Char) :
          Text.squeeze false ([',', ' '] ++ cs) = [',', ' '] ++ Text.squeeze true cs := rfl
      have hne : n.toList ≠ [] := fun hnil => (h n (by simp)).1 (String.toList_injective hnil)
      rw [List.intercalate_cons_cons, List.append_assoc, Text.squeeze_append, hn,
        Text.endsBlank_of_not_blank (hblank (by simp)) hne, hstep, hrest]

private theorem isSuffix_arguments (d : Dialect) {ns : List String}
    (h : ∀ n ∈ ns, n ≠ "" ∧ n.toList.all Char.isDigit) :
    IsSuffix d ("(" ++ ", ".intercalate ns ++ ")") (groupPieces (ns.map numberPiece)) := by
  have hitems : ∀ p ∈ ns.map numberPiece, IsItem p := by
    intro p hp
    obtain ⟨n, -, rfl⟩ := List.mem_map.1 hp
    exact isItem_numberPiece n
  have htext : ("(" ++ ", ".intercalate ns ++ ")").toList =
      ['('] ++ ([',', ' '].intercalate (ns.map String.toList) ++ [')']) := by
    simp [String.toList_append, String.toList_intercalate]
  have hraw : rawText (groupPieces (ns.map numberPiece)) =
      ['('] ++ ([',', ' '].intercalate (ns.map String.toList) ++ [')']) := by
    rw [rawText_groupPieces, List.map_map]
    rfl
  refine ⟨by rw [hraw, htext], fun next _ => ?_, ?_, ?_, ?_, enclosed_groupPieces 0 hitems, ?_,
    fun blank => ?_⟩
  · refine isSelfContained_groupPieces (fun p hp next hn => ?_) _
    obtain ⟨n, hmem, rfl⟩ := List.mem_map.1 hp
    exact lexeme_numberPiece d (h n hmem) hn
  · rw [hraw]
    rfl
  · rw [groupPieces, ← List.cons_append, List.getLast?_concat]
    rfl
  · obtain ⟨opening, closing, place, hopen, hclose, heq⟩ := tokensIn_groupPieces 0 (ns.map numberPiece)
    rw [heq, readTypePart?, if_pos hopen,
      splitGroup_group hopen hclose (isFlat_listPieces place hitems)]
  · have hclose (blank : Bool) : Text.squeeze blank [')'] = [')'] := rfl
    rw [htext, Text.squeeze_append, Text.squeeze_append, squeeze_numerals h, hclose]
    rfl
  · rw [htext, ← List.append_assoc, Text.endsBlank_append]
    rfl

private theorem exists_isSuffix (d : Dialect) {s : String} (h : IsTypeSuffix s) :
    ∃ ps, IsSuffix d s ps := by
  cases h with
  | arguments h => exact ⟨_, isSuffix_arguments d h⟩
  | array => exact ⟨_, isSuffix_array d⟩
  | continuation h => exact ⟨_, isSuffix_continuation d h⟩
  | timeZone hfirst htime hzone => exact ⟨_, isSuffix_timeZone d hfirst htime hzone⟩

end Suffixes

private theorem isPlain_word (d : Dialect) {w : String} (h : isBare w.toList) :
    IsPlain d w [wordPiece w] := by
  have hne : w.toList ≠ [] := by
    intro hw
    simp [hw, isBare] at h
  have hblank := isBlank_of_isBare h
  refine ⟨by simp [wordPiece], fun next hn => ⟨lexeme_word d h hn, trivial⟩, ⟨rfl, rfl⟩, ?_,
    Text.squeeze_of_not_blank hblank true, Text.endsBlank_of_not_blank hblank hne true⟩
  exact ⟨⟨.word w, _, _⟩, w, [], rfl, rfl, readTypeTail_of_none rfl, enclosed_nil⟩

private theorem IsPlain.append {d : Dialect} {type s : String} {ps qs : List Piece}
    (ht : IsPlain d type ps) (hs : IsSuffix d s qs) : IsPlain d (type ++ s) (ps ++ qs) := by
  obtain ⟨next, word, tail, htokens, hnext, htail, henclosed⟩ := ht.tokens
  refine ⟨by rw [rawText_append, ht.raw, hs.raw, String.toList_append], fun c hc => ?_, ⟨?_, ?_⟩, ?_, ?_, ?_⟩
  · obtain ⟨c', hc', hseam⟩ := (Option.any_eq_true _ _).1 hs.opens
    refine lexemes_append.2 ⟨?_, hs.lexemes c hc⟩
    rw [hc']
    exact ht.lexemes c' hseam
  · obtain ⟨p, hp, hsome⟩ := (Option.any_eq_true _ _).1 ht.run.1
    rw [List.head?_append, hp]
    exact hsome
  · obtain ⟨p, hp, hsome⟩ := (Option.any_eq_true _ _).1 hs.ends
    rw [List.getLast?_append, hp]
    exact hsome
  · have hshape := keepsRole_shift (Text.byteSize (rawText ps))
    have hpart : readTypePart? (tokensIn (Text.byteSize (rawText ps)) qs) =
        some (tokensIn (Text.byteSize (rawText ps)) qs, []) := by
      rw [tokensIn_eq_shift, readTypePart?_map hshape, hs.part]
      rfl
    refine ⟨next, word, tail ++ tokensIn (Text.byteSize (rawText ps)) qs, ?_, hnext, ?_, ?_⟩
    · rw [tokensIn_append, htokens, Nat.zero_add]
      rfl
    · rw [readTypeTail_append_of_closed htail henclosed.2, readTypeTail_of_some hpart,
        readTypeTail_of_none rfl, List.append_nil]
    · exact henclosed.append ((enclosed_tokensIn _ qs).2 hs.enclosed)
  · rw [String.toList_append, Text.squeeze_append, ht.squeezed, ht.closed, hs.squeezed]
  · rw [String.toList_append, Text.endsBlank_append, hs.closed]

theorem exists_isType (d : Dialect) {type : String} (h : IsPlainType type) :
    ∃ ps, ∀ next, isSeam next → IsType d next type ps := by
  have hplain : ∃ ps, IsPlain d type ps := by
    induction h with
    | word h => exact ⟨_, isPlain_word d h⟩
    | suffix ht hs ih =>
      obtain ⟨ps, hps⟩ := ih
      obtain ⟨qs, hqs⟩ := exists_isSuffix d hs
      exact ⟨_, hps.append hqs⟩
  obtain ⟨ps, hps⟩ := hplain
  refine ⟨ps, fun next hn => ⟨hps.raw, hps.lexemes next hn, hps.run, hps.tokens, ?_⟩⟩
  rw [Text.collapse_eq_squeeze hps.closed, hps.squeezed, String.ofList_toList]

end Ddl

end SqlSchema
