import Mathlib.Data.List.Forall2
import SqlSchema.Proofs.Blanks
import SqlSchema.Proofs.Quoting
import SqlSchema.Proofs.Roles
/-!
# Words that spell keywords

A word spells a keyword in capitals and small letters. The words that name a kind of constraint are told
by their keywords alone, however they are written.
-/
namespace SqlSchema

section Letters

private theorem isAlpha_of_toUpper {c : Char} (h : c.toUpper.isUpper) : c.isAlpha := by
  apply Bool.or_eq_true_iff.2
  by_cases hl : c.isLower
  · exact .inr hl
  · have hc : c.toUpper = c := by
      unfold Char.toUpper
      rw [dif_neg]
      intro hrange
      exact hl (Bool.and_eq_true_iff.2 ⟨decide_eq_true hrange.1, decide_eq_true hrange.2⟩)
    rw [hc] at h
    exact .inl h

theorem Ddl.isBare_of_isKeyword {k word : String} (hk : k.toList.all Char.isUpper) (hne : k ≠ "")
    (h : Text.isKeyword k word) : isBare word.toList := by
  have hmap : word.toList.map Char.toUpper = k.toList := by simpa [Text.isKeyword] using h
  have halpha : ∀ c ∈ word.toList, c.isAlpha := by
    intro c hc
    have hmem : c.toUpper ∈ k.toList := by
      rw [← hmap]
      exact List.mem_map_of_mem hc
    exact isAlpha_of_toUpper (List.all_eq_true.1 hk _ hmem)
  cases hw : word.toList with
  | nil =>
    rw [hw, List.map_nil] at hmap
    exact absurd (String.toList_injective hmap.symm) hne
  | cons c cs =>
    rw [hw] at halpha
    simp only [isBare, List.head?_cons, Option.any_some, Bool.and_eq_true, List.all_eq_true]
    refine ⟨by simp [halpha c (by simp)], fun x hx => ?_⟩
    simp [isBareChar, Char.isAlphanum, halpha x hx]

namespace Text

private theorem upperChar_of_isUpper {c : Char} (h : c.toUpper.isUpper) : upperChar c = [c.toUpper] := by
  have hspecial (n : Nat) (hn : c.toNat = n) : (Char.ofNat n).toUpper.isUpper := by
    rwa [← hn, Char.ofNat_toNat]
  unfold upperChar
  split
  case h_11 => rfl
  all_goals
    next hn => exact absurd (hspecial _ hn) (by decide)

theorem upper_of_isKeyword {k word : String} (hk : k.toList.all Char.isUpper) (h : isKeyword k word) :
    upper word.toList = k.toList := by
  have hmap : word.toList.map Char.toUpper = k.toList := by simpa [isKeyword] using h
  rw [← hmap] at hk ⊢
  rw [upper, List.map_eq_flatMap]
  apply List.flatMap_congr
  intro c hc
  exact upperChar_of_isUpper (List.all_eq_true.1 hk _ (List.mem_map_of_mem hc))

end Text

end Letters

section Words

private theorem forall₂_word? {phrase : List String} {us : List Token}
    (h : Spells phrase us) :
    List.Forall₂ (fun k w => Text.isKeyword k w) phrase (us.filterMap Token.word?) := by
  induction h with
  | nil => exact .nil
  | @cons k t ks ts ht _ ih =>
    unfold Token.isWord at ht
    split at ht
    · next word hword =>
      rw [List.filterMap_cons_some (b := word) (by simp [Token.word?, hword])]
      exact .cons ht ih
    · simp at ht

end Words

section Kinds

/-- The keywords of every kind of constraint. -/
def kindPhrases : List (List String × ConstraintKind) :=
  [(["PRIMARY", "KEY"], .primaryKey), (["FOREIGN", "KEY"], .foreignKey), (["UNIQUE"], .unique)]

private theorem toList_upper_of_isKeyword {ks ws : List String}
    (hks : ∀ k ∈ ks, k.toList.all Char.isUpper ∧ k ≠ "")
    (h : List.Forall₂ (fun k w => Text.isKeyword k w) ks ws) :
    (ws.map String.toList).map Text.upper = ks.map String.toList := by
  induction h with
  | nil => rfl
  | @cons k w ks ws hw _ ih =>
    rw [List.map_cons, List.map_cons, List.map_cons, Text.upper_of_isKeyword (hks k (by simp)).1 hw,
      ih fun k hk => hks k (by simp [hk])]

private theorem isBare_of_isKeyword {ks ws : List String}
    (hks : ∀ k ∈ ks, k.toList.all Char.isUpper ∧ k ≠ "")
    (h : List.Forall₂ (fun k w => Text.isKeyword k w) ks ws) : ∀ w ∈ ws, Ddl.isBare w.toList := by
  induction h with
  | nil => simp
  | @cons k w ks ws hw _ ih =>
    have hk := hks k (by simp)
    simpa using ⟨Ddl.isBare_of_isKeyword hk.1 hk.2 hw, ih fun k hk => hks k (by simp [hk])⟩

private theorem ofKeywords?_spelling {ks ws : List String}
    (hks : ∀ k ∈ ks, k.toList.all Char.isUpper ∧ k ≠ "")
    (h : List.Forall₂ (fun k w => Text.isKeyword k w) ks ws) :
    ConstraintKind.ofKeywords? (" ".intercalate ws) =
      ConstraintKind.ofName? ("_".intercalate ks) := by
  have hbare : ∀ w ∈ ws.map String.toList, Ddl.isBare w := by
    simpa using isBare_of_isKeyword hks h
  have hne : ∀ w ∈ ws.map String.toList, w ≠ [] := by
    rintro w hw rfl
    simpa [Ddl.isBare] using hbare _ hw
  have hwords : Text.words (" ".intercalate ws).toList = ws.map String.toList := by
    rw [String.toList_intercalate]
    exact Text.words_intercalate hne fun w hw => Ddl.isBlank_of_isBare (hbare w hw)
  have hname : String.ofList (['_'].intercalate (ks.map String.toList)) = "_".intercalate ks := by
    rw [← String.toList_inj, String.toList_ofList, String.toList_intercalate]
    rfl
  have hupper : Text.upper (['_'].intercalate (ws.map String.toList)) =
      ['_'].intercalate (ks.map String.toList) := by
    rw [← toList_upper_of_isKeyword hks h]
    exact Text.flatMap_intercalate rfl _
  rw [ConstraintKind.ofKeywords?, hwords, hupper, hname]

private theorem kindSize?_eq (ts : List Token) :
    kindSize? ts = kindPhrases.findSome? fun p => (behind? p.1 ts).map fun _ => p.1.length := by
  unfold kindSize? behindOneOf? kindPhrases
  cases h : behind? ["PRIMARY", "KEY"] ts <;> cases h' : behind? ["FOREIGN", "KEY"] ts <;>
    cases h'' : behind? ["UNIQUE"] ts <;> simp [h, h', h'']

private theorem readKind?_of_behind? {p : List String × ConstraintKind} {ts rest : List Token}
    (hp : p ∈ kindPhrases) (hsize : kindSize? ts = some p.1.length)
    (h : behind? p.1 ts = some rest) : readKind? ts = some (p.2, rest) := by
  have hspelling : ∀ p ∈ kindPhrases, (∀ k ∈ p.1, k.toList.all Char.isUpper ∧ k ≠ "") ∧
      ConstraintKind.ofName? ("_".intercalate p.1) = some p.2 := by decide
  obtain ⟨us, rfl, hus⟩ := behind?_eq_some_iff.1 h
  rw [readKind?, hsize, Option.bind_eq_bind, Option.bind_some, List.take_left' hus.length_eq.symm,
    List.drop_left' hus.length_eq.symm, ofKeywords?_spelling (hspelling p hp).1 (forall₂_word? hus),
    (hspelling p hp).2]
  rfl

/-- The first words of a clause name a kind of constraint exactly if they spell its keywords. -/
theorem readKind?_eq (ts : List Token) :
    readKind? ts = kindPhrases.findSome? fun p => (behind? p.1 ts).map fun rest => (p.2, rest) := by
  have hmap {α : Type} (g : List String × ConstraintKind → List Token → α) :
      kindPhrases.findSome? (fun p => (behind? p.1 ts).map (g p)) =
        (kindPhrases.findSome? fun p => (behind? p.1 ts).map fun rest => (p, rest)).map
          fun r => g r.1 r.2 := by
    simp only [List.map_findSome?, Option.map_map, Function.comp_def]
  have hsize := kindSize?_eq ts
  rw [hmap] at hsize ⊢
  cases hfound : kindPhrases.findSome? fun p => (behind? p.1 ts).map fun rest => (p, rest) with
  | none =>
    rw [hfound] at hsize
    rw [readKind?, hsize]
    rfl
  | some r =>
    rw [hfound] at hsize
    obtain ⟨p, hp, hbehind⟩ := List.exists_of_findSome?_eq_some hfound
    obtain ⟨rest, hrest, rfl⟩ := Option.map_eq_some_iff.1 hbehind
    exact readKind?_of_behind? hp hsize hrest

theorem readKind?_map {f : Token → Token} (hf : KeepsRole f) (ts : List Token) :
    readKind? (ts.map f) = (readKind? ts).map fun r => (r.1, r.2.map f) := by
  simp only [readKind?_eq, behind?_map hf, List.map_findSome?, Option.map_map, Function.comp_def]

end Kinds

end SqlSchema
