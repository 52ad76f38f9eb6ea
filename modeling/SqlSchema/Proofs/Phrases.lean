import Mathlib.Data.List.Forall2
import SqlSchema.Statement.Phrase
/-!
# Keywords and phrases

A word spells one keyword at most. What stands behind a phrase are the tokens behind those that spell it,
and tokens that spell one phrase start no other.
-/
namespace SqlSchema

variable {keywords phrase : List String} {t : Token} {us : List Token}

section Words

theorem kind_of_isWord {keyword : String} (h : t.isWord keyword) : ∃ text, t.kind = .word text := by
  unfold Token.isWord at h
  split at h
  · next text hk => exact ⟨text, hk⟩
  · simp at h

theorem eq_of_isWord {k k' : String} (h : t.isWord k) (h' : t.isWord k') : k = k' := by
  unfold Token.isWord at h h'
  split at h
  · next text ht =>
    rw [ht] at h'
    have heq : text.toList.map Char.toUpper = k.toList := by simpa [Text.isKeyword] using h
    have heq' : text.toList.map Char.toUpper = k'.toList := by simpa [Text.isKeyword] using h'
    exact String.toList_injective (heq.symm.trans heq')
  · simp at h

theorem kind_of_isOneOf (h : t.isOneOf keywords) : ∃ text, t.kind = .word text := by
  obtain ⟨k, -, hword⟩ := List.any_eq_true.1 h
  exact kind_of_isWord hword

theorem isOneOf_of_isWord {k : String} (h : t.isWord k) (hk : k ∈ keywords) : t.isOneOf keywords :=
  List.any_eq_true.2 ⟨k, hk, h⟩

theorem isOneOf_eq_false {k : String} (h : t.isWord k) (hk : k ∉ keywords) :
    t.isOneOf keywords = false := by
  rw [Token.isOneOf, List.any_eq_false]
  intro k' hk' h'
  exact hk (eq_of_isWord h h' ▸ hk')

theorem isOneOf_of_subset (h : t.isOneOf keywords) (others : List String)
    (hsub : ∀ k ∈ keywords, k ∈ others) : t.isOneOf others := by
  obtain ⟨k, hk, hword⟩ := List.any_eq_true.1 h
  exact isOneOf_of_isWord hword (hsub k hk)

theorem isOneOf_of_disjoint (h : t.isOneOf keywords) (others : List String)
    (hdisjoint : ∀ k ∈ keywords, k ∉ others) : t.isOneOf others = false := by
  obtain ⟨k, hk, hword⟩ := List.any_eq_true.1 h
  exact isOneOf_eq_false hword (hdisjoint k hk)

end Words

section Phrases

/-- The tokens spell the keywords, each in any ASCII case. -/
def Spells (phrase : List String) (us : List Token) : Prop :=
  List.Forall₂ (fun k t => Token.isWord k t) phrase us

theorem behind?_of_spells (h : Spells phrase us) (rest : List Token) :
    behind? phrase (us ++ rest) = some rest := by
  induction h with
  | nil => rfl
  | cons hword _ ih => rw [List.cons_append, behind?, if_pos hword, ih]

theorem behind?_eq_some_iff {ts rest : List Token} :
    behind? phrase ts = some rest ↔ ∃ us, ts = us ++ rest ∧ Spells phrase us := by
  constructor
  · intro h
    fun_induction behind? phrase ts with
    | case1 ts => exact ⟨[], by simpa using h, .nil⟩
    | case2 => simp at h
    | case3 k ks t ts hword ih =>
      obtain ⟨us, rfl, hus⟩ := ih h
      exact ⟨t :: us, rfl, .cons hword hus⟩
    | case4 => simp at h
  · rintro ⟨us, rfl, hus⟩
    exact behind?_of_spells hus rest

theorem Spells.exists_words {k k' : String} (h : Spells [k, k'] us) :
    ∃ t u : Token, us = [t, u] ∧ t.isWord k ∧ u.isWord k' := by
  obtain ⟨t, us', ht, hus', rfl⟩ := List.forall₂_cons_left_iff.1 h
  obtain ⟨u, us'', hu, hus'', rfl⟩ := List.forall₂_cons_left_iff.1 hus'
  obtain rfl := List.forall₂_nil_left_iff.1 hus''
  exact ⟨t, u, rfl, ht, hu⟩

theorem exists_words_of_behind? {k k' : String} {ts rest : List Token}
    (h : behind? [k, k'] ts = some rest) :
    ∃ t u : Token, ts = t :: u :: rest ∧ t.isWord k ∧ u.isWord k' := by
  obtain ⟨us, rfl, hus⟩ := behind?_eq_some_iff.1 h
  obtain ⟨t, u, rfl, ht, hu⟩ := hus.exists_words
  exact ⟨t, u, rfl, ht, hu⟩

/-- Tokens that spell one phrase start no other, unless one of the two starts with the other. -/
theorem behind?_eq_none_of_spells {other : List String} (h : Spells phrase us) (hp : ¬phrase <+: other)
    (ho : ¬other <+: phrase) (rest : List Token) : behind? other (us ++ rest) = none := by
  induction h generalizing other with
  | nil => exact absurd List.nil_prefix hp
  | @cons k t ks ts hword _ ih =>
    cases other with
    | nil => exact absurd List.nil_prefix ho
    | cons k' ks' =>
      rw [List.cons_append, behind?]
      split
      · next hword' =>
        obtain rfl : k = k' := eq_of_isWord hword hword'
        rw [List.prefix_cons_inj] at hp ho
        exact ih hp ho
      · rfl

/-- Of several phrases the one is found that the tokens spell, if no other starts with it or the other way
round. -/
theorem findSome?_of_spells {α β : Type} {xs : List α} {x : α} (phraseOf : α → List String)
    (f : α → List Token → β) (hx : x ∈ xs)
    (hfree : ∀ y ∈ xs, phraseOf x <+: phraseOf y ∨ phraseOf y <+: phraseOf x → y = x)
    (h : Spells (phraseOf x) us) (rest : List Token) :
    xs.findSome? (fun y => (behind? (phraseOf y) (us ++ rest)).map (f y)) = some (f x rest) := by
  obtain ⟨before, after, heq, hbefore⟩ := List.eq_append_cons_of_mem hx
  refine List.findSome?_eq_some_iff.2 ⟨before, x, after, heq, ?_, ?_⟩
  · rw [behind?_of_spells h, Option.map_some]
  · intro y hy
    have hne : y ≠ x := fun hsame => hbefore (hsame ▸ hy)
    have hmem : y ∈ xs := by simp [heq, hy]
    have hnone := behind?_eq_none_of_spells h (fun hpre => hne (hfree y hmem (.inl hpre)))
      (fun hpre => hne (hfree y hmem (.inr hpre))) rest
    rw [hnone, Option.map_none]

theorem behindOneOf?_of_spells {phrases : List (List String)} (hmem : phrase ∈ phrases)
    (hfree : ∀ p ∈ phrases, phrase <+: p ∨ p <+: phrase → p = phrase) (h : Spells phrase us)
    (rest : List Token) : behindOneOf? phrases (us ++ rest) = some rest := by
  have hfind := findSome?_of_spells id (fun _ more => more) hmem hfree h rest
  simpa [behindOneOf?] using hfind

end Phrases

end SqlSchema
