import Mathlib.Data.List.Infix
import SqlSchema.Dialect
/-!
# The detected dialect

The clues to a dialect are short phrases, and none of them reaches over a comma, a closing parenthesis or
a semicolon. So texts that hold the same phrases between such signs have the same dialect.
-/
namespace SqlSchema.Dialect

theorem occursIn_iff {pattern cs : List Char} : occursIn pattern cs ↔ pattern <:+: cs := by
  induction cs with
  | nil => simp [occursIn]
  | cons c cs ih => rw [occursIn, Bool.or_eq_true, ih, List.isPrefixOf_iff_prefix, List.infix_cons_iff]

theorem detect_congr {a b : String}
    (h : ∀ clue ∈ clues, ∀ p ∈ clue.2,
      (p.toList <:+: (Text.lower a).toList ↔ p.toList <:+: (Text.lower b).toList)) :
    detect a = detect b := by
  have hfilter : clues.filter (fun clue => clue.2.any fun p => occursIn p.toList (Text.lower a).toList) =
      clues.filter fun clue => clue.2.any fun p => occursIn p.toList (Text.lower b).toList := by
    apply List.filter_congr
    intro clue hclue
    rw [Bool.eq_iff_iff, List.any_eq_true, List.any_eq_true]
    apply exists_congr
    intro p
    rw [and_congr_right_iff]
    intro hp
    rw [occursIn_iff, occursIn_iff, h clue hclue p hp]
  rw [detect, detect, ← List.head?_filter, hfilter, List.head?_filter]

theorem resolve_congr {a b : String} (h : detect a = detect b) (d : Dialect) :
    d.resolve a = d.resolve b := by
  cases d with
  | auto => exact h
  | _ => rfl

section Cuts

variable {p xs ys : List Char}

theorem infix_append_cons_iff (hne : p ≠ []) {c : Char} (hc : c ∉ p) :
    p <:+: xs ++ c :: ys ↔ p <:+: xs ∨ p <:+: ys := by
  have hstart {l : List Char} (hl : l <+: c :: ys) (hcl : c ∉ l) : l = [] := by
    rcases List.prefix_cons_iff.1 hl with rfl | ⟨l, rfl, -⟩
    · rfl
    · simp at hcl
  constructor
  · intro h
    rcases List.infix_append_iff.1 h with h | h | ⟨l, l', rfl, hl, hl'⟩
    · exact .inl h
    · rcases List.infix_cons_iff.1 h with h | h
      · exact absurd (hstart h hc) hne
      · exact .inr h
    · obtain rfl := hstart hl' fun hmem => hc (List.mem_append_right l hmem)
      rw [List.append_nil]
      exact .inl hl.isInfix
  · rintro (h | h)
    · exact h.trans (List.prefix_append _ _).isInfix
    · exact h.trans ((List.suffix_cons _ _).trans (List.suffix_append _ _)).isInfix

theorem infix_append_cons_cons_iff {c c' : Char} (h : ¬[c, c'] <:+: p) :
    p <:+: xs ++ c :: c' :: ys ↔ p <:+: xs ++ [c] ∨ p <:+: c' :: ys := by
  have htext : xs ++ c :: c' :: ys = (xs ++ [c]) ++ c' :: ys := by simp
  rw [htext]
  constructor
  · intro hp
    rcases List.infix_append_iff.1 hp with hp | hp | ⟨l, l', rfl, hl, hl'⟩
    · exact .inl hp
    · exact .inr hp
    · rcases List.eq_nil_or_concat l with rfl | ⟨l, x, rfl⟩
      · exact .inr hl'.isInfix
      rcases List.prefix_cons_iff.1 hl' with rfl | ⟨l', rfl, -⟩
      · rw [List.append_nil]
        exact .inl hl.isInfix
      · obtain ⟨before, heq⟩ := hl
        rw [List.concat_eq_append, ← List.append_assoc] at heq
        obtain rfl : x = c := by simpa using (List.append_inj' heq rfl).2
        exact absurd ⟨l, l', by simp⟩ h
  · rintro (hp | hp)
    · exact hp.trans (List.prefix_append _ _).isInfix
    · exact hp.trans (List.suffix_append _ _).isInfix

theorem infix_cons_iff_of_head? (hne : p ≠ []) {c : Char} (hc : p.head? ≠ some c) :
    p <:+: c :: ys ↔ p <:+: ys := by
  rw [List.infix_cons_iff, or_iff_right]
  intro h
  rcases List.prefix_cons_iff.1 h with rfl | ⟨l, rfl, -⟩
  · exact hne rfl
  · exact hc rfl

end Cuts

section Clues

/-- A phrase that no list of elements and no statement behind another one completes. -/
structure IsDetached (p : List Char) : Prop where
  ne_nil : p ≠ []
  signs : ',' ∉ p ∧ ')' ∉ p ∧ ';' ∉ p
  head : p.head? ≠ some ' ' ∧ p.head? ≠ some '('
  pairs : ¬[' ', '('] <:+: p ∧ ¬['r', ' '] <:+: p ∧ ¬[' ', 'a'] <:+: p ∧ ¬['d', ' '] <:+: p
  words : ¬p <:+: " alter".toList ∧ ¬p <:+: "add".toList

theorem isDetached_of_mem_clues : ∀ clue ∈ clues, ∀ p ∈ clue.2, IsDetached p.toList := by
  have hclues : ∀ clue ∈ clues, ∀ p ∈ clue.2, p.toList ≠ [] ∧
      (',' ∉ p.toList ∧ ')' ∉ p.toList ∧ ';' ∉ p.toList) ∧
      (p.toList.head? ≠ some ' ' ∧ p.toList.head? ≠ some '(') ∧
      (¬[' ', '('] <:+: p.toList ∧ ¬['r', ' '] <:+: p.toList ∧ ¬[' ', 'a'] <:+: p.toList ∧
        ¬['d', ' '] <:+: p.toList) ∧
      (¬p.toList <:+: " alter".toList ∧ ¬p.toList <:+: "add".toList) := by
    decide +kernel
  intro clue hclue p hp
  obtain ⟨hne, hsigns, hhead, hpairs, hwords⟩ := hclues clue hclue p hp
  exact ⟨hne, hsigns, hhead, hpairs, hwords⟩

variable {p front name element : List Char}

namespace IsDetached

theorem infix_closed_iff (h : IsDetached p) : p <:+: element ++ [')', ';'] ↔ p <:+: element := by
  rw [infix_append_cons_iff h.ne_nil h.signs.2.1, or_iff_left]
  intro hp
  obtain ⟨c, hc⟩ := List.exists_mem_of_ne_nil p h.ne_nil
  obtain rfl := List.mem_singleton.1 (hp.subset hc)
  exact h.signs.2.2 hc

theorem infix_element_iff (h : IsDetached p) :
    p <:+: front ++ [',', ' '] ++ element ++ [')', ';'] ↔ p <:+: front ∨ p <:+: element := by
  rw [h.infix_closed_iff, List.append_assoc, List.cons_append, infix_append_cons_iff h.ne_nil h.signs.1]
  exact or_congr_right (infix_cons_iff_of_head? h.ne_nil h.head.1)

theorem infix_only_iff (h : IsDetached p) :
    p <:+: front ++ [' ', '('] ++ element ++ [')', ';'] ↔
      p <:+: front ++ [' ', '('] ∨ p <:+: element := by
  have hparen : p <:+: front ++ [' ', '('] ↔ p <:+: front ++ [' '] := by
    rw [infix_append_cons_cons_iff h.pairs.1, infix_cons_iff_of_head? h.ne_nil h.head.2, List.infix_nil]
    exact or_iff_left h.ne_nil
  rw [h.infix_closed_iff, hparen, List.append_assoc, List.cons_append, List.cons_append,
    infix_append_cons_cons_iff h.pairs.1]
  exact or_congr_right (infix_cons_iff_of_head? h.ne_nil h.head.2)

/-- What occurs in a statement that adds an element to a table occurs where the table is named, or in the
element. -/
theorem infix_alter (h : IsDetached p)
    (hp : p <:+: " alter table ".toList ++ name ++ " add ".toList ++ element) :
    p <:+: " table ".toList ++ name ++ [' '] ∨ p <:+: element := by
  have htable : " alter table ".toList ++ name ++ " add ".toList ++ element =
      " alte".toList ++ 'r' :: ' ' :: ("table ".toList ++ name ++ " add ".toList ++ element) := rfl
  have hadd : ' ' :: ("table ".toList ++ name ++ " add ".toList ++ element) =
      " table ".toList ++ name ++ ' ' :: 'a' :: ("dd ".toList ++ element) := by
    simp
  have helement : 'a' :: ("dd ".toList ++ element) = "ad".toList ++ 'd' :: ' ' :: element := rfl
  rw [htable, infix_append_cons_cons_iff h.pairs.2.1] at hp
  rcases hp with hp | hp
  · exact absurd hp h.words.1
  rw [hadd, infix_append_cons_cons_iff h.pairs.2.2.1] at hp
  rcases hp with hp | hp
  · exact .inl hp
  rw [helement, infix_append_cons_cons_iff h.pairs.2.2.2] at hp
  rcases hp with hp | hp
  · exact absurd hp h.words.2
  · exact .inr ((infix_cons_iff_of_head? h.ne_nil h.head.1).1 hp)

theorem infix_added_iff (h : IsDetached p) (hfront : " table ".toList ++ name ++ [' '] <:+: front) :
    p <:+: front ++ [')', ';'] ++ (" alter table ".toList ++ name ++ " add ".toList ++ element ++ [';']) ↔
      p <:+: front ∨ p <:+: element := by
  have hnil : ¬p <:+: [] := fun hp => h.ne_nil (List.infix_nil.1 hp)
  rw [List.append_assoc, List.cons_append, infix_append_cons_iff h.ne_nil h.signs.2.1]
  constructor
  · rintro (hp | hp)
    · exact .inl hp
    rcases (@infix_append_cons_iff p [] _ h.ne_nil _ h.signs.2.2).1 hp with hp | hp
    · exact absurd hp hnil
    rcases (infix_append_cons_iff h.ne_nil h.signs.2.2).1 hp with hp | hp
    · exact (h.infix_alter hp).imp_left fun hp => hp.trans hfront
    · exact absurd hp hnil
  · rintro (hp | hp)
    · exact .inl hp
    · exact .inr (hp.trans ⟨';' :: (" alter table ".toList ++ name ++ " add ".toList), [';'], by simp⟩)

end IsDetached

end Clues

end SqlSchema.Dialect
