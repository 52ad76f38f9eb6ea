import SqlSchema.Proofs.Blanks
import SqlSchema.Proofs.DiagramLines
import SqlSchema.Proofs.TopLevel
/-!
# Types in diagrams

A diagram shows a type as one word. The word is shown as it is where it stands for a type itself, and it
does not depend on the groups in parentheses that the type has.
-/
namespace SqlSchema

def opensGroup (c : Char) : Bool := c == '('

def closesGroup (c : Char) : Bool := c == ')'

section Groups

/-- A front that leaves the depth alike decides what is dropped in front of it only. -/
theorem dropGroups_congr {xs ys : List Char} (h : ∀ depth, dropGroups depth xs = dropGroups depth ys)
    (depth : Nat) (front : List Char) :
    dropGroups depth (front ++ xs) = dropGroups depth (front ++ ys) := by
  induction front generalizing depth with
  | nil => exact h depth
  | cons c front ih => simp only [List.cons_append, dropGroups, ih]

theorem dropGroups_inside {cs : List Char} {depth level : Nat}
    (hfront : ∀ front, front <+: cs → front.countP closesGroup ≤ depth + front.countP opensGroup)
    (hlevel : level + cs.countP closesGroup = depth + cs.countP opensGroup) (rest : List Char) :
    dropGroups (depth + 1) (cs ++ rest) = dropGroups (level + 1) rest := by
  induction cs generalizing depth with
  | nil =>
    obtain rfl : level = depth := by simpa using hlevel
    rfl
  | cons c cs ih =>
    have htail : ∀ front, front <+: cs → (c :: front).countP closesGroup ≤
        depth + (c :: front).countP opensGroup :=
      fun front h => hfront _ (List.cons_prefix_cons.2 ⟨rfl, h⟩)
    simp only [List.countP_cons, opensGroup, closesGroup, beq_iff_eq] at htail hlevel
    rw [List.cons_append, dropGroups]
    split
    · next hopen =>
      simp only [hopen, Char.reduceEq, if_true, if_false] at htail hlevel
      apply ih
      · intro front h
        have := htail front h
        omega
      · omega
    · next hopen =>
      split
      · next hclose =>
        simp only [hclose, Char.reduceEq, if_true, if_false] at htail hlevel
        -- the parenthesis has a partner inside, so the group around stays open
        have hdepth := htail [] List.nil_prefix
        obtain ⟨depth, rfl⟩ := Nat.exists_eq_succ_of_ne_zero (show depth ≠ 0 by simp at hdepth; omega)
        apply ih
        · intro front h
          have := htail front h
          omega
        · omega
      · next hclose =>
        simp only [hopen, hclose, if_false] at htail hlevel
        rw [if_neg (by omega)]
        exact ih htail hlevel

/-- A balanced text in parentheses is dropped at any depth. -/
theorem dropGroups_group {group : List Char} (h : IsBalanced opensGroup closesGroup group)
    (rest : List Char) (depth : Nat) :
    dropGroups depth ('(' :: (group ++ ')' :: rest)) = dropGroups depth rest := by
  have hfront : ∀ front, front <+: group → front.countP closesGroup ≤ depth + front.countP opensGroup :=
    fun front hp => (h.front front hp).trans (Nat.le_add_left _ _)
  have hinside := dropGroups_inside hfront (by rw [h.whole]) (')' :: rest)
  rw [dropGroups, if_pos rfl, hinside]
  rfl

theorem dropGroups_eq_self {cs : List Char} (h : ∀ c ∈ cs, c ≠ '(' ∧ c ≠ ')') : dropGroups 0 cs = cs := by
  induction cs with
  | nil => rfl
  | cons c cs ih =>
    obtain ⟨hopen, hclose⟩ := h c (by simp)
    rw [dropGroups, if_neg hopen, if_neg hclose, if_pos rfl, ih fun x hx => h x (by simp [hx])]

end Groups

section Words

theorem diagramType_ne_empty (type : String) : diagramType type ≠ "" := by
  unfold diagramType
  split
  · decide
  · next hne =>
    intro hempty
    exact hne (String.ofList_injective hempty)

theorem diagramType_congr {s t : String} (h : dropGroups 0 s.toList = dropGroups 0 t.toList) :
    diagramType s = diagramType t := by
  rw [diagramType, diagramType, h]

theorem diagramType_eq_self {word : String} (hne : word ≠ "") (h : ∀ c ∈ word.toList, isDiagramChar c) :
    diagramType word = word := by
  have hparens : ∀ c ∈ word.toList, c ≠ '(' ∧ c ≠ ')' := by
    intro c hc
    have hsigns : isDiagramChar '(' = false ∧ isDiagramChar ')' = false := by decide
    exact ⟨Text.ne_of_class (h c hc) hsigns.1, Text.ne_of_class (h c hc) hsigns.2⟩
  have hblank : ∀ c ∈ word.toList, Text.isBlank c = false := by
    intro c hc
    rw [← String.ofList_toList (s := word)] at hc
    exact (isDiagramWord_of_all h c hc).1
  have hnil : word.toList ≠ [] := by simpa using hne
  have hchars : diagramChars word.toList = word.toList := by
    rw [diagramChars, List.map_congr_left fun c hc => if_pos (h c hc), List.map_id']
  have hwhole : diagramChars (['_'].intercalate (Text.words (dropGroups 0 word.toList))) = word.toList := by
    rw [dropGroups_eq_self hparens, Text.words_eq_singleton hnil hblank, List.intercalate_singleton,
      hchars]
  rw [diagramType, hwhole]
  split
  · next hempty => exact absurd hempty hnil
  · exact String.ofList_toList

end Words

/-- Every type has a word that a diagram can show: it is not empty, has no characters but letters, numbers
and a few signs, and stands for itself. A balanced group in parentheses, wherever it is put into a type or
taken out of it, does not change the word. -/
theorem diagramType_word :
    (∀ type, diagramType type ≠ "" ∧
      (∀ c ∈ (diagramType type).toList,
        Text.isLetterOrNumber c ∨ c = '_' ∨ c = '-' ∨ c = '[' ∨ c = ']') ∧
      diagramType (diagramType type) = diagramType type) ∧
    ∀ before group after : String, IsBalanced opensGroup closesGroup group.toList →
      diagramType (before ++ "(" ++ group ++ ")" ++ after) = diagramType (before ++ after) := by
  constructor
  · intro type
    have hchars : ∀ c ∈ (diagramType type).toList, isDiagramChar c :=
      fun _ hc => isDiagramChar_of_mem_diagramType hc
    refine ⟨diagramType_ne_empty type, fun c hc => ?_, ?_⟩
    · simpa [isDiagramChar, or_assoc] using hchars c hc
    · exact diagramType_eq_self (diagramType_ne_empty type) hchars
  · intro before group after h
    apply diagramType_congr
    have hgroup := dropGroups_congr (dropGroups_group h after.toList) 0 before.toList
    simpa using hgroup

/-- The parentheses outside of the group need not have partners. -/
theorem diagramType_word_nested :
    IsBalanced opensGroup closesGroup "1, (2) ()".toList ∧
      diagramType (") DOUBLE" ++ "(" ++ "1, (2) ()" ++ ")" ++ "  PRECISION(") =
        diagramType (") DOUBLE" ++ "  PRECISION(") := by
  have hgroup : IsBalanced opensGroup closesGroup "1, (2) ()".toList := by decide
  exact ⟨hgroup, diagramType_word.2 ") DOUBLE" "1, (2) ()" "  PRECISION(" hgroup⟩

end SqlSchema
