import Mathlib.Data.List.Chain
import SqlSchema.Text.Words
/-!
# Collapsed blanks

Collapsing keeps the words of a text and puts one space between them. On a text that ends with a word
it can be done from left to right, one character at a time. It changes nothing exactly on the texts whose
blanks are single spaces between words.
-/
namespace SqlSchema.Text

@[simp] theorem words_nil : words [] = [] := rfl

theorem words_append_blank (cs rest : List Char) {b : Char} (h : isBlank b) :
    words (cs ++ b :: rest) = words cs ++ words rest := by
  simp [words, List.splitOnP_append_cons _ _ h]

theorem words_cons_blank (cs : List Char) {b : Char} (h : isBlank b) : words (b :: cs) = words cs :=
  words_append_blank [] cs h

theorem words_eq_singleton {w : List Char} (hw : w ≠ []) (h : ∀ c ∈ w, isBlank c = false) :
    words w = [w] := by
  simp [words, List.splitOnP_eq_singleton h, hw]

private theorem not_isBlank_of_mem_splitOnP {cs w : List Char} (h : w ∈ cs.splitOnP isBlank) :
    ∀ c ∈ w, isBlank c = false := by
  induction cs generalizing w with
  | nil => simp_all
  | cons x cs ih =>
    rw [List.splitOnP_cons_eq_if_modifyHead] at h
    split at h
    · rcases List.mem_cons.1 h with rfl | h
      · simp
      · exact ih h
    · next hx =>
      obtain ⟨first, rest, heq⟩ := List.exists_cons_of_ne_nil (List.splitOnP_ne_nil isBlank cs)
      rw [heq] at h ih
      rcases List.mem_cons.1 h with rfl | h
      · intro c hc
        rcases List.mem_cons.1 hc with rfl | hc
        · simpa using hx
        · exact ih (by simp) c hc
      · exact ih (by simp [h])

theorem ne_nil_of_mem_words {cs w : List Char} (h : w ∈ words cs) : w ≠ [] := by
  simpa using (List.mem_filter.1 h).2

theorem not_isBlank_of_mem_words {cs w : List Char} (h : w ∈ words cs) : ∀ c ∈ w, isBlank c = false :=
  not_isBlank_of_mem_splitOnP (List.mem_filter.1 h).1

theorem words_intercalate {ws : List (List Char)} (hne : ∀ w ∈ ws, w ≠ [])
    (hblank : ∀ w ∈ ws, ∀ c ∈ w, isBlank c = false) : words ([' '].intercalate ws) = ws := by
  induction ws with
  | nil => rfl
  | cons w ws ih =>
    have hw := words_eq_singleton (hne w (by simp)) (hblank w (by simp))
    cases ws with
    | nil => simpa using hw
    | cons v ws =>
      rw [List.intercalate_cons_cons, List.append_assoc, List.singleton_append,
        words_append_blank _ _ (by rfl), hw,
        ih (fun u hu => hne u (by simp [hu])) (fun u hu => hblank u (by simp [hu]))]
      rfl

/-- Joined texts are changed part by part if the separator becomes another one. -/
theorem flatMap_intercalate {g : Char → List Char} {a b : Char} (h : g a = [b]) (ws : List (List Char)) :
    ([a].intercalate ws).flatMap g = [b].intercalate (ws.map fun w => w.flatMap g) := by
  induction ws with
  | nil => rfl
  | cons w ws ih =>
    cases ws with
    | nil => simp
    | cons v ws =>
      rw [List.map_cons, List.map_cons, List.intercalate_cons_cons, List.intercalate_cons_cons,
        ← List.map_cons, ← ih]
      simp [h]

theorem words_collapse (s : String) : words (collapse s).toList = words s.toList := by
  rw [collapse, String.toList_ofList,
    words_intercalate (fun _ => ne_nil_of_mem_words) (fun _ => not_isBlank_of_mem_words)]

theorem collapse_collapse (s : String) : collapse (collapse s) = collapse s := by
  rw [collapse, words_collapse, collapse]

theorem words_ne_nil {cs : List Char} {c : Char} (hc : c ∈ cs) (h : isBlank c = false) :
    words cs ≠ [] := by
  induction cs with
  | nil => simp at hc
  | cons x cs ih =>
    by_cases hx : isBlank x
    · rw [words_cons_blank cs hx]
      rcases List.mem_cons.1 hc with rfl | hc
      · simp [hx] at h
      · exact ih hc
    · obtain ⟨first, rest, heq⟩ := List.exists_cons_of_ne_nil (List.splitOnP_ne_nil isBlank cs)
      simp [words, List.splitOnP_cons_eq_if_modifyHead, hx, heq]

theorem collapse_ne_empty {s : String} {c : Char} (hc : c ∈ s.toList) (h : isBlank c = false) :
    collapse s ≠ "" := by
  intro he
  have hwords := words_collapse s
  rw [he] at hwords
  exact words_ne_nil hc h hwords.symm

/-- The text with one space for each run of blanks. Right behind a blank there is none. -/
def squeeze (blank : Bool) : List Char → List Char
  | [] => []
  | c :: cs =>
    if isBlank c then if blank then squeeze true cs else ' ' :: squeeze true cs
    else c :: squeeze false cs

/-- Whether there is a blank in front of what follows the text. -/
def endsBlank (blank : Bool) : List Char → Bool
  | [] => blank
  | c :: cs => endsBlank (isBlank c) cs

theorem endsBlank_append (blank : Bool) (xs ys : List Char) :
    endsBlank blank (xs ++ ys) = endsBlank (endsBlank blank xs) ys := by
  induction xs generalizing blank with
  | nil => rfl
  | cons x xs ih => exact ih _

theorem squeeze_append (blank : Bool) (xs ys : List Char) :
    squeeze blank (xs ++ ys) = squeeze blank xs ++ squeeze (endsBlank blank xs) ys := by
  induction xs generalizing blank with
  | nil => rfl
  | cons x xs ih =>
    rw [List.cons_append, squeeze, squeeze, endsBlank]
    cases hx : isBlank x <;> cases blank <;> simp [ih]

theorem squeeze_of_not_blank {cs : List Char} (h : ∀ c ∈ cs, isBlank c = false) (blank : Bool) :
    squeeze blank cs = cs := by
  induction cs generalizing blank with
  | nil => rfl
  | cons c cs ih =>
    simp [squeeze, h c (by simp), ih fun x hx => h x (by simp [hx])]

theorem endsBlank_of_getLast? {cs : List Char} {c : Char} (h : cs.getLast? = some c) (blank : Bool) :
    endsBlank blank cs = isBlank c := by
  obtain ⟨front, rfl⟩ := List.getLast?_eq_some_iff.1 h
  rw [endsBlank_append]
  rfl

theorem endsBlank_of_not_blank {cs : List Char} (h : ∀ c ∈ cs, isBlank c = false) (hne : cs ≠ [])
    (blank : Bool) : endsBlank blank cs = false := by
  rw [endsBlank_of_getLast? (List.getLast?_eq_some_getLast hne), h _ (List.getLast_mem hne)]

theorem not_mem_squeeze {c : Char} (hc : isBlank c) (hne : c ≠ ' ') (blank : Bool) (cs : List Char) :
    c ∉ squeeze blank cs := by
  induction cs generalizing blank with
  | nil => simp [squeeze]
  | cons x cs ih =>
    rw [squeeze]
    split
    · split
      · exact ih true
      · simpa [hne] using ih true
    · next hx =>
      have hcx : c ≠ x := by
        rintro rfl
        exact hx hc
      simpa [hcx] using ih false

theorem exists_of_endsBlank {cs : List Char} (h : endsBlank true cs = false) :
    ∃ c ∈ cs, isBlank c = false := by
  induction cs with
  | nil => simp [endsBlank] at h
  | cons c cs ih =>
    cases hc : isBlank c with
    | false => exact ⟨c, by simp, hc⟩
    | true =>
      obtain ⟨x, hx, hb⟩ := ih (by simpa [endsBlank, hc] using h)
      exact ⟨x, by simp [hx], hb⟩

private theorem intercalate_words_cons {c : Char} (hc : isBlank c = false) (cs : List Char) :
    [' '].intercalate (words (c :: cs)) =
      c :: (if cs.head?.all isBlank then
          if words cs = [] then [] else ' ' :: [' '].intercalate (words cs)
        else [' '].intercalate (words cs)) := by
  cases cs with
  | nil => simp [words, List.splitOnP_cons_eq_if_modifyHead, hc]
  | cons d cs =>
    by_cases hd : isBlank d
    · have hsplit : words (c :: d :: cs) = [c] :: words (d :: cs) := by
        simp [words, List.splitOnP_cons_eq_if_modifyHead, hc, hd]
      rw [hsplit]
      cases hwords : words (d :: cs) <;> simp [hd, List.intercalate_cons_cons]
    · obtain ⟨w, ws, hws⟩ := List.exists_cons_of_ne_nil (List.splitOnP_ne_nil isBlank cs)
      have hrest : words (d :: cs) = (d :: w) :: ws.filter (fun v => !v.isEmpty) := by
        simp [words, List.splitOnP_cons_eq_if_modifyHead, hd, hws]
      have hsplit : words (c :: d :: cs) = (c :: d :: w) :: ws.filter (fun v => !v.isEmpty) := by
        simp [words, List.splitOnP_cons_eq_if_modifyHead, hc, hd, hws]
      rw [hsplit, hrest]
      cases ws.filter (fun v => !v.isEmpty) <;> simp [hd, List.intercalate_cons_cons]

/-- On a text that does not end in a blank, collapsing squeezes the blanks. -/
theorem intercalate_words {cs : List Char} (h : endsBlank true cs = false) :
    [' '].intercalate (words cs) = squeeze true cs := by
  induction cs with
  | nil => simp [endsBlank] at h
  | cons c cs ih =>
    by_cases hc : isBlank c
    · rw [words_cons_blank cs hc, squeeze, if_pos hc, if_pos rfl]
      exact ih (by simpa [endsBlank, hc] using h)
    · rw [Bool.not_eq_true] at hc
      rw [intercalate_words_cons hc]
      simp only [squeeze, hc, Bool.false_eq_true, if_false]
      cases cs with
      | nil => simp [squeeze]
      | cons d cs =>
        rw [endsBlank, endsBlank] at h
        have hd : endsBlank true (d :: cs) = false := h
        rw [ih hd]
        by_cases hb : isBlank d
        · obtain ⟨x, hx, hxb⟩ := exists_of_endsBlank hd
          simp [hb, words_ne_nil hx hxb, squeeze]
        · simp [hb, squeeze]

theorem collapse_eq_squeeze {s : String} (h : endsBlank true s.toList = false) :
    collapse s = String.ofList (squeeze true s.toList) := by
  rw [collapse, intercalate_words h]

/-- The only blanks are spaces, none stands at an end and no two are neighbours. -/
structure IsCollapsed (cs : List Char) : Prop where
  space : ∀ c ∈ cs, isBlank c → c = ' '
  apart : cs.IsChain fun a b => isBlank a → isBlank b = false
  first : ∀ c ∈ cs.head?, isBlank c = false
  last : ∀ c ∈ cs.getLast?, isBlank c = false

theorem isCollapsed_of_not_blank {cs : List Char} (h : ∀ c ∈ cs, isBlank c = false) :
    IsCollapsed cs where
  space c hc hblank := by simp [h c hc] at hblank
  apart := List.Pairwise.isChain (List.pairwise_of_forall_mem_list fun _ _ b hb _ => h b hb)
  first c hc := h c (List.mem_of_mem_head? hc)
  last c hc := h c (List.mem_of_mem_getLast? hc)

theorem IsCollapsed.append {xs ys : List Char} (hxs : IsCollapsed xs) (hys : IsCollapsed ys)
    (hx : xs ≠ []) (hy : ys ≠ []) : IsCollapsed (xs ++ ' ' :: ys) where
  space c hc hblank := by
    rcases List.mem_append.1 hc with hc | hc
    · exact hxs.space c hc hblank
    · rcases List.mem_cons.1 hc with rfl | hc
      · rfl
      · exact hys.space c hc hblank
  apart := by
    have hrest := hys.apart.cons (x := ' ') fun y hy _ => hys.first y hy
    refine hxs.apart.append hrest fun a ha b _ hblank => ?_
    simp [hxs.last a ha] at hblank
  first c hc := by
    refine hxs.first c ?_
    simpa [List.head?_append, List.head?_eq_some_head hx] using hc
  last c hc := by
    refine hys.last c ?_
    simpa [List.getLast?_append, List.getLast?_cons, List.getLast?_eq_some_getLast hy] using hc

theorem isCollapsed_intercalate {ws : List (List Char)} (hne : ∀ w ∈ ws, w ≠ [])
    (hblank : ∀ w ∈ ws, ∀ c ∈ w, isBlank c = false) : IsCollapsed ([' '].intercalate ws) := by
  induction ws with
  | nil => exact isCollapsed_of_not_blank (by simp)
  | cons w ws ih =>
    have hw := isCollapsed_of_not_blank (hblank w (by simp))
    cases ws with
    | nil => simpa using hw
    | cons v ws =>
      have hrest := ih (fun u hu => hne u (by simp [hu])) fun u hu => hblank u (by simp [hu])
      rw [List.intercalate_cons_cons, List.append_assoc, List.singleton_append]
      refine hw.append hrest (hne w (by simp)) ?_
      cases ws <;> simp [hne v, List.intercalate_cons_cons]

theorem squeeze_of_isChain {cs : List Char} (hspace : ∀ c ∈ cs, isBlank c → c = ' ')
    (hapart : cs.IsChain fun a b => isBlank a → isBlank b = false) {blank : Bool}
    (hfirst : blank → ∀ c ∈ cs.head?, isBlank c = false) : squeeze blank cs = cs := by
  induction cs generalizing blank with
  | nil => rfl
  | cons c cs ih =>
    obtain ⟨hnext, hrest⟩ := List.isChain_cons.1 hapart
    have hcs (b : Bool) (hb : b → ∀ x ∈ cs.head?, isBlank x = false) : squeeze b cs = cs :=
      ih (fun x hx => hspace x (by simp [hx])) hrest hb
    rw [squeeze]
    cases hc : isBlank c with
    | false => simp [hcs false (by simp)]
    | true =>
      have hb : blank = false := by
        cases blank with
        | false => rfl
        | true => simpa [hc] using hfirst rfl c (by simp)
      simp [hb, hcs true fun _ x hx => hnext x hx hc, hspace c (by simp) hc]

/-- Collapsing keeps the collapsed texts and no others. -/
theorem collapse_eq_self_iff (s : String) : collapse s = s ↔ IsCollapsed s.toList := by
  constructor
  · intro h
    rw [← h, collapse, String.toList_ofList]
    exact isCollapsed_intercalate (fun _ => ne_nil_of_mem_words) fun _ => not_isBlank_of_mem_words
  · intro h
    cases hlast : s.toList.getLast? with
    | none =>
      rw [List.getLast?_eq_none_iff] at hlast
      rw [collapse, hlast, words_nil, List.intercalate_nil, ← hlast, String.ofList_toList]
    | some c =>
      have hends : endsBlank true s.toList = false := by
        rw [endsBlank_of_getLast? hlast, h.last c hlast]
      rw [collapse_eq_squeeze hends, squeeze_of_isChain h.space h.apart fun _ => h.first,
        String.ofList_toList]

/-- The characters that are not blank. -/
def visible (cs : List Char) : List Char := cs.filter fun c => !isBlank c

theorem visible_append (xs ys : List Char) : visible (xs ++ ys) = visible xs ++ visible ys :=
  List.filter_append _ _

private theorem visible_eq_flatten (cs : List Char) : visible cs = (words cs).flatten := by
  rw [words, List.flatten_filter_not_isEmpty]
  induction cs with
  | nil => rfl
  | cons c cs ih =>
    rw [visible, List.filter_cons, ← visible, ih, List.splitOnP_cons_eq_if_modifyHead]
    obtain ⟨w, ws, heq⟩ := List.exists_cons_of_ne_nil (List.splitOnP_ne_nil isBlank cs)
    cases hc : isBlank c <;> simp [heq]

theorem visible_collapse (s : String) : visible (collapse s).toList = visible s.toList := by
  rw [visible_eq_flatten, words_collapse, ← visible_eq_flatten]

end SqlSchema.Text
