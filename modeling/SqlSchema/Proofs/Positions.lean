import SqlSchema.Proofs.Groups
import SqlSchema.Proofs.Keywords
/-!
# Positions in token lists

The readers drop tokens from the front of a list. The same lists can be cut, and the same types
followed, with a position that moves over tokens that stay in place, if each index and each slice that
is taken lies within them. It always does, and the result is that of the readers.
-/
namespace SqlSchema

/-- The tokens from one position to another. -/
def part? (ts : List Token) (start stop : Nat) : Option (List Token) :=
  if start ≤ stop ∧ stop ≤ ts.length then some ((ts.take stop).drop start) else none

/-- The token in front of a position. -/
def tokenBefore? (ts : List Token) (pos : Nat) : Option Token :=
  if pos = 0 then none else ts[pos - 1]?

/-- The items of a list that are open at `start` and behind it, and the position where the list ends. -/
def cutItems? (closes : Bool) (ts : List Token) (depth start pos : Nat) :
    Option (List (List Token) × Nat) :=
  match _h : ts[pos]? with
  | none => (part? ts start (min pos ts.length)).map fun item => ([item], pos)
  | some t =>
    if t.endsStatement ∨ (closes ∧ depth = 0 ∧ t.kind = .rightParen) then
      (part? ts start (min pos ts.length)).map fun item => ([item], pos)
    else if t.kind = .comma ∧ depth = 0 then
      (part? ts start pos).bind fun item =>
        (cutItems? closes ts depth (pos + 1) (pos + 1)).map fun r => (item :: r.1, r.2)
    else cutItems? closes ts (depthAfter depth t) start (pos + 1)
termination_by ts.length - pos
decreasing_by
  all_goals
    have := (List.getElem?_eq_some_iff.1 _h).1
    omega

/-- Where a type ends that has come to a position: behind the last of the parts that follow. -/
def typeStop? (ts : List Token) (pos stop : Nat) : Option Nat :=
  match _h : readTypePart? (ts.drop pos) with
  | none => some stop
  | some (part, _) =>
    (tokenBefore? ts (pos + part.length)).bind fun last =>
      typeStop? ts (pos + part.length) last.stop
termination_by ts.length - pos
decreasing_by
  have h1 := congrArg List.length (readTypePart?_append _h)
  have h2 := readTypePart?_length _h
  simp only [List.length_append, List.length_drop] at h1 h2
  omega

section Lists

variable {ts : List Token} {start pos : Nat}

theorem part?_eq_some (h : start ≤ pos) (hpos : pos ≤ ts.length) :
    part? ts start pos = some ((ts.take pos).drop start) :=
  if_pos ⟨h, hpos⟩

private theorem drop_eq_cons {t : Token} (ht : ts[pos]? = some t) :
    ts.drop pos = t :: ts.drop (pos + 1) := by
  obtain ⟨hlt, rfl⟩ := List.getElem?_eq_some_iff.1 ht
  exact List.drop_eq_getElem_cons hlt

private theorem drop_take_succ (h : start ≤ pos) {t : Token} (ht : ts[pos]? = some t) :
    (ts.take (pos + 1)).drop start = (ts.take pos).drop start ++ [t] := by
  obtain ⟨hlt, rfl⟩ := List.getElem?_eq_some_iff.1 ht
  rw [List.take_add_one, List.getElem?_eq_getElem hlt, Option.toList_some,
    List.drop_append_of_le_length (by simp; omega)]

theorem cutItems?_eq_some (closes : Bool) (depth : Nat) (h : start ≤ pos) (hpos : pos ≤ ts.length) :
    cutItems? closes ts depth start pos =
      some ((splitCommas depth (splitBody closes depth (ts.drop pos)).1).modifyHead
          ((ts.take pos).drop start ++ ·),
        pos + (splitBody closes depth (ts.drop pos)).1.length) := by
  fun_induction cutItems? closes ts depth start pos with
  | case1 depth start pos hnone =>
    have hend : ts.drop pos = [] := List.drop_eq_nil_of_le (List.getElem?_eq_none_iff.1 hnone)
    rw [hend, Nat.min_eq_left hpos, part?_eq_some h hpos]
    simp [splitBody, splitCommas]
  | case2 depth start pos t ht hstop =>
    rw [drop_eq_cons ht, splitBody, if_pos hstop, Nat.min_eq_left hpos, part?_eq_some h hpos]
    simp [splitCommas]
  | case3 depth start pos t ht hgo hcomma ih =>
    have hlt := (List.getElem?_eq_some_iff.1 ht).1
    have hdepth : depthAfter depth t = depth := by simp [depthAfter, hcomma.1]
    have hempty : (ts.take (pos + 1)).drop (pos + 1) = [] := by simp
    rw [ih (Nat.le_refl _) hlt, part?_eq_some h hpos, drop_eq_cons ht, splitBody, if_neg hgo, hdepth]
    simp only [splitCommas, hcomma, and_self, if_true, hempty, List.nil_append, Option.map_some,
      Option.bind_some, List.modifyHead_cons, List.append_nil, List.length_cons, Option.some.injEq,
      Prod.mk.injEq, List.cons.injEq, true_and]
    exact ⟨congrFun List.modifyHead_id _, by omega⟩
  | case4 depth start pos t ht hgo hcomma ih =>
    -- the token is still part of the open item: it moves from the rest to the end of the first item
    have hlt := (List.getElem?_eq_some_iff.1 ht).1
    rw [ih (Nat.le_succ_of_le h) hlt, drop_eq_cons ht, splitBody, if_neg hgo, drop_take_succ h ht]
    obtain ⟨first, rest, heq⟩ := List.exists_cons_of_ne_nil
      (splitCommas_ne_nil (depthAfter depth t) (splitBody closes (depthAfter depth t) (ts.drop (pos + 1))).1)
    simp only [splitCommas, if_neg hcomma, heq, List.modifyHead_cons, List.append_assoc,
      List.singleton_append, List.length_cons]
    rw [Nat.add_assoc, Nat.add_comm 1]

/-- The items that positions cut are those that the readers split off, and so is what follows. -/
theorem cutItems?_splitTopLevel (closes : Bool) (hpos : pos ≤ ts.length) :
    (cutItems? closes ts 0 pos pos).map
        (fun r => (r.1.filter (fun item => !item.isEmpty), ts.drop r.2)) =
      some (splitTopLevel closes (ts.drop pos)) := by
  have hempty : (ts.take pos).drop pos = [] := by simp
  have hrest : ts.drop (pos + (splitBody closes 0 (ts.drop pos)).1.length) =
      (splitBody closes 0 (ts.drop pos)).2 := by
    generalize hsplit : splitBody closes 0 (ts.drop pos) = body
    have happ : body.1 ++ body.2 = ts.drop pos := hsplit ▸ splitBody_append closes 0 (ts.drop pos)
    rw [← List.drop_drop, ← happ, List.drop_left]
  rw [cutItems?_eq_some closes 0 (Nat.le_refl pos) hpos, hempty, Option.map_some, hrest, splitTopLevel]
  have hid : List.modifyHead (fun item : List Token => [] ++ item) = id := List.modifyHead_id
  rw [hid]
  rfl

end Lists

section Types

variable {ts : List Token} {pos : Nat}

/-- Following a type by positions never looks in front of the tokens, and ends where the type ends. -/
theorem typeStop?_eq_some (hpos : pos ≤ ts.length) (stop : Nat) :
    typeStop? ts pos stop =
      some (((readTypeTail (ts.drop pos)).1.getLast?.map Token.stop).getD stop) := by
  fun_induction typeStop? ts pos stop with
  | case1 pos stop hnone => rw [readTypeTail_of_none hnone]; rfl
  | case2 pos stop part rest hpart ih =>
    have happ := readTypePart?_append hpart
    have hshort := readTypePart?_length hpart
    have hlength := congrArg List.length happ
    simp only [List.length_append, List.length_drop] at hshort hlength
    have hne : part ≠ [] := by
      rintro rfl
      simp at hshort hlength
      omega
    have hrest : ts.drop (pos + part.length) = rest := by
      rw [← List.drop_drop, ← happ, List.drop_left]
    have hpositive := List.length_pos_iff.2 hne
    have hbefore : tokenBefore? ts (pos + part.length) = part.getLast? := by
      rw [tokenBefore?, if_neg (by omega), Nat.add_sub_assoc hpositive, ← List.getElem?_drop, ← happ,
        List.getElem?_append_left (by omega), List.getLast?_eq_getElem?]
    have hlast := List.getLast?_eq_some_getLast hne
    rw [readTypeTail_of_some hpart, hbefore, hlast, Option.bind_some, ih _ (by omega), hrest,
      List.getLast?_append, hlast]
    cases (readTypeTail rest).1.getLast? <;> rfl

end Types

section Kinds

theorem kindSize?_le {ts : List Token} {size : Nat} (h : kindSize? ts = some size) : size ≤ ts.length := by
  unfold kindSize? at h
  split at h
  · next hfound =>
    obtain ⟨rest, hrest⟩ := Option.isSome_iff_exists.1 hfound
    obtain ⟨phrase, hmem, hphrase⟩ := List.exists_of_findSome?_eq_some hrest
    have hlength := behind?_length hphrase
    have htwo : ∀ phrase ∈ [["PRIMARY", "KEY"], ["FOREIGN", "KEY"]], phrase.length = 2 := by decide
    have := htwo phrase hmem
    obtain rfl := Option.some.inj h
    omega
  · split at h
    · next hunique =>
      obtain ⟨rest, hrest⟩ := Option.isSome_iff_exists.1 hunique
      have hlength := behind?_length hrest
      obtain rfl := Option.some.inj h
      simp only [List.length_cons, List.length_nil] at hlength
      omega
    · simp at h

theorem ofKeywords?_isSome_of_kindSize? {ts : List Token} {size : Nat} (h : kindSize? ts = some size) :
    (ConstraintKind.ofKeywords? (" ".intercalate ((ts.take size).filterMap Token.word?))).isSome := by
  by_contra hnone
  rw [Option.not_isSome_iff_eq_none] at hnone
  have hread : readKind? ts = none := by
    rw [readKind?, h]
    simp [hnone]
  rw [readKind?_eq, List.findSome?_eq_none_iff] at hread
  have hbehind : ∀ p ∈ kindPhrases, behind? p.1 ts = none := fun p hp => by simpa using hread p hp
  simp [kindPhrases] at hbehind
  simp [kindSize?, behindOneOf?, hbehind] at h

end Kinds

end SqlSchema
