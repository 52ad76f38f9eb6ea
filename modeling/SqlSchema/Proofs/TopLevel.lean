import Mathlib.Data.List.Infix
import SqlSchema.Proofs.Groups
/-!
# Splitting at the top level

A list goes on to the end of its statement or, if it closes, to the parenthesis that closes no group of
its own. Its tokens are the items and the commas between them. In a list that is closed, each item closes the
groups that it opens, and its commas all stand inside of them.
-/
namespace SqlSchema

/-- No front of the list closes more groups than it opens, and all that the list opens are closed. -/
structure IsBalanced {α : Type} (opens closes : α → Bool) (xs : List α) : Prop where
  front : ∀ ys, ys <+: xs → ys.countP closes ≤ ys.countP opens
  whole : xs.countP closes = xs.countP opens

instance {α : Type} (opens closes : α → Bool) (xs : List α) : Decidable (IsBalanced opens closes xs) :=
  decidable_of_iff
    ((∀ ys ∈ xs.inits, ys.countP closes ≤ ys.countP opens) ∧ xs.countP closes = xs.countP opens)
    ⟨fun h => ⟨fun ys hys => h.1 ys ((List.mem_inits ys xs).2 hys), h.2⟩,
      fun h => ⟨fun ys hys => h.front ys ((List.mem_inits ys xs).1 hys), h.whole⟩⟩

def Token.opens (t : Token) : Bool := t.kind == .leftParen

def Token.closes (t : Token) : Bool := t.kind == .rightParen

/-- Whether a list that is open `depth` deep ends at a token, behind the tokens in front of it: at a sign
that ends the statement or, if the list closes, at a parenthesis that closes none of the open groups. -/
def EndsList (closes : Bool) (depth : Nat) (front : List Token) (t : Token) : Prop :=
  t.kind = .semicolon ∨ t.kind = .endOfText ∨
    (closes = true ∧ t.kind = .rightParen ∧ front.countP Token.closes = depth + front.countP Token.opens)

/-- Items with single commas between them. -/
inductive CommaJoined : List (List Token) → List Token → Prop
  | single (item : List Token) : CommaJoined [item] item
  | cons (item : List Token) {comma : Token} {items : List (List Token)} {ts : List Token}
      (hcomma : comma.kind = .comma) (hts : CommaJoined items ts) :
      CommaJoined (item :: items) (item ++ comma :: ts)

/-- Inside parentheses `depth` deep, all commas of an item stand in groups. -/
def HoldsCommas (depth : Nat) (item : List Token) : Prop :=
  ∀ front comma back, item = front ++ comma :: back → comma.kind = .comma → depthFrom depth front ≠ 0

section Depth

theorem endsStatement_iff {t : Token} : t.endsStatement ↔ t.kind = .semicolon ∨ t.kind = .endOfText := by
  simp [Token.endsStatement]

theorem endsList_nil {closes : Bool} {depth : Nat} {t : Token} :
    EndsList closes depth [] t ↔ t.endsStatement ∨ (closes ∧ depth = 0 ∧ t.kind = .rightParen) := by
  rw [EndsList, endsStatement_iff, or_assoc]
  simp only [List.countP_nil, Nat.add_zero, eq_comm (a := (0 : Nat)), and_comm (a := depth = 0)]

/-- A token that closes no group around the list is counted for what it opens and closes. -/
theorem depthAfter_add {depth : Nat} {t : Token} (h : t.kind = .rightParen → depth ≠ 0) :
    depthAfter depth t + (if t.closes then 1 else 0) = depth + if t.opens then 1 else 0 := by
  unfold depthAfter Token.closes Token.opens
  split
  · next hk => simp [hk]
  · next hk =>
    have hdepth := h hk
    simp only [hk, BEq.rfl, if_true, reduceCtorEq, beq_iff_eq, if_false]
    omega
  · next hopen hclose => simp only [beq_iff_eq, if_neg hopen, if_neg hclose]

theorem endsList_cons {closes : Bool} {depth : Nat} {t : Token} (h : ¬EndsList closes depth [] t)
    (front : List Token) (u : Token) :
    EndsList closes depth (t :: front) u ↔ EndsList closes (depthAfter depth t) front u := by
  cases closes with
  | false => simp [EndsList]
  | true =>
    have hdepth := depthAfter_add (t := t) fun hk h0 => h (endsList_nil.2 (.inr ⟨rfl, h0, hk⟩))
    have hcount : (t :: front).countP Token.closes = depth + (t :: front).countP Token.opens ↔
        front.countP Token.closes = depthAfter depth t + front.countP Token.opens := by
      rw [List.countP_cons, List.countP_cons]
      omega
    rw [EndsList, EndsList, hcount]

theorem splitBody_endsList (closes : Bool) (depth : Nat) (ts : List Token) :
    (∀ front t back, (splitBody closes depth ts).1 = front ++ t :: back →
        ¬EndsList closes depth front t) ∧
      ∀ t, (splitBody closes depth ts).2.head? = some t →
        EndsList closes depth (splitBody closes depth ts).1 t := by
  induction ts generalizing depth with
  | nil => simp [splitBody]
  | cons t ts ih =>
    rw [splitBody]
    split
    · next hstop =>
      refine ⟨by simp, fun u hu => ?_⟩
      obtain rfl : t = u := by simpa using hu
      exact endsList_nil.2 hstop
    · next hgo =>
      rw [← endsList_nil] at hgo
      obtain ⟨hbody, hrest⟩ := ih (depthAfter depth t)
      refine ⟨fun front u back heq => ?_, fun u hu => (endsList_cons hgo _ u).2 (hrest u hu)⟩
      rcases front with _ | ⟨v, front⟩
      · obtain ⟨rfl, -⟩ := List.cons.inj heq
        exact hgo
      · obtain ⟨rfl, htail⟩ := List.cons.inj heq
        rw [endsList_cons hgo]
        exact hbody front u back htail

theorem Nested.depthFrom_add {depth : Nat} {ts : List Token} (h : Nested depth ts) :
    depthFrom depth ts + ts.countP Token.closes = depth + ts.countP Token.opens := by
  induction ts generalizing depth with
  | nil => simp
  | cons t ts ih =>
    obtain ⟨-, hsign, hrest⟩ := h
    have hdepth := depthAfter_add (t := t) fun hk h0 => (hsign h0).1 hk
    have htail := ih hrest
    rw [depthFrom_cons, List.countP_cons, List.countP_cons]
    omega

theorem Enclosed.isBalanced {item : List Token} (h : Enclosed item) :
    IsBalanced Token.opens Token.closes item where
  front := by
    rintro front ⟨back, rfl⟩
    have hfront := (nested_append.1 h.1).1.depthFrom_add
    omega
  whole := by
    have hwhole := h.1.depthFrom_add
    rw [h.2] at hwhole
    omega

theorem Enclosed.comma_inside {front back : List Token} {comma : Token}
    (h : Enclosed (front ++ comma :: back)) (hcomma : comma.kind = .comma) :
    front.countP Token.closes < front.countP Token.opens := by
  obtain ⟨hfront, hback⟩ := nested_append.1 h.1
  have hinside : depthFrom 0 front ≠ 0 := fun h0 => (hback.2.1 h0).2 hcomma
  have hcount := hfront.depthFrom_add
  omega

end Depth

section Items

/-- A token in front of joined items belongs to the first of them. -/
theorem CommaJoined.cons_head {item : List Token} {items : List (List Token)} {ts : List Token}
    (h : CommaJoined (item :: items) ts) (t : Token) : CommaJoined ((t :: item) :: items) (t :: ts) := by
  cases h with
  | single => exact .single _
  | cons _ hcomma hts => exact .cons (t :: item) hcomma hts

theorem commaJoined_splitCommas (depth : Nat) (ts : List Token) :
    CommaJoined (splitCommas depth ts) ts := by
  induction ts generalizing depth with
  | nil => exact .single []
  | cons t ts ih =>
    rw [splitCommas]
    split
    · next hcomma => exact .cons [] hcomma.1 (ih depth)
    · obtain ⟨item, items, heq⟩ := List.exists_cons_of_ne_nil (splitCommas_ne_nil (depthAfter depth t) ts)
      have hjoined := ih (depthAfter depth t)
      rw [heq] at hjoined ⊢
      exact hjoined.cons_head t

theorem holdsCommas_nil (depth : Nat) : HoldsCommas depth [] := by
  intro front comma back heq
  simp at heq

theorem HoldsCommas.cons {depth : Nat} {t : Token} {item : List Token}
    (h : HoldsCommas (depthAfter depth t) item) (ht : ¬(t.kind = .comma ∧ depth = 0)) :
    HoldsCommas depth (t :: item) := by
  intro front comma back heq hcomma
  rcases front with _ | ⟨u, front⟩
  · obtain ⟨rfl, -⟩ := List.cons.inj heq
    exact fun h0 => ht ⟨hcomma, h0⟩
  · obtain ⟨rfl, htail⟩ := List.cons.inj heq
    exact h front comma back htail hcomma

theorem holdsCommas_of_splitCommas {depth : Nat} {ts item : List Token} {items : List (List Token)}
    (h : splitCommas depth ts = item :: items) :
    HoldsCommas depth item ∧ ∀ other ∈ items, HoldsCommas 0 other := by
  induction ts generalizing depth item items with
  | nil =>
    obtain ⟨rfl, rfl⟩ := List.cons.inj h
    exact ⟨holdsCommas_nil depth, by simp⟩
  | cons t ts ih =>
    obtain ⟨first, rest, heq⟩ := List.exists_cons_of_ne_nil (splitCommas_ne_nil (depthAfter depth t) ts)
    rw [splitCommas] at h
    split at h
    · next hcomma =>
      obtain ⟨rfl, rfl⟩ := List.cons.inj h
      obtain ⟨hk, rfl⟩ := hcomma
      have h0 : depthAfter 0 t = 0 := by simp [depthAfter, hk]
      rw [h0] at heq
      obtain ⟨hfirst, hrest⟩ := ih heq
      rw [heq]
      exact ⟨holdsCommas_nil 0, by simpa using ⟨hfirst, hrest⟩⟩
    · next hgo =>
      rw [heq] at h
      obtain ⟨rfl, rfl⟩ := List.cons.inj h
      obtain ⟨hfirst, hrest⟩ := ih heq
      exact ⟨hfirst.cons hgo, hrest⟩

theorem holdsCommas_of_mem_splitCommas {ts item : List Token} (h : item ∈ splitCommas 0 ts) :
    HoldsCommas 0 item := by
  obtain ⟨first, rest, heq⟩ := List.exists_cons_of_ne_nil (splitCommas_ne_nil 0 ts)
  obtain ⟨hfirst, hrest⟩ := holdsCommas_of_splitCommas heq
  rw [heq] at h
  rcases List.mem_cons.1 h with rfl | h
  · exact hfirst
  · exact hrest item h

end Items

/-- From any position on, the tokens are the items that splitting finds and single commas between them, up
to the first token that can end the list. Only empty items are dropped. In a list that closes and is closed,
an item closes the groups that it opens, and no other, and its commas stand in them. -/
theorem splitTopLevel_partition (closes : Bool) (ts : List Token) (pos : Nat) :
    ∃ passed parts rest, ts.drop pos = passed ++ rest ∧
      splitTopLevel closes (ts.drop pos) = (parts.filter (fun item => !item.isEmpty), rest) ∧
      (∀ front t back, passed = front ++ t :: back → ¬EndsList closes 0 front t) ∧
      (∀ t, rest.head? = some t → EndsList closes 0 passed t) ∧
      CommaJoined parts passed ∧
      (∀ item ∈ (splitTopLevel closes (ts.drop pos)).1,
        item ≠ [] ∧ HoldsCommas 0 item ∧ ∀ t ∈ item, t.kind ≠ .semicolon ∧ t.kind ≠ .endOfText) ∧
      (closes = true → startsWith .rightParen rest → ∀ item ∈ (splitTopLevel closes (ts.drop pos)).1,
        IsBalanced Token.opens Token.closes item ∧ ∀ front comma back, item = front ++ comma :: back →
          comma.kind = .comma → front.countP Token.closes < front.countP Token.opens) := by
  generalize ts.drop pos = us
  obtain ⟨hbody, hrest⟩ := splitBody_endsList closes 0 us
  refine ⟨(splitBody closes 0 us).1, splitCommas 0 (splitBody closes 0 us).1, (splitBody closes 0 us).2,
    (splitBody_append closes 0 us).symm, rfl, hbody, hrest, commaJoined_splitCommas 0 _, ?_, ?_⟩
  · intro item hitem
    obtain ⟨hmem, hne⟩ := List.mem_filter.1 hitem
    refine ⟨by simpa using hne, holdsCommas_of_mem_splitCommas hmem, fun t ht => ?_⟩
    have hpassed : t ∈ (splitBody closes 0 us).1 := (splitCommas_isInfix hmem).subset ht
    have hend := endsStatement_of_mem_splitBody hpassed
    rwa [← Bool.not_eq_true, endsStatement_iff, not_or] at hend
  · rintro rfl hclosed item hitem
    have henclosed := enclosed_of_mem_splitCommas hclosed item (List.mem_filter.1 hitem).1
    refine ⟨henclosed.isBalanced, ?_⟩
    rintro front comma back rfl hcomma
    exact henclosed.comma_inside hcomma

/-- The tokens of `(a NUMERIC(1, 2), , b) x`. -/
def columnTokens : List Token :=
  [⟨.leftParen, 0, 1⟩, ⟨.word "a", 1, 2⟩, ⟨.word "NUMERIC", 3, 10⟩, ⟨.leftParen, 10, 11⟩,
    ⟨.number "1", 11, 12⟩, ⟨.comma, 12, 13⟩, ⟨.number "2", 14, 15⟩, ⟨.rightParen, 15, 16⟩, ⟨.comma, 16, 17⟩,
    ⟨.comma, 18, 19⟩, ⟨.word "b", 20, 21⟩, ⟨.rightParen, 21, 22⟩, ⟨.word "x", 23, 24⟩]

theorem splitTopLevel_partition_columns :
    startsWith .rightParen (splitTopLevel true (columnTokens.drop 1)).2 ∧
      (splitTopLevel true (columnTokens.drop 1)).1.length = 2 ∧
      ∀ item ∈ (splitTopLevel true (columnTokens.drop 1)).1,
        IsBalanced Token.opens Token.closes item ∧ ∀ front comma back, item = front ++ comma :: back →
          comma.kind = .comma → front.countP Token.closes < front.countP Token.opens := by
  obtain ⟨_, _, rest, -, hsplit, -, -, -, -, hbalanced⟩ := splitTopLevel_partition true columnTokens 1
  have hclosed : startsWith .rightParen (splitTopLevel true (columnTokens.drop 1)).2 := by decide
  refine ⟨hclosed, by decide, hbalanced rfl ?_⟩
  rwa [hsplit] at hclosed

end SqlSchema
