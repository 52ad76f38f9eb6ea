import SqlSchema.Statement.Phrase
/-!
# Groups and lists

Parenthesised groups, and lists that are split at the commas outside of any group. A closing
parenthesis without an open one leaves the depth at zero.
-/
namespace SqlSchema

/-- The depth of parentheses behind a token. -/
def depthAfter (depth : Nat) (t : Token) : Nat :=
  match t.kind with
  | .leftParen => depth + 1
  | .rightParen => depth - 1
  | _ => depth

/-- The tokens up to the end of a group that is open `depth` deep, and those behind it. -/
def splitGroup (depth : Nat) : List Token → List Token × List Token
  | [] => ([], [])
  | t :: ts =>
    if depthAfter depth t = 0 then ([t], ts)
    else
      let (group, rest) := splitGroup (depthAfter depth t) ts
      (t :: group, rest)

/-- The tokens of a list, and those from its end on: the end of the statement or, if `closes`, the
parenthesis that closes the list. -/
def splitBody (closes : Bool) (depth : Nat) : List Token → List Token × List Token
  | [] => ([], [])
  | t :: ts =>
    if t.endsStatement ∨ (closes ∧ depth = 0 ∧ t.kind = .rightParen) then ([], t :: ts)
    else
      let (body, rest) := splitBody closes (depthAfter depth t) ts
      (t :: body, rest)

/-- Splits at the commas outside of any group. -/
def splitCommas (depth : Nat) : List Token → List (List Token)
  | [] => [[]]
  | t :: ts =>
    if t.kind = .comma ∧ depth = 0 then [] :: splitCommas depth ts
    else
      match splitCommas (depthAfter depth t) ts with
      | [] => [[t]]
      | item :: items => (t :: item) :: items

/-- The items of a list that are not empty, and the tokens from the end of the list on. -/
def splitTopLevel (closes : Bool) (ts : List Token) : List (List Token) × List Token :=
  let (body, rest) := splitBody closes 0 ts
  ((splitCommas 0 body).filter (fun item => !item.isEmpty), rest)

/-- The column names of a list `(a, b DESC, c(10))`: the name that each item starts with. -/
def readColumnList? : List Token → Option (List String × List Token)
  | [] => none
  | t :: ts =>
    if t.kind = .leftParen then
      let (items, rest) := splitTopLevel true ts
      some (items.filterMap (fun item => (readName? item).map (·.1)), skipKind .rightParen rest)
    else none

theorem splitGroup_append (depth : Nat) (ts : List Token) :
    (splitGroup depth ts).1 ++ (splitGroup depth ts).2 = ts := by
  fun_induction splitGroup depth ts with
  | case1 => rfl
  | case2 => rfl
  | case3 _ _ _ _ _ _ h ih => simpa [h] using ih

theorem splitBody_append (closes : Bool) (depth : Nat) (ts : List Token) :
    (splitBody closes depth ts).1 ++ (splitBody closes depth ts).2 = ts := by
  fun_induction splitBody closes depth ts with
  | case1 => rfl
  | case2 => rfl
  | case3 _ _ _ _ _ _ h ih => simpa [h] using ih

theorem splitGroup_length (depth : Nat) (t : Token) (ts : List Token) :
    (splitGroup depth (t :: ts)).2.length ≤ ts.length := by
  rw [splitGroup]
  split
  · simp
  · have h := congrArg List.length (splitGroup_append (depthAfter depth t) ts)
    simp only [List.length_append] at h
    simp only
    omega

theorem readColumnList?_length {ts rest : List Token} {columns : List String}
    (h : readColumnList? ts = some (columns, rest)) : rest.length ≤ ts.length := by
  unfold readColumnList? at h
  split at h
  · simp at h
  · next t more =>
    split at h
    · simp only [splitTopLevel, Option.some.injEq, Prod.mk.injEq] at h
      have h1 := congrArg List.length (splitBody_append true 0 more)
      have h2 := skipKind_length .rightParen (splitBody true 0 more).2
      simp only [List.length_append] at h1
      rw [← h.2, List.length_cons]
      omega
    · simp at h

end SqlSchema
