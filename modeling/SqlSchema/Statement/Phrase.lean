import SqlSchema.Token.Basic
/-!
# Keywords and names in token lists

A reader takes a token list and returns what is left of it. Optional syntax is skipped: if it is not
there in full, nothing of it is consumed.
-/
namespace SqlSchema

/-- The tokens behind a sequence of keywords, if all of it stands at the front. -/
def behind? : List String → List Token → Option (List Token)
  | [], ts => some ts
  | _ :: _, [] => none
  | k :: ks, t :: ts => if t.isWord k then behind? ks ts else none

/-- Skips a sequence of keywords. -/
def skipPhrase (phrase : List String) (ts : List Token) : List Token :=
  (behind? phrase ts).getD ts

/-- The tokens behind the first of several sequences of keywords that stands at the front. -/
def behindOneOf? (phrases : List (List String)) (ts : List Token) : Option (List Token) :=
  phrases.findSome? (fun phrase => behind? phrase ts)

/-- Skips the first of several sequences of keywords that stands at the front. -/
def skipOneOf (phrases : List (List String)) (ts : List Token) : List Token :=
  (behindOneOf? phrases ts).getD ts

def startsWith (kind : TokenKind) (ts : List Token) : Bool :=
  ts.head?.any (fun t => t.kind == kind)

/-- Skips one token of a kind. -/
def skipKind (kind : TokenKind) (ts : List Token) : List Token :=
  if startsWith kind ts then ts.tail else ts

/-- A name, bare or quoted. -/
def readName? : List Token → Option (String × List Token)
  | [] => none
  | t :: ts => t.name?.map (fun name => (name, ts))

/-- The last part of a dotted name. The tokens of a name that breaks off are consumed too. -/
def readDottedName : List Token → Option String × List Token
  | [] => (none, [])
  | t :: ts =>
    match t.name? with
    | none => (none, t :: ts)
    | some name =>
      match ts with
      | d :: rest => if d.kind = .dot then readDottedName rest else (some name, d :: rest)
      | [] => (some name, [])

theorem behind?_length {phrase : List String} {ts rest : List Token}
    (h : behind? phrase ts = some rest) : ts.length = phrase.length + rest.length := by
  fun_induction behind? phrase ts with
  | case1 => simp_all
  | case2 => simp at h
  | case3 _ _ _ _ _ ih => have := ih h; simp only [List.length_cons]; omega
  | case4 => simp at h

theorem behindOneOf?_length {phrases : List (List String)} {ts rest : List Token}
    (h : behindOneOf? phrases ts = some rest) : rest.length ≤ ts.length := by
  obtain ⟨phrase, _, hp⟩ := List.exists_of_findSome?_eq_some h
  have := behind?_length hp
  omega

theorem skipOneOf_length (phrases : List (List String)) (ts : List Token) :
    (skipOneOf phrases ts).length ≤ ts.length := by
  unfold skipOneOf
  cases h : behindOneOf? phrases ts with
  | none => simp
  | some rest => exact behindOneOf?_length h

theorem skipKind_length (kind : TokenKind) (ts : List Token) :
    (skipKind kind ts).length ≤ ts.length := by
  unfold skipKind
  split <;> simp

theorem readDottedName_length (ts : List Token) :
    (readDottedName ts).2.length ≤ ts.length := by
  fun_induction readDottedName ts with
  | case1 => simp
  | case2 => simp
  | case3 _ _ _ _ _ _ ih => simp only [List.length_cons]; omega
  | case4 => simp
  | case5 => simp

end SqlSchema
