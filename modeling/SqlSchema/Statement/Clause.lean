import SqlSchema.Statement.Element
/-!
# Clauses of ALTER TABLE

Only the clauses that add a primary key, a foreign key or a unique constraint are read.
-/
namespace SqlSchema

def Token.word? (t : Token) : Option String :=
  match t.kind with
  | .word text => some text
  | _ => none

/-- How many words at the front name a kind of constraint. -/
def kindSize? (ts : List Token) : Option Nat :=
  if (behindOneOf? [["PRIMARY", "KEY"], ["FOREIGN", "KEY"]] ts).isSome then some 2
  else if (behind? ["UNIQUE"] ts).isSome then some 1
  else none

/-- The kind of constraint that the words at the front name. -/
def readKind? (ts : List Token) : Option (ConstraintKind × List Token) := do
  let size ← kindSize? ts
  let kind ← ConstraintKind.ofKeywords? (" ".intercalate ((ts.take size).filterMap Token.word?))
  some (kind, ts.drop size)

/-- What follows `UNIQUE`: an optional index name and the columns. -/
def readUnique? (ts : List Token) : Option (List String) := do
  let ts := skipOneOf [["KEY"], ["INDEX"]] ts
  let ts ← if startsWith .leftParen ts then some ts else (readName? ts).map (·.2)
  (readColumnList? ts).map (·.1)

/-- `ADD [CONSTRAINT name]` with a kind of constraint and its columns. -/
def readAddClause? (ts : List Token) : Option AddClause := do
  let ts ← behind? ["ADD"] ts
  let ts ← match behind? ["CONSTRAINT"] ts with
    | some rest => (readName? rest).map (·.2)
    | none => some ts
  let (kind, ts) ← readKind? ts
  match kind with
  | .primaryKey => (readPrimaryKey? ts).map .primaryKey
  | .foreignKey => (readForeignKey? ts).map .foreignKey
  | .unique => (readUnique? ts).map .unique

end SqlSchema
