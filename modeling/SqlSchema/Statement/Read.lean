import SqlSchema.Statement.Clause
/-!
# Reading statements

A script falls into statements at its semicolons, and each statement is read on its own: none can read
past its semicolon, however malformed it is. Statements of any other kind give nothing.
-/
namespace SqlSchema

/-- The token lists between the semicolons, up to the end of the text. -/
def splitStatements : List Token → List (List Token)
  | [] => [[]]
  | t :: ts =>
    if t.kind = .endOfText then [[]]
    else if t.kind = .semicolon then [] :: splitStatements ts
    else
      match splitStatements ts with
      | [] => [[t]]
      | statement :: statements => (t :: statement) :: statements

/-- How far a CREATE TABLE statement can be read. -/
inductive TableOutline
  | withoutList (name : String)
  | unclosed (name : String)
  | body (name : String) (items : List (List Token))
deriving DecidableEq, Repr

/-- The name and the body of a CREATE TABLE statement; `none` for any other statement. -/
def readOutline? (ts : List Token) : Option TableOutline := do
  let ts ← behind? ["CREATE"] ts
  let ts := skipPhrase ["OR", "REPLACE"] ts
  let ts := skipOneOf [["GLOBAL"], ["LOCAL"]] ts
  let ts := skipOneOf [["TEMPORARY"], ["TEMP"], ["UNLOGGED"]] ts
  let ts ← behind? ["TABLE"] ts
  let (name, ts) := readDottedName (skipPhrase ["IF", "NOT", "EXISTS"] ts)
  let name ← name
  if startsWith .leftParen ts then
    let (items, rest) := splitTopLevel true ts.tail
    if startsWith .rightParen rest then some (.body name items) else some (.unclosed name)
  else some (.withoutList name)

def readCreate? (source : String) (ts : List Token) : Option CreateTable :=
  match readOutline? ts with
  | some (.body name items) => some ⟨name, items.filterMap (readElement? source)⟩
  | _ => none

def readAlter? (ts : List Token) : Option AlterTable := do
  let ts ← behind? ["ALTER", "TABLE"] ts
  let ts := skipPhrase ["ONLY"] (skipPhrase ["IF", "EXISTS"] ts)
  let (name, ts) := readDottedName ts
  some ⟨← name, (splitTopLevel false ts).1.filterMap readAddClause?⟩

/-- The statement that the tokens between two semicolons make up. -/
def readStatement? (source : String) (ts : List Token) : Option Statement :=
  ((readCreate? source ts).map .create).or ((readAlter? ts).map .alter)

/-- The statements of a script. Spans of the tokens refer to `source`. -/
def readStatements (source : String) (ts : List Token) : List Statement :=
  (splitStatements ts).filterMap (readStatement? source)

end SqlSchema
