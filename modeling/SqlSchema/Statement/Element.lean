import SqlSchema.Statement.Basic
import SqlSchema.Statement.Split
import SqlSchema.Text.Basic
import SqlSchema.Text.Words
/-!
# Table elements

The elements of a CREATE TABLE body: columns, primary keys and foreign keys. An element that is none
of these, such as a check or an index, is not read at all. Every reader works on the tokens of one
element, so none can read past the comma behind it.
-/
namespace SqlSchema

/-- Words that can open a constraint. All of them can name a column as well. -/
def elementKeywords : List String :=
  ["PRIMARY", "FOREIGN", "UNIQUE", "CHECK", "KEY", "INDEX", "FULLTEXT", "SPATIAL", "LIKE",
   "EXCLUDE", "PERIOD"]

/-- Second words that only follow the first word of a constraint. -/
def constraintFollowers : List String := ["KEY", "INDEX", "FOR", "USING", "NULLS"]

/-- Words that a constraint has in third place. -/
def constraintOptions : List String := ["USING", "INCLUDING", "EXCLUDING"]

/-- Type names, so that `key TEXT` reads as a column and `KEY idx (a)` does not. -/
def typeNames : List String :=
  ["INT", "INTEGER", "SMALLINT", "BIGINT", "TINYINT", "MEDIUMINT", "SERIAL", "BIGSERIAL",
   "SMALLSERIAL", "DECIMAL", "NUMERIC", "REAL", "FLOAT", "DOUBLE", "MONEY", "BIT", "BOOLEAN",
   "BOOL", "CHAR", "CHARACTER", "VARCHAR", "NCHAR", "NVARCHAR", "TEXT", "TINYTEXT", "MEDIUMTEXT",
   "LONGTEXT", "NTEXT", "CITEXT", "BLOB", "BYTEA", "BINARY", "VARBINARY", "DATE", "TIME",
   "TIMESTAMP", "TIMESTAMPTZ", "DATETIME", "DATETIME2", "DATETIMEOFFSET", "INTERVAL", "YEAR",
   "UUID", "UNIQUEIDENTIFIER", "JSON", "JSONB", "XML", "ENUM", "INET", "CIDR"]

/-- Words that continue a type, as in `DOUBLE PRECISION`. -/
def typeContinuations : List String :=
  ["VARYING", "PRECISION", "UNSIGNED", "SIGNED", "ZEROFILL", "IDENTITY"]

/-- What can follow `ON DELETE` and `ON UPDATE`. -/
def referentialActions : List (List String) :=
  [["CASCADE"], ["RESTRICT"], ["SET", "NULL"], ["SET", "DEFAULT"], ["NO", "ACTION"]]

/-- The source text from the first token to the last. -/
def sourceText (source : String) (ts : List Token) : String :=
  match ts.head?, ts.getLast? with
  | some first, some last => (Text.slice? source first.start last.stop).getD ""
  | _, _ => ""

/-- Skips `ON DELETE` and `ON UPDATE` with their actions, also if the action is missing or unknown. -/
def skipReferentialActions : List Token → List Token
  | [] => []
  | t :: ts =>
    if t.isWord "ON" then
      match _h : behindOneOf? [["DELETE"], ["UPDATE"]] ts with
      | some rest => skipReferentialActions (skipOneOf referentialActions rest)
      | none => skipReferentialActions ts
    else t :: ts
termination_by ts => ts.length
decreasing_by
  · have h1 := skipOneOf_length referentialActions rest
    have h2 := behindOneOf?_length _h
    simp only [List.length_cons]
    omega
  · simp

theorem skipReferentialActions_length (ts : List Token) :
    (skipReferentialActions ts).length ≤ ts.length := by
  fun_induction skipReferentialActions ts with
  | case1 => simp
  | case2 t ts _ rest h ih =>
    have h1 := skipOneOf_length referentialActions rest
    have h2 := behindOneOf?_length h
    simp only [List.length_cons]
    omega
  | case3 _ _ _ _ ih => simp only [List.length_cons]; omega
  | case4 => simp

/-- What follows `REFERENCES` at a column: a table and the first name of a column list. -/
def readInlineReference (ts : List Token) : Option InlineReference × List Token :=
  match readDottedName ts with
  | (none, rest) => (none, rest)
  | (some table, rest) =>
    match readColumnList? rest with
    | none => (some ⟨table, none⟩, rest)
    | some (columns, rest) => (some ⟨table, columns.head?⟩, rest)

theorem readInlineReference_length (ts : List Token) :
    (readInlineReference ts).2.length ≤ ts.length := by
  have h1 := readDottedName_length ts
  unfold readInlineReference
  split
  · next h => simpa [h] using h1
  · next h =>
    rw [h] at h1
    split
    · exact h1
    · next hc => exact Nat.le_trans (readColumnList?_length hc) h1

/-- The next part of a type behind its name: arguments, an array suffix, or words that continue it. -/
def readTypePart? : List Token → Option (List Token × List Token)
  | [] => none
  | t :: ts =>
    if t.kind = .leftParen then some (splitGroup 0 (t :: ts))
    else if t.kind = .leftBracket ∧ startsWith .rightBracket ts then some (t :: ts.take 1, ts.drop 1)
    else if t.isOneOf typeContinuations then some ([t], ts)
    else if t.isOneOf ["WITH", "WITHOUT"] then
      (behind? ["TIME", "ZONE"] ts).map (fun rest => (t :: ts.take 2, rest))
    else none

theorem readTypePart?_length {ts part rest : List Token} (h : readTypePart? ts = some (part, rest)) :
    rest.length < ts.length := by
  unfold readTypePart? at h
  split at h
  · simp at h
  · next t more =>
    split at h
    · have := splitGroup_length 0 t more
      simp only [Option.some.injEq] at h
      simp only [h] at this
      simp only [List.length_cons]
      omega
    split at h
    · simp only [Option.some.injEq, Prod.mk.injEq] at h
      simp only [← h.2, List.length_drop, List.length_cons]
      omega
    split at h
    · simp_all
    split at h
    · simp only [Option.map_eq_some_iff, Prod.mk.injEq] at h
      obtain ⟨r, hr, -, rfl⟩ := h
      have := behind?_length hr
      simp only [List.length_cons]
      omega
    · simp at h

/-- The tokens of a type behind its name, and those that follow. -/
def readTypeTail (ts : List Token) : List Token × List Token :=
  match _h : readTypePart? ts with
  | none => ([], ts)
  | some (part, rest) =>
    let (more, rest) := readTypeTail rest
    (part ++ more, rest)
termination_by ts.length
decreasing_by exact readTypePart?_length _h

/-- Reads the options behind a column's type. Parenthesised groups are skipped whole. -/
def readOptions (c : ColumnDefinition) : List Token → ColumnDefinition
  | [] => c
  | t :: ts =>
    match _h : behind? ["PRIMARY", "KEY"] (t :: ts) with
    | some rest => readOptions { c with primaryKey := true } rest
    | none =>
      match _h : behind? ["NOT", "NULL"] (t :: ts) with
      | some rest => readOptions { c with notNull := true } rest
      | none =>
        if t.isWord "REFERENCES" then
          let reference := readInlineReference ts
          readOptions { c with references := reference.1 } (skipReferentialActions reference.2)
        else if t.kind = .leftParen then readOptions c (splitGroup 0 (t :: ts)).2
        else readOptions c ts
termination_by ts => ts.length
decreasing_by
  · have := behind?_length _h; simp only [List.length_cons, List.length_nil] at *; omega
  · have := behind?_length _h; simp only [List.length_cons, List.length_nil] at *; omega
  · have h1 := readInlineReference_length ts
    have h2 := skipReferentialActions_length (readInlineReference ts).2
    simp only [List.length_cons]
    omega
  · have := splitGroup_length 0 t ts
    simp only [List.length_cons]
    omega
  · simp

/-- `name type options`, where the type starts with a bare word. -/
def readColumn? (source : String) (ts : List Token) : Option ColumnDefinition := do
  let (name, ts) ← readName? ts
  match ts with
  | ⟨.word text, start, stop⟩ :: ts =>
    let (tail, ts) := readTypeTail ts
    let type := sourceText source (⟨.word text, start, stop⟩ :: tail)
    some (readOptions ⟨name, Text.collapse type, false, false, none⟩ ts)
  | _ => none

/-- What follows `FOREIGN KEY`: an index name, the columns, and the columns referred to. -/
def readForeignKey? (ts : List Token) : Option ForeignKeyClause := do
  let ts ← if startsWith .leftParen ts then some ts else (readName? ts).map (·.2)
  let (columns, ts) ← readColumnList? ts
  let ts ← behind? ["REFERENCES"] ts
  let (target, ts) := readDottedName ts
  some ⟨columns, ← target, ((readColumnList? ts).map (·.1)).getD []⟩

/-- What follows `PRIMARY KEY`. -/
def readPrimaryKey? (ts : List Token) : Option (List String) :=
  (readColumnList? (skipOneOf [["CLUSTERED"], ["NONCLUSTERED"]] ts)).map (·.1)

/-- Whether an element keyword at the front opens a constraint. A type name behind it makes it a
column. Else a word that belongs to constraints makes it one, as does a list or nothing at all in
third place. -/
def opensConstraint : List Token → Bool
  | [] => false
  | t :: ts =>
    t.isOneOf elementKeywords &&
      match ts with
      | ⟨.word text, start, stop⟩ :: rest =>
        let next : Token := ⟨.word text, start, stop⟩
        !next.isOneOf typeNames &&
          (next.isOneOf constraintFollowers || rest.isEmpty || startsWith .leftParen rest ||
            rest.head?.any (·.isOneOf constraintOptions))
      | _ => true

/-- A key with an optional constraint name. Other constraints are not read. -/
def readConstraint? (ts : List Token) : Option TableElement := do
  let ts ← match behind? ["CONSTRAINT"] ts with
    | some rest => (readName? rest).map (·.2)
    | none => some ts
  match behind? ["PRIMARY", "KEY"] ts, behind? ["FOREIGN", "KEY"] ts with
  | some rest, _ => (readPrimaryKey? rest).map .primaryKey
  | none, some rest => (readForeignKey? rest).map .foreignKey
  | none, none => none

/-- The element that the tokens between two commas make up. -/
def readElement? (source : String) (ts : List Token) : Option TableElement :=
  if (behind? ["CONSTRAINT"] ts).isSome || opensConstraint ts then readConstraint? ts
  else (readColumn? source ts).map .column

end SqlSchema
