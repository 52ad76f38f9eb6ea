import SqlSchema.Constraint.Pending
import SqlSchema.Schema.Draft
import SqlSchema.Statement.Read
import SqlSchema.Text.Words
import SqlSchema.Token.Scan
/-!
# Scripts

From the text of a script to its schema. Tables are built from the CREATE TABLE statements first; the
constraints of all ALTER TABLE statements are applied afterwards, wherever they stand. Either the
whole script is read or none of it.
-/
namespace SqlSchema

structure ReadOptions where
  dialect : Dialect
  /-- Whether to drop relationships that are declared more than once. -/
  dedup : Bool
  maxBytes : Nat
deriving DecidableEq, Repr

/-- The default bound on the size of a script: 64 MiB. -/
def defaultMaxBytes : Nat := 64 * 1024 * 1024

def ReadOptions.default : ReadOptions := ⟨.generic, false, defaultMaxBytes⟩

inductive ReadError
  | tooLarge (size limit : Nat)
  | unterminatedIdentifier (position : Text.Position)
deriving DecidableEq, Repr

def ReadError.message : ReadError → String
  | tooLarge size limit =>
    "Input is " ++ toString size ++ " bytes, over the " ++ toString limit ++ " byte limit"
  | unterminatedIdentifier p =>
    "Unterminated quoted identifier starting at line " ++ toString p.line ++ ", column "
      ++ toString p.column

/-- A script that could be cut into tokens: its normalized text, its dialect and its tokens. -/
structure Script where
  text : String
  dialect : Dialect
  tokens : List Token
deriving DecidableEq, Repr

namespace Script

def read (options : ReadOptions) (input : String) : Except ReadError Script :=
  if options.maxBytes < input.utf8ByteSize then
    .error (.tooLarge input.utf8ByteSize options.maxBytes)
  else
    let text := Text.normalize input
    let dialect := options.dialect.resolve text
    match tokenize dialect text with
    | .ok tokens => .ok ⟨text, dialect, tokens⟩
    | .error position => .error (.unterminatedIdentifier position)

def statements (s : Script) : List Statement := readStatements s.text s.tokens

end Script

/-- The tables and relationships that the CREATE TABLE statements declare. -/
def declaredSchema (statements : List Statement) : Schema :=
  let drafts := (statements.filterMap Statement.create?).map CreateTable.draft
  ⟨drafts.map TableDraft.table, drafts.flatMap TableDraft.relationships⟩

/-- The constraints that the ALTER TABLE statements add. -/
def pendingConstraints (statements : List Statement) : List PendingConstraint :=
  (statements.filterMap Statement.alter?).flatMap AlterTable.pending

/-- The schema of the statements of a script. -/
def schemaOf (dedup : Bool) (statements : List Statement) : Schema :=
  let schema := (declaredSchema statements).reconcile (pendingConstraints statements)
  if dedup then schema.dedupRelationships else schema

/-- Reads a script. -/
def readSchema (options : ReadOptions) (input : String) : Except ReadError Schema :=
  (Script.read options input).map (fun script => schemaOf options.dedup script.statements)

end SqlSchema
