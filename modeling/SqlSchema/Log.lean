import SqlSchema.Event
import SqlSchema.Script
/-!
# The log of a script

The events of reading a script, in order: cut literals, the count of tokens, what was left out of the
statements, then the tables as they are built, dropped constraints, and the size of the schema.
-/
namespace SqlSchema

/-- What a CREATE TABLE statement is told to leave out. -/
def statementEvents (source : String) (ts : List Token) : List Event :=
  match readOutline? ts with
  | none => []
  | some (.withoutList name) => [.withoutList name]
  | some (.unclosed name) => [.unclosed name]
  | some (.body name items) =>
    (items.filter (fun item => (readElement? source item).isNone)).map
      (fun item => .elementSkipped name (sourceText source item))

namespace TableDraft

/-- The definitions among the elements whose name the draft has already when they are added. -/
def repeated (d : TableDraft) : List TableElement → List String
  | [] => []
  | e :: es =>
    let rest := repeated (d.add e) es
    match e with
    | .column c => if d.hasColumn c.name then c.name :: rest else rest
    | _ => rest

def builtEvent (d : TableDraft) : Event :=
  .tableBuilt d.name (Text.ascending d.keys) (Text.ascending (d.bindings.map (·.1)))

end TableDraft

def CreateTable.events (c : CreateTable) : List Event :=
  ((TableDraft.empty c.name).repeated c.elements).map (.columnRepeated c.name) ++
    [c.draft.builtEvent]

/-- The constraints on tables that the schema does not have. -/
def droppedEvents (s : Schema) (pending : List PendingConstraint) : List Event :=
  (pending.filter (fun p => (s.table? p.table).isNone)).map
    (fun p => .constraintDropped p.table p.kind)

def Script.events (dedup : Bool) (s : Script) : List Event :=
  let schema := schemaOf dedup s.statements
  (splitStatements s.tokens).flatMap (statementEvents s.text) ++
    (s.statements.filterMap Statement.create?).flatMap CreateTable.events ++
    droppedEvents (declaredSchema s.statements) (pendingConstraints s.statements) ++
    [.schemaRead schema.tables.length schema.relationships.length]

/-- The literals that are cut short in a script, also if it cannot be read to its end. -/
def cutEvents (options : ReadOptions) (input : String) : List Event :=
  let text := Text.normalize input
  (cutPositions .start (scan (options.dialect.resolve text) text.toList).1).map .literalCut

/-- The events of reading a script, and the error that ends it. -/
def readLog (options : ReadOptions) (input : String) : List Event × Option ReadError :=
  match Script.read options input with
  | .ok script =>
    (cutEvents options input ++ [.tokenized script.dialect script.tokens.length] ++
      script.events options.dedup, none)
  | .error (.tooLarge size limit) => ([], some (.tooLarge size limit))
  | .error (.unterminatedIdentifier p) =>
    (cutEvents options input, some (.unterminatedIdentifier p))

end SqlSchema
