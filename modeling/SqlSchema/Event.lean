import SqlSchema.Constraint.Basic
import SqlSchema.Dialect
import SqlSchema.Text.Basic
import SqlSchema.Text.Display
/-!
# Events

What is logged while a script is read, in the words of the log.
-/
namespace SqlSchema

inductive EventLevel
  | debug
  | trace
deriving DecidableEq, Repr

def EventLevel.name : EventLevel → String
  | debug => "DEBUG"
  | trace => "TRACE"

inductive Event
  | literalCut (position : Text.Position)
  | tokenized (dialect : Dialect) (tokens : Nat)
  | withoutList (table : String)
  | unclosed (table : String)
  | elementSkipped (table element : String)
  | columnRepeated (table column : String)
  | tableBuilt (table : String) (primaryKey foreignKeys : List String)
  | constraintDropped (table : String) (kind : ConstraintKind)
  | schemaRead (tables relationships : Nat)
deriving DecidableEq, Repr

namespace Event

def level : Event → EventLevel
  | literalCut _ => .debug
  | tokenized _ _ => .debug
  | withoutList _ => .trace
  | unclosed _ => .trace
  | elementSkipped _ _ => .trace
  | columnRepeated _ _ => .trace
  | tableBuilt _ _ _ => .debug
  | constraintDropped _ _ => .debug
  | schemaRead _ _ => .debug

def message : Event → String
  | literalCut _ => "unterminated string literal cut short"
  | tokenized _ _ => "tokenized"
  | withoutList _ => "CREATE TABLE without column list skipped"
  | unclosed _ => "unterminated CREATE TABLE body skipped"
  | elementSkipped _ _ => "element skipped"
  | columnRepeated _ _ => "duplicate column ignored"
  | tableBuilt _ _ _ => "built table"
  | constraintDropped _ _ => "constraint on unknown table dropped"
  | schemaRead _ _ => "parsed schema"

/-- The named values that go with the message. -/
def fields : Event → List (String × String)
  | literalCut p => [("line", toString p.line), ("column", toString p.column)]
  | tokenized d n => [("dialect", d.name), ("tokens", toString n)]
  | withoutList t => [("table", t)]
  | unclosed t => [("table", t)]
  | elementSkipped t e => [("table", t), ("element", e)]
  | columnRepeated t c => [("table", t), ("column", c)]
  | tableBuilt t pk fk => [("table", t), ("pk", Text.displaySet pk), ("fk", Text.displayList fk)]
  | constraintDropped t k => [("table", t), ("kind", k.name)]
  | schemaRead t r => [("tables", toString t), ("relationships", toString r)]

end Event

end SqlSchema
