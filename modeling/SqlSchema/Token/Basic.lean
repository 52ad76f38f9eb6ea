import SqlSchema.Text.Basic
/-!
# Tokens

Keywords are no tokens of their own: the grammar compares bare words with them, so that a quoted name
never reads as a keyword. A span counts bytes.
-/
namespace SqlSchema

inductive TokenKind
  | word (text : String)
  | quoted (name : String)
  | literal (value : String)
  | number (text : String)
  | leftParen
  | rightParen
  | leftBracket
  | rightBracket
  | comma
  | semicolon
  | dot
  | endOfText
deriving DecidableEq, Repr

structure Token where
  kind : TokenKind
  start : Nat
  stop : Nat
deriving DecidableEq, Repr

namespace Token

/-- Whether the token is this keyword, a bare word in any ASCII case. -/
def isWord (keyword : String) (t : Token) : Bool :=
  match t.kind with
  | .word text => Text.isKeyword keyword text
  | _ => false

def isOneOf (keywords : List String) (t : Token) : Bool := keywords.any (fun k => t.isWord k)

/-- The name that the token gives, bare or quoted. -/
def name? (t : Token) : Option String :=
  match t.kind with
  | .word text => some text
  | .quoted name => some name
  | _ => none

/-- No production reads past such a token. -/
def endsStatement (t : Token) : Bool := t.kind == .semicolon || t.kind == .endOfText

end Token

end SqlSchema
