/-!
# Quoted identifiers

Three ways to write a name between delimiters. Inside, the closing delimiter is written twice.
-/
namespace SqlSchema

inductive QuoteStyle
  | backtick
  | bracket
  | double
deriving DecidableEq, Repr

namespace QuoteStyle

def opening : QuoteStyle → Char
  | backtick => '\x60'
  | bracket => '['
  | double => '"'

def closing : QuoteStyle → Char
  | backtick => '\x60'
  | bracket => ']'
  | double => '"'

/-- Writes each closing delimiter twice. -/
def doubled (close : Char) (cs : List Char) : List Char :=
  cs.flatMap (fun c => if c = close then [c, c] else [c])

/-- Reads each pair of adjacent closing delimiters as one. -/
def undouble (close : Char) : List Char → List Char
  | [] => []
  | [c] => [c]
  | c :: d :: rest =>
    if c = close ∧ d = close then close :: undouble close rest
    else c :: undouble close (d :: rest)

/-- A name between the delimiters of this style. -/
def enclose (q : QuoteStyle) (name : List Char) : List Char :=
  q.opening :: doubled q.closing name ++ [q.closing]

/-- The name between the delimiters of this style, if the text has them at both ends. -/
def strip? (q : QuoteStyle) : List Char → Option (List Char)
  | [] => none
  | c :: rest =>
    if c = q.opening ∧ rest.getLast? = some q.closing then some (undouble q.closing rest.dropLast)
    else none

end QuoteStyle

end SqlSchema
