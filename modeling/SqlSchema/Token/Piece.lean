import SqlSchema.Dialect
import SqlSchema.Text.Basic
import SqlSchema.Text.Charset
import SqlSchema.Token.Basic
/-!
# Pieces of a script

A script is cut into pieces from left to right: tokens, blanks, comments and stray characters. Each
piece keeps the characters it was cut from. Only an identifier whose closing delimiter is missing
stops the cutting.
-/
namespace SqlSchema

inductive PieceKind
  | token (kind : TokenKind)
  /-- A literal without a closing quote, which counts up to the next line break or semicolon. -/
  | cutLiteral (value : String)
  | blank
  | lineComment
  | blockComment (closed : Bool)
  /-- A character that starts no token. -/
  | stray
deriving DecidableEq, Repr

structure Piece where
  kind : PieceKind
  raw : List Char
deriving DecidableEq, Repr

namespace Piece

def token? (p : Piece) : Option TokenKind :=
  match p.kind with
  | .token kind => some kind
  | .cutLiteral value => some (.literal value)
  | _ => none

def isCut (p : Piece) : Bool :=
  match p.kind with
  | .cutLiteral _ => true
  | _ => false

def size (p : Piece) : Nat := Text.byteSize p.raw

/-- The text in front of the first closing delimiter that is not doubled, and the text behind it. -/
def splitQuoted (close : Char) : List Char → Option (List Char × List Char)
  | [] => none
  | [c] => if c = close then some ([], []) else none
  | c :: d :: rest =>
    if c = close then
      if d = close then (splitQuoted close rest).map (fun (body, more) => (c :: d :: body, more))
      else some ([], d :: rest)
    else (splitQuoted close (d :: rest)).map (fun (body, more) => (c :: body, more))

/-- The text in front of the quote that ends a literal, and the text behind it. A doubled quote does
not end the literal, and with escapes neither does one behind a backslash. -/
def splitLiteral (escapes : Bool) : List Char → Option (List Char × List Char)
  | [] => none
  | [c] => if c = '\'' then some ([], []) else none
  | c :: d :: rest =>
    if (c = '\'' ∧ d = '\'') ∨ (c = '\\' ∧ escapes) then
      (splitLiteral escapes rest).map (fun (body, more) => (c :: d :: body, more))
    else if c = '\'' then some ([], d :: rest)
    else (splitLiteral escapes (d :: rest)).map (fun (body, more) => (c :: body, more))

/-- The character that a backslash and this one stand for. -/
def unescaped (c : Char) : Char :=
  if c = 'n' then '\n' else if c = 't' then '\t' else if c = 'r' then '\r' else c

/-- The value of a literal that is written this way between its quotes. -/
def literalValue (escapes : Bool) : List Char → List Char
  | [] => []
  | [c] => [c]
  | c :: d :: rest =>
    if c = '\'' ∧ d = '\'' then '\'' :: literalValue escapes rest
    else if c = '\\' ∧ escapes then unescaped d :: literalValue escapes rest
    else c :: literalValue escapes (d :: rest)

/-- The text in front of a comment's end sign, and the text behind it. -/
def splitComment : List Char → Option (List Char × List Char)
  | [] => none
  | [_] => none
  | c :: d :: rest =>
    if c = '*' ∧ d = '/' then some ([], rest)
    else (splitComment (d :: rest)).map (fun (body, more) => (c :: body, more))

/-- A cut literal ends in front of this character. -/
def cutsLiteral (c : Char) : Bool := c = '\n' || c = ';'

def punctuation? (c : Char) : Option TokenKind :=
  if c = '(' then some .leftParen
  else if c = ')' then some .rightParen
  else if c = ',' then some .comma
  else if c = ';' then some .semicolon
  else if c = '.' then some .dot
  else if c = '[' then some .leftBracket
  else if c = ']' then some .rightBracket
  else none

def opensWord (c : Char) : Bool := Text.isLetter c || c = '_' || c = '#'

/-- Where `#` opens comments it belongs to no word. -/
def continuesWord (d : Dialect) (c : Char) : Bool :=
  Text.isLetterOrNumber c || c = '_' || c = '$' || (c = '#' && d != .mysql)

def continuesNumber (c : Char) : Bool := c.isDigit || c = '.'

/-- Whether `#` opens a comment in front of this text: always in MySQL, else only if it stands alone. -/
def hashOpensComment (d : Dialect) (rest : List Char) : Bool :=
  d == .mysql || rest.head?.all Text.isBlank

/-- A comment up to the end of its line, the line break included. -/
def readLineComment (c : Char) (cs : List Char) : Piece × List Char :=
  let line := cs.takeWhile (· != '\n')
  let rest := cs.dropWhile (· != '\n')
  (⟨.lineComment, c :: line ++ rest.take 1⟩, rest.drop 1)

/-- A block comment, behind its two opening characters. -/
def readBlockComment (cs : List Char) : Piece × List Char :=
  match splitComment cs with
  | some (body, rest) => (⟨.blockComment true, '/' :: '*' :: body ++ ['*', '/']⟩, rest)
  | none => (⟨.blockComment false, '/' :: '*' :: cs⟩, [])

/-- A literal; `lead` holds what stands in front of its text, the opening quote included. -/
def readLiteral (escapes : Bool) (lead cs : List Char) : Piece × List Char :=
  match splitLiteral escapes cs with
  | some (body, rest) =>
    (⟨.token (.literal (String.ofList (literalValue escapes body))), lead ++ body ++ ['\'']⟩, rest)
  | none =>
    let text := cs.takeWhile (fun c => !cutsLiteral c)
    (⟨.cutLiteral (String.ofList text), lead ++ text⟩, cs.dropWhile (fun c => !cutsLiteral c))

def readNumber (c : Char) (cs : List Char) : Piece × List Char :=
  let text := c :: cs.takeWhile continuesNumber
  (⟨.token (.number (String.ofList text)), text⟩, cs.dropWhile continuesNumber)

/-- A bare word, or a literal with escapes if the word is a lone `E` in front of a quote. -/
def readWord (d : Dialect) (c : Char) (cs : List Char) : Piece × List Char :=
  let text := c :: cs.takeWhile (continuesWord d)
  match text, cs.dropWhile (continuesWord d) with
  | [e], '\'' :: rest =>
    if e.toLower = 'e' then readLiteral true [e, '\''] rest
    else (⟨.token (.word (String.ofList text)), text⟩, '\'' :: rest)
  | _, rest => (⟨.token (.word (String.ofList text)), text⟩, rest)

/-- The first piece of a text that does not start with a quoted identifier. -/
def readPlain (d : Dialect) (c : Char) (cs : List Char) : Piece × List Char :=
  if Text.isBlank c then (⟨.blank, [c]⟩, cs)
  else if c = '-' ∧ cs.head? = some '-' then readLineComment c cs
  else if c = '#' ∧ hashOpensComment d cs then readLineComment c cs
  else if c = '/' ∧ cs.head? = some '*' then readBlockComment cs.tail
  else
    match punctuation? c with
    | some kind => (⟨.token kind, [c]⟩, cs)
    | none =>
      if c = '\'' then readLiteral (d == .mysql) [c] cs
      else if c.isDigit then readNumber c cs
      else if opensWord c then readWord d c cs
      else (⟨.stray, [c]⟩, cs)

/-- The style of the quoted identifier that starts here; `[]` is an array suffix. -/
def openedStyle? (d : Dialect) (c : Char) (cs : List Char) : Option QuoteStyle :=
  if c = '[' ∧ cs.head? = some ']' then none else d.styleOpening? c

/-- A quoted identifier, behind its opening delimiter. -/
def readQuoted (q : QuoteStyle) (cs : List Char) : Option (Piece × List Char) :=
  (splitQuoted q.closing cs).map fun (body, rest) =>
    let raw := q.opening :: body ++ [q.closing]
    (⟨.token (.quoted (String.ofList ((q.strip? raw).getD raw))), raw⟩, rest)

/-- The first piece of a text and what follows it; `none` if an identifier opens and never closes. -/
def read? (d : Dialect) (c : Char) (cs : List Char) : Option (Piece × List Char) :=
  match openedStyle? d c cs with
  | some q => readQuoted q cs
  | none => some (readPlain d c cs)

end Piece

end SqlSchema
