import SqlSchema.Text.Charset
/-!
# Words and lines

The words of a text are its longest runs without blanks. Collapsing a text puts one plain space between its
words and none outside. A script is read with line feeds as its only line breaks, without blank lines and
without blanks at either end, so that positions do not depend on how its lines were ended.
-/
namespace SqlSchema.Text

/-- The longest runs of characters that are not blank. -/
def words (cs : List Char) : List (List Char) :=
  (cs.splitOnP isBlank).filter (fun w => !w.isEmpty)

/-- The text without its leading and trailing blanks. -/
def trim (cs : List Char) : List Char :=
  ((cs.dropWhile isBlank).reverse.dropWhile isBlank).reverse

/-- The words of the text with one space between neighbours. -/
def collapse (s : String) : String :=
  String.ofList ([' '].intercalate (words s.toList))

/-- Turns each line break, of either one or two characters, into one line feed. -/
def unifyBreaks : List Char → List Char
  | [] => []
  | '\r' :: '\n' :: rest => '\n' :: unifyBreaks rest
  | c :: rest => (if c = '\r' then '\n' else c) :: unifyBreaks rest

def isBlankLine (line : List Char) : Bool := line.all isBlank

/-- The lines that are not blank, joined by line feeds and trimmed. -/
def normalizeChars (cs : List Char) : List Char :=
  trim (['\n'].intercalate (((unifyBreaks cs).splitOn '\n').filter (fun l => !isBlankLine l)))

def normalize (s : String) : String := String.ofList (normalizeChars s.toList)

end SqlSchema.Text
