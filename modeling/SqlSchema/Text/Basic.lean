/-!
# Texts

Letter case as keywords need it, replaced characters, byte slices and positions. Besides the small ASCII
letters a few others have an upper-case form in ASCII: the dotless i, the long s, the sharp s and the Latin
ligatures. A slice exists when both of its ends lie within the text, in order, and on character boundaries.
Lines and columns count from one; a column counts characters, not bytes.
-/
namespace SqlSchema.Text

/-- The text with its ASCII letters small. -/
def lower (s : String) : String := String.ofList (s.toList.map Char.toLower)

/-- Whether a text is the keyword, which is given in capitals. -/
def isKeyword (keyword text : String) : Bool := text.toList.map Char.toUpper == keyword.toList

/-- The upper-case form of a character if it is ASCII, else the character itself. -/
def upperChar (c : Char) : List Char :=
  match c.toNat with
  | 0xDF => ['S', 'S']
  | 0x131 => ['I']
  | 0x17F => ['S']
  | 0xFB00 => ['F', 'F']
  | 0xFB01 => ['F', 'I']
  | 0xFB02 => ['F', 'L']
  | 0xFB03 => ['F', 'F', 'I']
  | 0xFB04 => ['F', 'F', 'L']
  | 0xFB05 => ['S', 'T']
  | 0xFB06 => ['S', 'T']
  | _ => [c.toUpper]

def upper (cs : List Char) : List Char := cs.flatMap upperChar

/-- Puts a text in place of each occurrence of a character. -/
def replaceChar (c : Char) (replacement : List Char) (s : String) : String :=
  String.ofList (s.toList.flatMap (fun d => if d = c then replacement else [d]))

/-- The number of bytes that the characters take in UTF-8. -/
def byteSize (cs : List Char) : Nat := cs.foldr (fun c size => c.utf8Size + size) 0

/-- The text between two byte offsets. -/
def slice? (s : String) (start stop : Nat) : Option String :=
  if start ≤ stop ∧ stop ≤ s.utf8ByteSize then
    String.fromUTF8? (s.toByteArray.extract start stop)
  else none

structure Position where
  line : Nat
  column : Nat
deriving DecidableEq, Repr

namespace Position

def start : Position := ⟨1, 1⟩

def step (p : Position) (c : Char) : Position :=
  if c = '\n' then ⟨p.line + 1, 1⟩ else ⟨p.line, p.column + 1⟩

/-- The position right after the given text. -/
def advance (p : Position) (cs : List Char) : Position := cs.foldl step p

end Position

end SqlSchema.Text
