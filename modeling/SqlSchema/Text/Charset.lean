import SqlSchema.Text.Table.Letters
/-!
# Character classes

Letters, numbers and blanks in the sense of Unicode 17. A class is an ascending list of closed code
point ranges, so that a lookup can stop at the first range that lies above the character.
-/
namespace SqlSchema.Text

/-- Membership in an ascending list of closed ranges. -/
def inRanges (n : Nat) : List (Nat × Nat) → Bool
  | [] => false
  | (lo, hi) :: rest => if n < lo then false else n ≤ hi || inRanges n rest

/-- The code points with the property White_Space. -/
def blankRanges : List (Nat × Nat) :=
  [(0x9, 0xD), (0x20, 0x20), (0x85, 0x85), (0xA0, 0xA0), (0x1680, 0x1680), (0x2000, 0x200A),
   (0x2028, 0x2029), (0x202F, 0x202F), (0x205F, 0x205F), (0x3000, 0x3000)]

def isBlank (c : Char) : Bool := inRanges c.toNat blankRanges

def isLetter (c : Char) : Bool := inRanges c.toNat letterRanges

def isNumber (c : Char) : Bool := inRanges c.toNat numberRanges

def isLetterOrNumber (c : Char) : Bool := isLetter c || isNumber c

end SqlSchema.Text
