import SqlSchema.Text.Charset
import SqlSchema.Text.Table.Cells
import SqlSchema.Text.Table.Emoji
/-!
# Display width

How many terminal cells a text takes. Most characters take one cell, wide ones two and combining ones
none. Some take another width in front of what follows them: letters that join into one, emoji
sequences, and characters with a variation selector. So a text is measured from its end.
-/
namespace SqlSchema.Text

/-- What stands behind a character, as far as it matters for the width. `joined` says whether a zero
width joiner stands in front of it. -/
inductive Follower
  | other
  | lineFeed
  | skinTone
  | flagHalf
  | flags
  | emoji
  | joinedEmoji
  | joinedKeycap
  | joinedFlagHalf
  | joinedEvenFlags
  | joinedOddFlags
  | tagEnd
  | tagLetters (count : Nat)
  | tagDigits (count : Nat)
  | arabicAlef
  | hebrewLamed (joined : Bool)
  | khmerLetter
  | bugineseYa (joined : Bool)
  | bugineseVowelYa
  | tifinagh (joined : Bool)
  | tifinaghJoiner
  | lisuTone
  | orkhonI (joined : Bool)
  | kiratE
  | kiratAi
deriving DecidableEq, Repr

/-- A variation selector in front of the follower. -/
inductive Selector
  | none
  | text
  | emoji
  | fullwidth
deriving DecidableEq, Repr

structure Following where
  follower : Follower
  selector : Selector
deriving DecidableEq, Repr

namespace Follower

/-- Letters that join with a letter in front of them, also across a variation selector. -/
def isJoining : Follower → Bool
  | arabicAlef | hebrewLamed _ | khmerLetter | bugineseYa _ | bugineseVowelYa | tifinagh _
  | tifinaghJoiner | lisuTone | orkhonI _ => true
  | _ => false

/-- Letters that join across any ignorable character. -/
def ignoresMarks (f : Follower) : Bool := f.isJoining && f != arabicAlef

/-- The follower behind a zero width joiner. -/
def withJoiner : Follower → Follower
  | hebrewLamed _ => hebrewLamed true
  | bugineseYa _ => bugineseYa true
  | tifinagh _ => tifinagh true
  | orkhonI _ => orkhonI true
  | f => f

/-- The rest of an emoji sequence that a joiner ties to what stands in front of it. -/
def isJoinedEmoji (f : Follower) : Bool := f == joinedEmoji || f == joinedKeycap

end Follower

namespace Following

def plain (f : Follower) : Following := ⟨f, .none⟩

/-- The follower without its selector. What does not join is then of no account. -/
def unselected (n : Following) : Following :=
  if n.selector = .emoji ∧ !n.follower.isJoining then plain .other else plain n.follower

/-- A selector in front of the follower. -/
def select (n : Following) (s : Selector) : Following :=
  if n.follower.isJoining ∨ (s = .emoji ∧ n.selector ≠ .emoji ∧ n.follower.isJoinedEmoji) then
    ⟨n.follower, s⟩
  else ⟨.other, s⟩

end Following

def inSpan (c : Char) (lo hi : Nat) : Bool := lo ≤ c.toNat && c.toNat ≤ hi

def isRegional (c : Char) : Bool := inSpan c 0x1F1E6 0x1F1FF

def isSkinTone (c : Char) : Bool := inSpan c 0x1F3FB 0x1F3FF

def isTagLetter (c : Char) : Bool := inSpan c 0xE0061 0xE007A

def isTagDigit (c : Char) : Bool := inSpan c 0xE0030 0xE0039

def isTifinagh (c : Char) : Bool := inSpan c 0x2D31 0x2D65 || c.toNat == 0x2D6F

/-- Ignorable characters that letters join across. -/
def ignorableRanges : List (Nat × Nat) :=
  [(0x34F, 0x34F), (0x17B4, 0x17B5), (0x180B, 0x180D), (0x180F, 0x180F), (0x200D, 0x200D),
   (0xFE00, 0xFE0F), (0xE0100, 0xE01EF)]

def arabicLamRanges : List (Nat × Nat) :=
  [(0x644, 0x644), (0x6B5, 0x6B8), (0x76A, 0x76A), (0x8A6, 0x8A6), (0x8C7, 0x8C7)]

def arabicAlefRanges : List (Nat × Nat) :=
  [(0x622, 0x623), (0x625, 0x625), (0x627, 0x627), (0x671, 0x673), (0x675, 0x675), (0x773, 0x774),
   (0x870, 0x882)]

/-- Khmer letters that a coeng sign turns into a subscript. -/
def khmerLetterRanges : List (Nat × Nat) :=
  [(0x1780, 0x1782), (0x1784, 0x1787), (0x1789, 0x178C), (0x178E, 0x1793), (0x1795, 0x1798),
   (0x179B, 0x179D), (0x17A0, 0x17A0), (0x17A2, 0x17A2), (0x17A7, 0x17A7), (0x17AB, 0x17AC),
   (0x17AF, 0x17AF)]

/-- Curly quotes, which a selector makes as wide as an ideograph. -/
def isCurlyQuote (c : Char) : Bool := inSpan c 0x2018 0x2019 || inSpan c 0x201C 0x201D

def isZeroWidth (c : Char) : Bool := inRanges c.toNat emptyRanges

/-- A zero-width character that does not interrupt cursive joining. -/
def isTransparent (c : Char) : Bool := isZeroWidth c && !inRanges c.toNat joinBreakingRanges

def isDefaultEmoji (c : Char) : Bool :=
  inRanges c.toNat emojiRanges && !isRegional c && !isSkinTone c

/-- The width of a character that nothing behind it changes. -/
def charWidth (c : Char) : Nat :=
  if c.toNat = 0x17D8 then 3
  else if isZeroWidth c then 0
  else if inRanges c.toNat wideRanges then 2
  else 1

/-- What a character is for the one in front of it. -/
def followerOf (c : Char) : Follower :=
  if isRegional c then .flagHalf
  else if isSkinTone c then .skinTone
  else if isDefaultEmoji c then .emoji
  else if inRanges c.toNat arabicAlefRanges then .arabicAlef
  else if c.toNat = 0x5DC then .hebrewLamed false
  else if inRanges c.toNat khmerLetterRanges then .khmerLetter
  else if c.toNat = 0x1A10 then .bugineseYa false
  else if isTifinagh c then .tifinagh false
  else if inSpan c 0xA4FC 0xA4FD then .lisuTone
  else if c.toNat = 0x10C03 then .orkhonI false
  else if c.toNat = 0x16D67 then .kiratE
  else if c.toNat = 0x16D68 then .kiratAi
  else .other

/-- The width that a character adds in front of letters that it joins, and what it is then. -/
def joinLetters (c : Char) : Follower → Option (Int × Follower)
  | .arabicAlef =>
    if inRanges c.toNat arabicLamRanges then some (0, .other)
    else if isTransparent c then some (0, .arabicAlef)
    else none
  | .hebrewLamed true => if c.toNat = 0x5D0 then some (0, .other) else none
  | .khmerLetter => if c.toNat = 0x17D2 then some (-1, .other) else none
  | .bugineseYa true => if c.toNat = 0x1A17 then some (0, .bugineseVowelYa) else none
  | .bugineseVowelYa => if c.toNat = 0x1A15 then some (0, .other) else none
  | .tifinagh joined =>
    if c.toNat = 0x2D7F then some (1, .tifinaghJoiner)
    else if joined && isTifinagh c then some (0, .other)
    else none
  | .tifinaghJoiner => if isTifinagh c then some (-1, .other) else none
  | .lisuTone => if inSpan c 0xA4F8 0xA4FB then some (0, .other) else none
  | .orkhonI true => if c.toNat = 0x10C32 then some (0, .other) else none
  | .kiratE =>
    if c.toNat = 0x16D63 || c.toNat = 0x16D69 then some (0, .other)
    else if c.toNat = 0x16D67 then some (0, .kiratAi)
    else if c.toNat = 0x16D68 then some (1, .kiratE)
    else none
  | .kiratAi => if c.toNat = 0x16D63 then some (0, .other) else none
  | _ => none

/-- The width that a character adds in front of the rest of an emoji sequence, and what it is then. -/
def joinEmoji (c : Char) : Follower → Option (Int × Follower)
  | .skinTone =>
    if inRanges c.toNat skinToneBaseRanges then some (0, .emoji)
    else if c.toNat = 0x200D then some (0, .joinedEmoji)
    else none
  | .flagHalf => if isRegional c then some (1, .flags) else none
  | .flags =>
    if isRegional c then some (1, .flags)
    else if c.toNat = 0x200D then some (0, .joinedEmoji)
    else none
  | .emoji => if c.toNat = 0x200D then some (0, .joinedEmoji) else none
  | .joinedEmoji =>
    if c.toNat = 0x20E3 then some (0, .joinedKeycap)
    else if isRegional c then some (1, .joinedFlagHalf)
    else if isSkinTone c then some (0, .skinTone)
    else if c.toNat = 0xE007F then some (0, .tagEnd)
    else if isDefaultEmoji c then some (0, .emoji)
    else none
  | .joinedFlagHalf => if isRegional c then some (-1, .joinedEvenFlags) else none
  | .joinedEvenFlags =>
    if isRegional c then some (3, .joinedOddFlags)
    else if c.toNat = 0x200D then some (0, .joinedEmoji)
    else none
  | .joinedOddFlags =>
    if isRegional c then some (-1, .joinedEvenFlags)
    else if c.toNat = 0x200D then some (0, .joinedEmoji)
    else none
  | .tagEnd =>
    if isTagLetter c then some (0, .tagLetters 1)
    else if isTagDigit c then some (0, .tagDigits 1)
    else none
  | .tagLetters n =>
    if isTagLetter c && n < 6 then some (0, .tagLetters (n + 1))
    else if isTagDigit c && n < 5 then some (0, .tagDigits 1)
    else if c.toNat = 0x1F3F4 && 3 ≤ n then some (0, .emoji)
    else none
  | .tagDigits n =>
    if isTagDigit c && n < 3 then some (0, .tagDigits (n + 1))
    else if c.toNat = 0x1F3F4 && n = 3 then some (0, .emoji)
    else none
  | _ => none

/-- The width that a character adds in front of a follower without selector. -/
def joinWidth (c : Char) (f : Follower) : Int × Following :=
  if f.ignoresMarks && inRanges c.toNat ignorableRanges then
    (0, .plain (if c.toNat = 0x200D then f.withJoiner else f))
  else
    match (joinLetters c f).or (joinEmoji c f) with
    | some (add, f) => (add, .plain f)
    | none => (charWidth c, .plain (followerOf c))

/-- The width that a character adds in front of what follows it. -/
def stepWidth (c : Char) (next : Following) : Int × Following :=
  if next.selector = .emoji ∧ inRanges c.toNat emojiSelectableRanges then
    (if next.follower.isJoinedEmoji then 0 else 2, .plain .emoji)
  else if c.toNat ≤ 0xA0 then
    if c = '\n' then (1, .plain .lineFeed)
    else if c = '\r' ∧ next = .plain .lineFeed then (0, .plain .other)
    else (1, .plain .other)
  else if c.toNat = 0xFE0F then (0, next.select .emoji)
  else if c.toNat = 0xFE0E then (0, next.select .text)
  else if c.toNat = 0xFE01 then (0, next.select .fullwidth)
  else if next.selector = .text ∧ inRanges c.toNat textSelectableRanges then (1, .plain .other)
  else if next.selector = .fullwidth ∧ isCurlyQuote c then (2, .plain .other)
  else joinWidth c next.unselected.follower

/-- The number of terminal cells that a text takes. -/
def displayWidth (s : String) : Nat :=
  (s.toList.foldr
    (fun c (total, next) => let (add, here) := stepWidth c next; (total + add, here))
    ((0 : Int), Following.plain .other)).1.toNat

end SqlSchema.Text
