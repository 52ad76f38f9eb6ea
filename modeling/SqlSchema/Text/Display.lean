import SqlSchema.Text.Charset
import SqlSchema.Text.Table.Unprinted
/-!
# Displayed names

Names as a log shows them: between quotes, with everything escaped that would not show as itself.
-/
namespace SqlSchema.Text

/-- The character by its number, in small hexadecimal digits. -/
def numbered (c : Char) : List Char :=
  ['\\', 'u', '\x7b'] ++ Nat.toDigits 16 c.toNat ++ ['\x7d']

def displayChar (c : Char) : List Char :=
  if c = '\x00' then ['\\', '0']
  else if c = '\t' then ['\\', 't']
  else if c = '\n' then ['\\', 'n']
  else if c = '\r' then ['\\', 'r']
  else if c = '"' then ['\\', '"']
  else if c = '\\' then ['\\', '\\']
  else if inRanges c.toNat unprintedRanges then numbered c
  else [c]

def display (s : String) : String :=
  "\"" ++ String.ofList (s.toList.flatMap displayChar) ++ "\""

/-- Names in ascending order, each once. -/
def ascending (names : List String) : List String :=
  (names.eraseDups).mergeSort (fun a b => a ≤ b)

def displayList (names : List String) : String :=
  "[" ++ ", ".intercalate (names.map display) ++ "]"

def displaySet (names : List String) : String :=
  "\x7b" ++ ", ".intercalate (names.map display) ++ "\x7d"

end SqlSchema.Text
