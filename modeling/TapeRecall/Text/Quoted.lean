import TapeRecall.Text.Unprintable

/-!
# Quoted text

A text between double quotes, in which nothing is lost and nothing can be mistaken for the end
of it: quotes and backslashes carry a backslash, the common controls have a letter, and every
other character that could not be seen is written by its code point.
-/

set_option autoImplicit false

namespace TapeRecall.Text

/-- A character by its code point, in hexadecimal digits of lower case. -/
def codePoint (c : Char) : List Char :=
  ['\\', 'u', '\x7b'] ++ Nat.toDigits 16 c.toNat ++ ['\x7d']

/-- A character as it stands between quotes. -/
def escape (c : Char) : List Char :=
  if c = '"' then ['\\', '"']
  else if c = '\\' then ['\\', '\\']
  else if c = '\n' then ['\\', 'n']
  else if c = '\r' then ['\\', 'r']
  else if c = '\t' then ['\\', 't']
  else if c = '\x00' then ['\\', '0']
  else if isUnprintable c then codePoint c
  else [c]

/-- A text in double quotes. -/
def quote (s : String) : String :=
  String.ofList ('"' :: s.toList.flatMap escape ++ ['"'])

end TapeRecall.Text
