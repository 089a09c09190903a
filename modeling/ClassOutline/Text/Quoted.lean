/-
  Text/Quoted.lean --- text between quotation marks, on one line.

  The mark in use, the backslash and the four common control characters are
  written with a backslash and one letter.  Any other character that cannot
  stand for itself is written as its code point in lower-case hexadecimal
  between braces; all the rest stand as they are.
-/
import ClassOutline.Text.Printable

set_option autoImplicit false

namespace ClassOutline.Text

/-- The written form of a character by its code point. -/
def codePointEscape (c : Char) : List Char :=
  '\\' :: 'u' :: '\x7b' :: (Nat.toDigits 16 c.toNat ++ ['\x7d'])

/-- The written form of a character between two of the marks `mark`. -/
def escape (mark c : Char) : List Char :=
  if c = '\x00' then ['\\', '0']
  else if c = '\t' then ['\\', 't']
  else if c = '\r' then ['\\', 'r']
  else if c = '\n' then ['\\', 'n']
  else if c = '\\' then ['\\', '\\']
  else if c = mark then ['\\', mark]
  else if standsAlone c then [c]
  else codePointEscape c

/-- Characters between two of the marks `mark`. -/
def quoteWith (mark : Char) (chars : List Char) : String :=
  String.ofList (mark :: (chars.flatMap (escape mark) ++ [mark]))

/-- A text in double quotation marks. -/
def quoteString (s : String) : String := quoteWith '"' s.toList

/-- A character in single quotation marks. -/
def quoteChar (c : Char) : String := quoteWith '\x27' [c]

example : (quoteString "it's\n\u200b").toList = "\"it's\\n\\u\x7b200b\x7d\"".toList := by decide +kernel

end ClassOutline.Text
