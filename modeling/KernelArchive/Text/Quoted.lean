import KernelArchive.Text.Quoted.Ranges

/-!
# Quoted text

* `Text.isHidden`: characters that would not show as they are.
* `Text.escape`: how one character stands between double quotes.
* `Text.quoted`: a text between double quotes. Line ends, tabs, NUL, quotes and backslashes have
  short escapes; characters that would not show are written by their code point in braces.
* `Text.listed`: several written values in brackets, with commas between.
-/

namespace KernelArchive.Text
set_option autoImplicit false

/-- The code point of a character in lower-case hexadecimal digits. -/
def hexDigits (c : Char) : List Char := Nat.toDigits 16 c.toNat

/-- Would the character not show as it is, or only together with the one before it? -/
def isHidden (c : Char) : Bool :=
  isUnprintable c || isDefaultIgnorable c || (isGraphemeExtend c && !isHalfwidthMark c)

/-- How a character stands between double quotes. -/
def escape (c : Char) : List Char :=
  if c = '\x00' then ['\\', '0']
  else if c = '\t' then ['\\', 't']
  else if c = '\r' then ['\\', 'r']
  else if c = '\n' then ['\\', 'n']
  else if c = '\\' then ['\\', '\\']
  else if c = '"' then ['\\', '"']
  else if isHidden c then '\\' :: 'u' :: '\x7b' :: hexDigits c ++ ['\x7d']
  else [c]

/-- A text between double quotes. -/
def quoted (s : String) : String := String.ofList ('"' :: s.toList.flatMap escape ++ ['"'])

/-- Written values with commas between them. -/
def commaSeparated (items : List String) : String := String.intercalate ", " items

/-- Written values in square brackets. -/
def listed (items : List String) : String := "[" ++ commaSeparated items ++ "]"

end KernelArchive.Text
