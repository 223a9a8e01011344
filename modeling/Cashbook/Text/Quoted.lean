/-
Text between double quotes, as error reports show it.

A quote and a backslash are preceded by a backslash, tab, line feed, carriage
return and NUL have letters of their own, and whatever cannot be printed is shown by
its number in braces.
-/
import Cashbook.Text.Unprintable

namespace Cashbook.Text

/-- How one character of a quoted text is shown. -/
def showQuotedChar (c : Char) : List Char :=
  if c = '\t' then ['\\', 't']
  else if c = '\n' then ['\\', 'n']
  else if c = '\x0d' then ['\\', 'r']
  else if c = '\x00' then ['\\', '0']
  else if c = '"' ∨ c = '\\' then ['\\', c]
  else if isUnprintable c then
    ['\\', 'u', '\x7b'] ++ Nat.toDigits 16 c.toNat ++ ['\x7d']
  else [c]

/-- A text between double quotes. -/
def showQuoted (text : String) : String :=
  String.ofList ('"' :: text.toList.flatMap showQuotedChar ++ ['"'])

end Cashbook.Text
