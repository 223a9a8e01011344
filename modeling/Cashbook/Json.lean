/-
JSON documents.

A document keeps what its text says: numbers keep their digits, objects their
members in order with repetitions.  A text whose escapes name half of a surrogate
pair is a string of the grammar that stands for no text; it is kept as `none`, since
it does no harm in a part of a document that nobody asks for.
-/
import Cashbook.Numeral

namespace Cashbook

/-- A JSON document. -/
inductive Json where
  | null
  | bool (value : Bool)
  | number (value : Numeral)
  | text (value : Option String)
  | array (items : List Json)
  | object (members : List (Option String × Json))

namespace Json

/-! ### Writing -/

/-- Six characters for a control character: `\u00` and two hexadecimal digits. -/
def showControl (c : Char) : List Char :=
  ['\\', 'u'] ++ Text.fixedDigits 16 4 c.toNat

/-- How one character is written between quotes. -/
def showChar (c : Char) : List Char :=
  if c = '"' ∨ c = '\\' then ['\\', c]
  else if c = '\x08' then ['\\', 'b']
  else if c = '\t' then ['\\', 't']
  else if c = '\n' then ['\\', 'n']
  else if c = '\x0c' then ['\\', 'f']
  else if c = '\x0d' then ['\\', 'r']
  else if c.toNat < 0x20 then showControl c
  else [c]

/-- A text between quotes. -/
def showText (text : String) : List Char :=
  '"' :: text.toList.flatMap showChar ++ ['"']

/-- A list of written parts with commas between them. -/
def joined : List (List Char) → List Char
  | [] => []
  | [part] => part
  | part :: rest => part ++ ',' :: joined rest

/-- An object with these members, written without blanks. -/
def showObject (members : List (String × List Char)) : List Char :=
  '\x7b' :: joined (members.map fun (name, value) => showText name ++ ':' :: value) ++ ['\x7d']

/-- A truth value. -/
def showBool (value : Bool) : List Char :=
  if value then ['t', 'r', 'u', 'e'] else ['f', 'a', 'l', 's', 'e']

end Json

end Cashbook
