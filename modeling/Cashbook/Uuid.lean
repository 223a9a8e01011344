/-
Universally unique identifiers.

An identifier is a word of 128 bits, written as thirty-two hexadecimal digits in
groups of eight, four, four, four and twelve.  It may also be written without the
hyphens, and in the grouped form between braces or after `urn:uuid:`.
-/
import Cashbook.Text.Digits

namespace Cashbook

/-- A word of 128 bits. -/
structure Uuid where
  bits : BitVec 128
deriving DecidableEq

namespace Uuid

open Cashbook.Text

/-- The identifier with this number, reduced to 128 bits. -/
def ofNat (n : Nat) : Uuid := ⟨BitVec.ofNat 128 n⟩

/-- The identifier with the bits of a number, but for the six that say how it was made. -/
def versioned (version n : Nat) : Uuid :=
  let high := n >>> 80
  let middle := n >>> 64 % 0x1000
  let low := n % 0x4000000000000000
  ofNat (high <<< 80 + version <<< 76 + middle <<< 64 + 0x8000000000000000 + low)

/-- Identifiers are ordered as the numbers that they write. -/
instance : Ord Uuid := ⟨compareOn bits⟩

instance : Std.TransOrd Uuid := inferInstanceAs (Std.TransCmp (compareOn bits))

instance : Std.LawfulEqOrd Uuid where
  compare_self {a} := (Std.ReflCmp.compare_self : compare a.bits a.bits = .eq)
  eq_of_compare {a b} h := by
    have hb : a.bits = b.bits := Std.compare_eq_iff_eq.1 (show compare a.bits b.bits = .eq from h)
    cases a; cases b; exact congrArg Uuid.mk hb

/-! ### Writing -/

/-- The characters of an identifier, in lower case with hyphens. -/
def toChars (id : Uuid) : List Char :=
  let digits := fixedDigits 16 32 id.bits.toNat
  digits.take 8 ++ '-' :: (digits.drop 8).take 4 ++ '-' :: (digits.drop 12).take 4 ++
    '-' :: (digits.drop 16).take 4 ++ '-' :: digits.drop 20

/-- The text of an identifier, in lower case with hyphens. -/
def toText (id : Uuid) : String :=
  String.ofList id.toChars

/-! ### Reading -/

/-- Thirty-two hexadecimal digits of either case. -/
def ofHexDigits? (chars : List Char) : Option Uuid :=
  if chars.length = 32 then
    (chars.mapM hexDigit?).map fun digits => ofNat (ofDigits 16 digits)
  else none

/-- The digits of the grouped form. -/
def ungroup? (chars : List Char) : Option (List Char) :=
  if chars.length = 36 ∧ [8, 13, 18, 23].all fun i => chars[i]? == some '-' then
    some (chars.take 8 ++ (chars.drop 9).take 4 ++ (chars.drop 14).take 4 ++
      (chars.drop 19).take 4 ++ chars.drop 24)
  else none

/-- The text `urn:uuid:`. -/
def urnMark : List Char := ['u', 'r', 'n', ':', 'u', 'u', 'i', 'd', ':']

/-- The grouped form, from between braces or from behind `urn:uuid:` where it stands there. -/
def unwrap (chars : List Char) : List Char :=
  if chars.length = 38 ∧ chars.head? = some '\x7b' ∧ chars.getLast? = some '\x7d' then
    (chars.drop 1).take 36
  else if chars.length = 45 ∧ (chars.take 9).map Char.toLower = urnMark then chars.drop 9
  else chars

/-- The identifier that the characters write. -/
def ofChars? (chars : List Char) : Option Uuid :=
  if chars.length = 32 then ofHexDigits? chars
  else (ungroup? (unwrap chars)).bind ofHexDigits?

/-- The identifier that a text writes. -/
def ofText? (text : String) : Option Uuid :=
  ofChars? text.toList

end Uuid

end Cashbook
