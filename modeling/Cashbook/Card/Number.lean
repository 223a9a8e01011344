/-
Card numbers.

A card number has sixteen digits, the last of which is a check digit.  Reading
ignores white space wherever it stands and insists on the check sum; completing a
payload of fifteen digits supplies it.
-/
import Cashbook.Card.Luhn
import Cashbook.Text.Blank
import Cashbook.Text.Digits

namespace Cashbook

/-- Sixteen digits, most significant first. -/
structure CardNumber where
  digits : List (Fin 10)
  length_eq : digits.length = 16
deriving DecidableEq

namespace CardNumber

open Cashbook.Text

/-- Card numbers are ordered as their digits. -/
instance : Ord CardNumber := ⟨compareOn digits⟩

instance : Std.TransOrd CardNumber := inferInstanceAs (Std.TransCmp (compareOn digits))

instance : Std.LawfulEqOrd CardNumber where
  compare_self {a} := (Std.ReflCmp.compare_self : compare a.digits a.digits = .eq)
  eq_of_compare {a b} h := by
    have hd : a.digits = b.digits := Std.compare_eq_iff_eq.1 (show compare a.digits b.digits = .eq from h)
    cases a; cases b; cases hd; rfl

/-- The digits as numbers. -/
def values (n : CardNumber) : List Nat := n.digits.map Fin.val

/-- Whether the check sum is right. -/
def IsSound (n : CardNumber) : Prop := Luhn.sum n.values % 10 = 0

instance (n : CardNumber) : Decidable n.IsSound := inferInstanceAs (Decidable (_ = _))

/-! ### Writing -/

/-- The characters of the digits. -/
def showDigits (digits : List (Fin 10)) : String :=
  String.ofList (digits.map fun d => Nat.digitChar d.val)

/-- The sixteen digits. -/
def toText (n : CardNumber) : String := showDigits n.digits

/-- The last four digits behind four asterisks: all of the number that a message may show. -/
def masked (n : CardNumber) : String :=
  "****" ++ showDigits (n.digits.drop 12)

/-! ### Reading -/

/-- Why a text is not a card number. -/
inductive Fault where
  /-- It does not consist of sixteen digits. -/
  | shape
  /-- The check digit is wrong. -/
  | checksum
deriving DecidableEq

/-- An ASCII decimal digit. -/
def digitOf? (c : Char) : Option (Fin 10) :=
  (digit? c).map (Fin.ofNat 10 ·)

/-- The card number that the characters write, white space aside. -/
def parseChars (chars : List Char) : Except Fault CardNumber :=
  match (chars.filter (!isBlank ·)).mapM digitOf? with
  | some digits =>
    if h : digits.length = 16 then
      let number : CardNumber := ⟨digits, h⟩
      if number.IsSound then .ok number else .error .checksum
    else .error .shape
  | none => .error .shape

/-- The card number that a text writes, white space aside. -/
def parse (raw : String) : Except Fault CardNumber :=
  parseChars raw.toList

/-! ### Issuing -/

/-- A payload of fifteen digits with its check digit; an entry above nine counts by its last digit. -/
def complete (payload : Vector Nat 15) : CardNumber :=
  ⟨payload.toList.map (Fin.ofNat 10 ·) ++ [Fin.ofNat 10 (Luhn.checkDigit payload.toList)],
    by simp⟩

/-- The first two digits of every number that is issued. -/
def issuer : List Nat := [2, 2]

/-- The issued number with this serial, of which the last thirteen digits count. -/
def ofSerial (serial : Nat) : CardNumber :=
  complete ⟨(issuer ++ lastDigits 10 13 serial).toArray, by
    rw [List.size_toArray, List.length_append, length_lastDigits]; rfl⟩

end CardNumber

end Cashbook
