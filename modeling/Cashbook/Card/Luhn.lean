/-
The check sum of card numbers.

From the right, every second digit is doubled, nine is taken off what then has two
digits, and everything is added up in a word of thirty-two bits.  A number is sound if
the sum ends in zero.
-/
namespace Cashbook.Luhn

/-- Twice a digit, less nine where that has two digits. -/
def doubled (d : Nat) : Nat :=
  if 2 * d > 9 then 2 * d - 9 else 2 * d

/-- What a digit adds to the check sum where `after` digits follow it. -/
def weight (after d : Nat) : Nat :=
  if after % 2 = 1 then doubled d else d

/-- The check sum of digits given most significant first; what is more than the word holds is lost. -/
def sum : List Nat → UInt32
  | [] => 0
  | d :: rest => .ofNat (weight rest.length d) + sum rest

/-- The digit that makes the sum end in zero when it is appended. -/
def checkDigit (digits : List Nat) : Nat :=
  ((10 - sum (digits ++ [0]) % 10) % 10).toNat

end Cashbook.Luhn
