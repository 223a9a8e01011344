/-
Digits.

Numbers are written and read here in base ten and base sixteen: what a digit is
worth, what a row of digits is worth, and how a number fills a field of fixed
width with leading zeros.
-/
namespace Cashbook.Text

/-- The worth of an ASCII decimal digit. -/
def digit? (c : Char) : Option Nat :=
  if '0' ≤ c ∧ c ≤ '9' then some (c.toNat - '0'.toNat) else none

/-- The worth of a hexadecimal digit of either case. -/
def hexDigit? (c : Char) : Option Nat :=
  if '0' ≤ c ∧ c ≤ '9' then some (c.toNat - '0'.toNat)
  else if 'a' ≤ c ∧ c ≤ 'f' then some (c.toNat - 'a'.toNat + 10)
  else if 'A' ≤ c ∧ c ≤ 'F' then some (c.toNat - 'A'.toNat + 10)
  else none

/-- The number that a row of digits denotes, most significant first. -/
def ofDigits (base : Nat) (digits : List Nat) : Nat :=
  digits.foldl (fun n d => n * base + d) 0

/-- The least number that takes more than sixty-four bits. -/
def wordLimit : Nat := 18446744073709551616

/-- The decimal digits of a number, most significant first. -/
def decimalDigits (n : Nat) : List Char :=
  Nat.toDigits 10 n

/-- The last `width` digits of a number, most significant first. -/
def lastDigits (base : Nat) : (width : Nat) → Nat → List Nat
  | 0, _ => []
  | width + 1, n => lastDigits base width (n / base) ++ [n % base]

/-- The last `width` digits of a number, with zeros in front where it has fewer. -/
def fixedDigits (base width n : Nat) : List Char :=
  (lastDigits base width n).map Nat.digitChar

/-- The decimal digits of a number, with zeros in front up to `width` digits. -/
def paddedDigits (width n : Nat) : List Char :=
  let digits := decimalDigits n
  List.replicate (width - digits.length) '0' ++ digits

/-- Splits a row of characters into its leading decimal digits and the rest. -/
def spanDigits : List Char → List Nat × List Char
  | [] => ([], [])
  | c :: rest =>
    match digit? c with
    | some d => let (ds, tail) := spanDigits rest; (d :: ds, tail)
    | none => ([], c :: rest)

/-- The number written by a whole text of decimal digits after at most one plus sign. -/
def unsigned? (chars : List Char) : Option Nat :=
  let body := match chars with
    | '+' :: rest => rest
    | _ => chars
  match spanDigits body with
  | (d :: ds, []) => some (ofDigits 10 (d :: ds))
  | _ => none

/-- There are exactly as many last digits as were asked for. -/
theorem length_lastDigits (base width n : Nat) : (lastDigits base width n).length = width := by
  induction width generalizing n with
  | zero => rfl
  | succ width ih => rw [lastDigits, List.length_append, ih, List.length_singleton]

/-- A field of fixed width has exactly that many characters. -/
theorem length_fixedDigits (base width n : Nat) : (fixedDigits base width n).length = width := by
  rw [fixedDigits, List.length_map, length_lastDigits]

end Cashbook.Text
