/-
Decimals as text.

A plain numeral is an optional sign, digits, and at most one point among them;
underscores may stand anywhere after the first digit.  Digits are taken up while
there is room for them; the first digit that has none rounds the number half up.
A numeral with an exponent is a plain numeral, `e` or `E`, and a whole number.

A decimal is written with exactly as many places as its scale, and at least one
digit before the point.
-/
import Cashbook.Decimal
import Cashbook.Text.Digits

namespace Cashbook.Decimal

open Cashbook.Text

attribute [local instance (high)] instPowNat instNatPowNat Int.instNatPow

/-! ### Writing -/

/-- The characters of a decimal: sign, whole part, and as many places as its scale. -/
def toChars (d : Decimal) : List Char :=
  let digits := paddedDigits (d.scale + 1) d.coefficient.natAbs
  let whole := digits.take (digits.length - d.scale)
  let places := digits.drop (digits.length - d.scale)
  (if d.coefficient < 0 then ['-'] else []) ++ whole ++
    (if d.scale = 0 then [] else '.' :: places)

/-- A decimal with exactly as many places as its scale. -/
def toText (d : Decimal) : String :=
  String.ofList d.toChars

/-! ### Reading -/

/--
The digits before and after the point of an unsigned numeral.  Every character has to be in its
place, one that comes after the digit that rounds too: a reader that stops there would take more.
-/
def scanDigits (seenDigit seenPoint : Bool) : List Char → Option (List Nat × List Nat)
  | [] => if seenDigit then some ([], []) else none
  | c :: rest =>
    match digit? c with
    | some d =>
      (scanDigits true seenPoint rest).map fun (whole, places) =>
        if seenPoint then (whole, d :: places) else (d :: whole, places)
    | none =>
      if c = '.' ∧ seenPoint = false then scanDigits seenDigit true rest
      else if c = '_' ∧ seenDigit = true then scanDigits seenDigit seenPoint rest
      else none

/-- Takes up decimal places while there is room, then rounds half up on the next one. -/
def takePlaces (mantissa scale : Nat) : List Nat → Option (Nat × Nat)
  | [] => some (mantissa, scale)
  | d :: rest =>
    if scale < 28 ∧ mantissa * 10 + d < limit then
      takePlaces (mantissa * 10 + d) (scale + 1) rest
    else if d < 5 then some (mantissa, scale)
    else if mantissa + 1 < limit then some (mantissa + 1, scale)
    else if scale = 0 then none
    else some ((mantissa + 5) / 10, scale - 1)

/-- The sign of a numeral and what follows it. -/
def splitSign : List Char → Bool × List Char
  | '-' :: rest => (true, rest)
  | '+' :: rest => (false, rest)
  | chars => (false, chars)

/-- The decimal that a plain numeral denotes. -/
def parseChars? (chars : List Char) : Option Decimal := do
  let (negative, body) := splitSign chars
  let (whole, places) ← scanDigits false false body
  let start := ofDigits 10 whole
  if start < limit then
    let (mantissa, scale) ← takePlaces start 0 places
    ofParts? (if negative then -(mantissa : Int) else mantissa) scale
  else none

/-- The same number with at most `places` decimal places, rounded half up. -/
def cutPlaces (d : Decimal) (places : Nat) : Option Decimal :=
  if d.scale ≤ places then some d
  else
    let unit := 10 ^ (d.scale - places)
    ofParts? (d.coefficient.sign * ((d.coefficient.natAbs + unit / 2) / unit : Nat)) places

/-- The number times a power of ten, where the power is negative. -/
def shiftDown? (d : Decimal) (exponent : Nat) : Option Decimal :=
  if exponent ≤ 28 then do
    let kept ← d.cutPlaces (28 - exponent)
    ofParts? kept.coefficient (kept.scale + exponent)
  else none

/-- The number times a power of ten, where the power is not negative. -/
def shiftUp? (d : Decimal) (exponent : Nat) : Option Decimal :=
  if exponent ≤ d.scale then ofParts? d.coefficient (d.scale - exponent)
  else if exponent ≤ 28 then ofParts? (d.coefficient * 10 ^ (exponent - d.scale)) 0
  else none

/-- The decimal that a numeral with an exponent denotes. -/
def parseExponentialChars? (chars : List Char) : Option Decimal :=
  let isMark (c : Char) : Bool := c == 'e' || c == 'E'
  match chars.dropWhile (!isMark ·) with
  | [] => none
  | _ :: exponent => do
    let base ← parseChars? (chars.takeWhile (!isMark ·))
    match exponent with
    | '-' :: digits =>
      let k ← unsigned? digits
      base.shiftDown? k
    | digits =>
      let k ← unsigned? digits
      base.shiftUp? k

/-- The decimal that a plain numeral denotes. -/
def parse? (text : String) : Option Decimal :=
  parseChars? text.toList

/-- The decimal that a numeral denotes, with or without an exponent. -/
def read? (text : String) : Option Decimal :=
  parseChars? text.toList <|> parseExponentialChars? text.toList

/-- A whole number of at most sixty-four bits. -/
def ofInt? (n : Int) : Option Decimal :=
  ofParts? n 0

end Cashbook.Decimal
