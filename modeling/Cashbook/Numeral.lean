/-
Numbers as they are written, and the doubles that they stand for.

A numeral keeps its digits.  There are two ways to the double: `nearest?` takes the
one closest to what is written; `scaled?` takes the leading digits that fit into
sixty-four bits and scales them by one power of ten, so that its last place may be
off.  Tables of figures are read the first way and structured documents the second.
-/
import Cashbook.Binary64
import Cashbook.Binary64.Shortest
import Cashbook.Decimal.Numeral
import Cashbook.Text.Digits

namespace Cashbook

open Cashbook.Text

attribute [local instance (high)] instPowNat instNatPowNat Int.instNatPow

/-- A number as it is written: sign, digits on both sides of the point, exponent. -/
structure Numeral where
  negative : Bool
  whole : List Nat
  places : List Nat
  exponent : Option Int
deriving DecidableEq

namespace Numeral

/-- Whether the numeral has neither a point nor an exponent. -/
def isWhole (n : Numeral) : Bool :=
  n.places.isEmpty && n.exponent.isNone

/-! ### The nearest double -/

/-- The double nearest to what is written, unless that is beyond the largest. -/
def nearest? (n : Numeral) : Option Binary64 :=
  let digits := (n.whole ++ n.places).dropWhile (· == 0)
  let power : Int := n.exponent.getD 0 - n.places.length
  let size : Int := digits.length + power
  if digits.isEmpty then some .zero
  else if 310 < size then none
  else if size < -330 then some .zero
  else
    let value := ofDigits 10 digits
    if 0 ≤ power then Binary64.nearest? (value * 10 ^ power.toNat) 1
    else Binary64.nearest? value (10 ^ (-power).toNat)

/-! ### The double of the leading digits -/

/-- Takes digits up while the number they form fits into sixty-four bits. -/
def takeWord (word : Nat) : List Nat → Nat × List Nat
  | [] => (word, [])
  | d :: rest => if word * 10 + d < wordLimit then takeWord (word * 10 + d) rest else (word, d :: rest)

/-- The double nearest to a power of ten of at most three hundred and eight. -/
def powerOfTen (k : Nat) : Binary64 :=
  (Binary64.nearest? (10 ^ k) 1).getD .zero

/-- Divides by `10 ^ k`, three hundred and eight places at a time. -/
def divPowerOfTen (x : Binary64) (k : Nat) : Option Binary64 :=
  if k ≤ 308 then x.div? (powerOfTen k)
  else if x.isZero then some x
  else (x.div? (powerOfTen 308)).bind fun y => divPowerOfTen y (k - 308)
termination_by k

/-- Multiplies by `10 ^ k`, unless that is beyond the largest double. -/
def mulPowerOfTen (x : Binary64) (k : Nat) : Option Binary64 :=
  if k ≤ 308 then x.mul? (powerOfTen k)
  else if x.isZero then some x
  else none

/-- The leading digits as a double, scaled by one power of ten. -/
def scaled? (n : Numeral) : Option Binary64 := do
  let (start, dropped) := takeWord 0 n.whole
  let (word, rest) := takeWord start n.places
  let power : Int :=
    n.exponent.getD 0 + dropped.length - ((n.places.length : Int) - rest.length)
  let x ← Binary64.nearest? word 1
  if 0 ≤ power then mulPowerOfTen x power.toNat else divPowerOfTen x (-power).toNat

/-! ### Decimals -/

/-- The decimal that the full text of a signed double denotes. -/
def decimalOfDouble? (negative : Bool) (x : Binary64) : Option Decimal :=
  Decimal.parseChars? (if negative then '-' :: x.toChars else x.toChars)

/-- The whole number that is written, if it fits into sixty-four bits. -/
def word? (n : Numeral) : Option Int :=
  if n.isWhole then
    let value := ofDigits 10 n.whole
    if n.negative then
      if 0 < value ∧ value ≤ wordLimit / 2 then some (-(value : Int)) else none
    else if value < wordLimit then some value else none
  else none

/-- The decimal that a number in a structured document stands for. -/
def toDecimal? (n : Numeral) : Option Decimal :=
  match n.word? with
  | some value => Decimal.ofInt? value
  | none => n.scaled?.bind (decimalOfDouble? n.negative)

/-! ### Numbers in tables -/

/-- The exponent after its mark, if it is well formed. -/
def exponent? : List Char → Option Int
  | '-' :: rest =>
    match spanDigits rest with
    | (d :: ds, []) => some (-(ofDigits 10 (d :: ds) : Int))
    | _ => none
  | chars => (unsigned? chars).map fun (k : Nat) => (k : Int)

/--
A floating-point number as a table may write it: digits may be missing on one side of the point,
and a point with none behind it is one with a zero behind it.
-/
def ofChars? (chars : List Char) : Option Numeral := do
  let (negative, body) := Decimal.splitSign chars
  let (whole, rest) := spanDigits body
  let (pointed, places, tail) := match rest with
    | '.' :: rest => (true, spanDigits rest)
    | _ => (false, [], rest)
  if whole.isEmpty && places.isEmpty then none
  else
    let places := if pointed && places.isEmpty then [0] else places
    match tail with
    | [] => some ⟨negative, whole, places, none⟩
    | mark :: exponent =>
      if mark = 'e' ∨ mark = 'E' then
        let k ← exponent? exponent
        some ⟨negative, whole, places, some k⟩
      else none

end Numeral

end Cashbook
