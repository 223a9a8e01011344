/-
Plain numerals.

Of all that a table may write for a number, these are the forms that are mostly written: a
sign or none, digits, and perhaps a point with digits behind it.  Reading keeps the digits as
they are.  What they are worth depends on the significant ones alone, and on where the last
of them stands.
-/
import Mathlib.Data.List.DropRight
import Cashbook.Proofs.Binary64.Text

namespace Cashbook

open Cashbook.Text

attribute [local instance (high)] instPowNat instNatPowNat Int.instNatPow

namespace Numeral

/-- The sign that a numeral is written with, if any. -/
inductive Sign where
  | bare
  | plus
  | minus
deriving DecidableEq

namespace Sign

def isMinus : Sign → Bool
  | .minus => true
  | .bare | .plus => false

def toChars : Sign → List Char
  | .bare => []
  | .plus => ['+']
  | .minus => ['-']

end Sign

/-- A numeral as it is mostly written: a sign, digits, and perhaps a point and more digits. -/
structure Plain where
  sign : Sign
  whole : List Nat
  /-- The digits behind the point, which is only written if there are any. -/
  places : List Nat
  whole_lt : ∀ d ∈ whole, d < 10
  places_lt : ∀ d ∈ places, d < 10
  whole_ne_nil : whole ≠ []

namespace Plain

variable {n : Plain}

def toChars (n : Plain) : List Char := n.sign.toChars ++ Decimal.written n.whole n.places

def toText (n : Plain) : String := String.ofList n.toChars

/-- Its parts, as reading finds them. -/
def numeral (n : Plain) : Numeral := ⟨n.sign.isMinus, n.whole, n.places, none⟩

theorem splitSign_toChars (n : Plain) :
    Decimal.splitSign n.toChars = (n.sign.isMinus, Decimal.written n.whole n.places) := by
  rw [toChars]
  cases n.sign with
  | bare => exact Decimal.splitSign_written n.whole_lt n.whole_ne_nil _
  | plus => rfl
  | minus => rfl

/-- **A plain numeral is recognised**, and its digits are kept as they are. -/
theorem ofChars?_toChars (n : Plain) : ofChars? n.toChars = some n.numeral := by
  have hwhole : n.whole.isEmpty = false := List.isEmpty_eq_false_iff.2 n.whole_ne_nil
  rw [ofChars?, splitSign_toChars, Decimal.written]
  by_cases hplaces : n.places = []
  · rw [if_pos hplaces]
    have hspan : spanDigits (n.whole.map Nat.digitChar ++ []) = (n.whole, []) :=
      spanDigits_digits n.whole_lt rfl
    simp only [hspan, hwhole, Bool.false_and, numeral, hplaces]
    rfl
  · rw [if_neg hplaces]
    have hspan : spanDigits (n.whole.map Nat.digitChar ++ '.' :: n.places.map Nat.digitChar) =
        (n.whole, '.' :: n.places.map Nat.digitChar) := spanDigits_digits n.whole_lt rfl
    have hspan' : spanDigits (n.places.map Nat.digitChar) = (n.places, []) := by
      rw [← List.append_nil (n.places.map _)]
      exact spanDigits_digits n.places_lt rfl
    have hempty : n.places.isEmpty = false := List.isEmpty_eq_false_iff.2 hplaces
    simp only [hspan, hspan', hwhole, hempty, Bool.and_false, numeral]
    rfl

/-! ### What it denotes -/

/-- The number without its sign and without its point. -/
def coefficient (n : Plain) : Nat := ofDigits 10 (n.whole ++ n.places)

/-- The number without its point. -/
def signed (n : Plain) : Int := Decimal.signed n.sign.isMinus n.coefficient

/-- The number that is written. -/
def value (n : Plain) : ℚ := n.signed / 10 ^ n.places.length

/-- The significant digits, from the first to the last that is not zero, as a number. -/
def significand (n : Plain) : Nat := ofDigits 10 (stripWith (· == 0) (n.whole ++ n.places))

/-- Whether some decimal is the number that is written. -/
def Fits (n : Plain) : Prop := ∃ d : Decimal, d.value = n.value

theorem digits_lt (n : Plain) : ∀ d ∈ (n.whole ++ n.places).dropWhile (· == 0), d < 10 := fun d hd =>
  (List.mem_append.1 ((List.dropWhile_sublist _).subset hd)).elim (n.whole_lt d) (n.places_lt d)

/-- Without zeros in front there are no digits left, or the first of them is not zero. -/
theorem digits_eq (n : Plain) : (n.whole ++ n.places).dropWhile (· == 0) = [] ∨
    ∃ d rest, (n.whole ++ n.places).dropWhile (· == 0) = d :: rest ∧ d ≠ 0 := by
  have hhead := List.head?_dropWhile_not (· == 0) (n.whole ++ n.places)
  rcases hdigits : (n.whole ++ n.places).dropWhile (· == 0) with _ | ⟨d, rest⟩
  · exact .inl rfl
  · rw [hdigits] at hhead
    exact .inr ⟨d, rest, rfl, ne_of_beq_false hhead⟩

/-- Zeros in front count for nothing. -/
theorem coefficient_eq (n : Plain) :
    n.coefficient = ofDigits 10 ((n.whole ++ n.places).dropWhile (· == 0)) := by
  have hzeros : ∀ d ∈ (n.whole ++ n.places).takeWhile (· == 0), d = 0 := fun d hd => by
    simpa using List.mem_takeWhile_imp hd
  rw [← ofDigits_zeros_append hzeros, List.takeWhile_append_dropWhile, coefficient]

/-- What is not significant are zeros at the end, which only move the point. -/
theorem exists_significand (h : n.coefficient ≠ 0) :
    ∃ zeros, n.coefficient = n.significand * 10 ^ zeros ∧ n.significand % 10 ≠ 0 := by
  rw [coefficient_eq] at h ⊢
  have hlt := n.digits_lt
  rw [significand, stripWith]
  generalize (n.whole ++ n.places).dropWhile (· == 0) = ds at h hlt ⊢
  have hzeros : ∀ d ∈ (ds.reverse.takeWhile (· == 0)).reverse, d = 0 := fun d hd => by
    simpa using List.mem_takeWhile_imp (List.mem_reverse.1 hd)
  have hsplit : ds = (ds.reverse.dropWhile (· == 0)).reverse ++ (ds.reverse.takeWhile (· == 0)).reverse := by
    rw [← List.reverse_append, List.takeWhile_append_dropWhile, List.reverse_reverse]
  have hvalue : ofDigits 10 ds = ofDigits 10 (ds.reverse.dropWhile (· == 0)).reverse *
      10 ^ (ds.reverse.takeWhile (· == 0)).reverse.length := by
    rw [← ofDigits_append_zeros hzeros, ← hsplit]
  refine ⟨_, hvalue, ?_⟩
  rcases hkept : ds.reverse.dropWhile (· == 0) with _ | ⟨last, front⟩
  · rw [hvalue, hkept] at h
    exact absurd (Nat.zero_mul _) h
  · have hlast : (last == 0) = false := by
      have hhead := List.head?_dropWhile_not (· == 0) ds.reverse
      rwa [hkept] at hhead
    have hne : last ≠ 0 := ne_of_beq_false hlast
    have hdigit : last < 10 := by
      have hmem : last ∈ ds.reverse.dropWhile (· == 0) := hkept ▸ List.mem_cons_self
      exact hlt last (List.mem_reverse.1 ((List.dropWhile_sublist _).subset hmem))
    rw [List.reverse_cons, ofDigits_append]
    omega

/-- A decimal is the number if its coefficient is, with the points in the same place. -/
theorem exists_of_fits (h : n.Fits) : ∃ coefficient scale : Nat, coefficient < Decimal.limit ∧ scale ≤ 28 ∧
    coefficient * 10 ^ n.places.length = n.coefficient * 10 ^ scale := by
  obtain ⟨d, hd⟩ := h
  refine ⟨d.coefficient.natAbs, d.scale, d.coefficient_lt, d.scale_le, ?_⟩
  rw [Decimal.value, value, div_eq_div_iff (by positivity) (by positivity)] at hd
  have habs := congrArg Int.natAbs (show d.coefficient * 10 ^ n.places.length = n.signed * 10 ^ d.scale by
    exact_mod_cast hd)
  rw [Int.natAbs_mul, Int.natAbs_mul, Int.natAbs_pow, Int.natAbs_pow, signed, Decimal.natAbs_signed] at habs
  exact habs

/-- A number that fits has its last significant digit among the first twenty-eight places. -/
theorem places_le {zeros : Nat} (h : n.Fits) (hsplit : n.coefficient = n.significand * 10 ^ zeros)
    (hlast : n.significand % 10 ≠ 0) : n.places.length ≤ zeros + 28 := by
  obtain ⟨coefficient, scale, -, hscale, heq⟩ := exists_of_fits h
  rw [hsplit, Nat.mul_assoc, ← Nat.pow_add] at heq
  by_contra hlong
  obtain ⟨more, hmore⟩ := Nat.exists_eq_add_of_lt (show zeros + scale < n.places.length by omega)
  -- Otherwise there would be a zero at the end of what is significant.
  have hfactor : coefficient * 10 ^ n.places.length =
      coefficient * 10 ^ more * 10 * 10 ^ (zeros + scale) := by
    rw [hmore, show zeros + scale + more + 1 = more + 1 + (zeros + scale) by omega, Nat.pow_add,
      Nat.pow_succ, ← Nat.mul_assoc, ← Nat.mul_assoc]
  rw [hfactor] at heq
  have hzero := Nat.eq_of_mul_eq_mul_right (Nat.pow_pos (by decide)) heq
  exact hlast (hzero ▸ Nat.mul_mod_left _ 10)

/-- A number that fits is no smaller than the last place, unless it is zero, and no larger than the limit. -/
theorem bounds_of_fits (h : n.Fits) (hne : n.coefficient ≠ 0) :
    10 ^ n.places.length ≤ n.coefficient * 10 ^ 28 ∧ n.coefficient < Decimal.limit * 10 ^ n.places.length := by
  obtain ⟨coefficient, scale, hlimit, hscale, heq⟩ := exists_of_fits h
  have hpow : 0 < 10 ^ n.places.length := Nat.pow_pos (by decide)
  constructor
  · have hpos : 0 < coefficient := by
      by_contra hzero
      rw [Nat.eq_zero_of_not_pos hzero, Nat.zero_mul] at heq
      exact hne ((Nat.mul_eq_zero.1 heq.symm).resolve_right (Nat.pow_pos (by decide)).ne')
    calc 10 ^ n.places.length ≤ coefficient * 10 ^ n.places.length := Nat.le_mul_of_pos_left _ hpos
      _ = n.coefficient * 10 ^ scale := heq
      _ ≤ n.coefficient * 10 ^ 28 := Nat.mul_le_mul_left _ (Nat.pow_le_pow_right (by decide) hscale)
  · calc n.coefficient ≤ n.coefficient * 10 ^ scale := Nat.le_mul_of_pos_right _ (Nat.pow_pos (by decide))
      _ = coefficient * 10 ^ n.places.length := heq.symm
      _ < Decimal.limit * 10 ^ n.places.length := Nat.mul_lt_mul_of_pos_right hlimit hpow

end Plain

end Numeral

end Cashbook
