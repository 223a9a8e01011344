/-
What rounds to a double.

The numbers that round to a double are those of its neighbourhood, the interval that the
shortest text is looked for in.  Here the exact fraction meets that interval: whatever is
rounded lies in the neighbourhood of what it is rounded to, and has a significand that is
full.  Numbers so small that the significand is not full are left out; no sum of money that
the ledger can hold is among them.
-/
import Mathlib.Algebra.Order.Field.Power
import Mathlib.Tactic.FieldSimp
import Mathlib.Tactic.Linarith
import Mathlib.Tactic.NormNum
import Mathlib.Tactic.Positivity
import Mathlib.Tactic.Ring
import Cashbook.Binary64.Shortest
import Cashbook.Proofs.Decimal

namespace Cashbook

attribute [local instance (high)] instPowNat instNatPowNat Int.instNatPow

/-! ### Rounding a quotient -/

/-- A quotient halfway between two whole numbers goes to the even one. -/
theorem even_roundHalfEven {n d : Nat} (hd : 0 < d)
    (h : 2 * n = 2 * (roundHalfEven n d * d) + d ∨ 2 * n + d = 2 * (roundHalfEven n d * d)) :
    roundHalfEven n d % 2 = 0 := by
  have hn := Nat.div_add_mod n d
  have hr := Nat.mod_lt n hd
  have hc : d * (n / d) = n / d * d := Nat.mul_comm _ _
  have hsucc : (n / d + 1) * d = n / d * d + d := Nat.succ_mul _ _
  unfold roundHalfEven at h ⊢
  simp only at h ⊢
  split at h
  next hup => rw [if_pos hup]; omega
  next hdown => rw [if_neg hdown]; omega

namespace Binary64

/-! ### Scaling by powers of two -/

/-- The fraction that is scaled is divided by the power of two. -/
theorem scaled_eq (num : Nat) {den : Nat} (hden : 0 < den) (exponent : Int) :
    0 < (scaled num den exponent).2 ∧
      ((scaled num den exponent).1 : ℚ) / (scaled num den exponent).2 =
        num / den / 2 ^ exponent := by
  have hden' : (den : ℚ) ≠ 0 := Nat.cast_ne_zero.2 hden.ne'
  unfold scaled
  split
  next h =>
    obtain ⟨k, rfl⟩ := Int.eq_ofNat_of_zero_le h
    refine ⟨Nat.mul_pos hden (Nat.pow_pos (by decide)), ?_⟩
    simp only [Int.toNat_natCast, Nat.cast_mul, Nat.cast_pow, Nat.cast_ofNat, zpow_natCast]
    rw [div_div]
  next h =>
    obtain ⟨k, hk⟩ := Int.eq_ofNat_of_zero_le (show 0 ≤ -exponent by omega)
    refine ⟨hden, ?_⟩
    obtain rfl : exponent = -(k : Int) := by omega
    simp only [neg_neg, Int.toNat_natCast, Nat.cast_mul, Nat.cast_pow, Nat.cast_ofNat, zpow_neg,
      zpow_natCast]
    field_simp

/-- A fraction is within a factor of two of the quotient of the leading bits of its parts. -/
theorem log2_bracket {num den : Nat} (hnum : 0 < num) (hden : 0 < den) :
    (2 : ℚ) ^ ((Nat.log2 num : Int) - Nat.log2 den - 1) < num / den ∧
      (num / den : ℚ) < 2 ^ ((Nat.log2 num : Int) - Nat.log2 den + 1) := by
  have hden' : (0 : ℚ) < den := Nat.cast_pos.2 hden
  have hlow : ∀ {k : Nat}, 0 < k → (2 : ℚ) ^ (Nat.log2 k : Int) ≤ k := fun {k} hk => by
    exact_mod_cast Nat.log2_self_le hk.ne'
  have hhigh : ∀ k : Nat, (k : ℚ) < 2 ^ ((Nat.log2 k : Int) + 1) := fun k => by
    exact_mod_cast Nat.lt_log2_self (n := k)
  constructor
  · rw [sub_sub, zpow_sub₀ two_ne_zero]
    exact div_lt_div₀' (hlow hnum) (hhigh den) (by positivity) hden'
  · rw [sub_add_eq_add_sub, zpow_sub₀ two_ne_zero]
    exact div_lt_div₀ (hhigh num) (hlow hden) (by positivity) (by positivity)

/-! ### The exponent -/

/-- At the exponent that is chosen the significand is full, unless the number is very small. -/
theorem exponentFor_spec {num den : Nat} (hnum : 0 < num) (hden : 0 < den)
    (hsize : (2 : ℚ) ^ (-1022 : Int) ≤ num / den) :
    -1074 ≤ exponentFor num den ∧ (2 : ℚ) ^ 52 ≤ num / den / 2 ^ exponentFor num den ∧
      (num / den / 2 ^ exponentFor num den : ℚ) < 2 ^ 53 := by
  obtain ⟨hlow, hhigh⟩ := log2_bracket hnum hden
  obtain ⟨hpos, hscaled⟩ := scaled_eq num hden ((Nat.log2 num : Int) - Nat.log2 den - 52)
  rw [exponentFor]
  generalize hguess : (Nat.log2 num : Int) - Nat.log2 den - 52 = guess at hpos hscaled ⊢
  rw [show (Nat.log2 num : Int) - Nat.log2 den - 1 = guess + 51 by omega,
    zpow_add₀ two_ne_zero, ← lt_div_iff₀' (by positivity)] at hlow
  rw [show (Nat.log2 num : Int) - Nat.log2 den + 1 = guess + 53 by omega,
    zpow_add₀ two_ne_zero, ← div_lt_iff₀' (by positivity)] at hhigh
  generalize scaled num den guess = fraction at hpos hscaled ⊢
  obtain ⟨n, d⟩ := fraction
  simp only at hpos hscaled ⊢
  have hless : n < d * leadingBit ↔ (num / den / 2 ^ guess : ℚ) < 2 ^ 52 := by
    rw [← hscaled, div_lt_iff₀ (by exact_mod_cast hpos), leadingBit]
    norm_cast
    rw [Nat.mul_comm]
    norm_num
  obtain ⟨hfull, hfit⟩ : (2 : ℚ) ^ 52 ≤ num / den / 2 ^ (if n < d * leadingBit then guess - 1 else guess) ∧
      (num / den / 2 ^ (if n < d * leadingBit then guess - 1 else guess) : ℚ) < 2 ^ 53 := by
    split
    next h =>
      rw [zpow_sub_one₀ two_ne_zero, ← div_div, div_inv_eq_mul]
      have h := hless.1 h
      constructor <;> norm_num at hlow h ⊢ <;> linarith
    next h =>
      exact ⟨not_lt.1 fun hlt => h (hless.2 hlt), by exact_mod_cast hhigh⟩
  generalize (if n < d * leadingBit then guess - 1 else guess) = e at hfull hfit ⊢
  have he : -1074 ≤ e := by
    rw [div_lt_iff₀ (by positivity)] at hfit
    have hlt : (2 : ℚ) ^ (-1022 : Int) < 2 ^ (53 + e) := by
      rw [zpow_add₀ two_ne_zero]
      exact lt_of_le_of_lt hsize (by exact_mod_cast hfit)
    have := (zpow_lt_zpow_iff_right₀ one_lt_two).1 hlt
    omega
  rw [max_eq_left he]
  exact ⟨he, hfull, hfit⟩

/-! ### The neighbourhood -/

/-- Whether a number lies between the ends, or on one of them where they count. -/
def Neighbourhood.Holds (around : Neighbourhood) (q : ℚ) : Prop :=
  if around.closed then around.low * 2 ^ around.exponent ≤ q ∧ q ≤ around.high * 2 ^ around.exponent
  else around.low * 2 ^ around.exponent < q ∧ q < around.high * 2 ^ around.exponent

instance (around : Neighbourhood) (q : ℚ) : Decidable (around.Holds q) := by
  unfold Neighbourhood.Holds
  infer_instance

/-- What lies between the centre and a number of the neighbourhood is in the neighbourhood. -/
theorem Neighbourhood.Holds.between {around : Neighbourhood} {a q : ℚ}
    (hcentre : around.low < around.centre ∧ around.centre < around.high) (h : around.Holds a)
    (hq : a ≤ q ∧ q ≤ around.centre * 2 ^ around.exponent ∨
      around.centre * 2 ^ around.exponent ≤ q ∧ q ≤ a) : around.Holds q := by
  have hunit : (0 : ℚ) < 2 ^ around.exponent := by positivity
  have hlow : (around.low * 2 ^ around.exponent : ℚ) < around.centre * 2 ^ around.exponent :=
    mul_lt_mul_of_pos_right (Nat.cast_lt.2 hcentre.1) hunit
  have hhigh : (around.centre * 2 ^ around.exponent : ℚ) < around.high * 2 ^ around.exponent :=
    mul_lt_mul_of_pos_right (Nat.cast_lt.2 hcentre.2) hunit
  unfold Neighbourhood.Holds at h ⊢
  split at h
  next hclosed =>
    rw [if_pos hclosed]
    rcases hq with ⟨hfrom, hto⟩ | ⟨hfrom, hto⟩ <;> constructor <;> linarith
  next hopen =>
    rw [if_neg hopen]
    rcases hq with ⟨hfrom, hto⟩ | ⟨hfrom, hto⟩ <;> constructor <;> linarith

theorem Neighbourhood.Holds.bounds {around : Neighbourhood} {q : ℚ} (h : around.Holds q) :
    around.low * 2 ^ around.exponent ≤ q ∧ q ≤ around.high * 2 ^ around.exponent := by
  unfold Neighbourhood.Holds at h
  split at h
  · exact h
  · exact ⟨h.1.le, h.2.le⟩

/-- A fraction is compared with the ends in units of a quarter. -/
theorem Neighbourhood.holds_iff {around : Neighbourhood} {q : ℚ} {n d : Nat} (hd : 0 < d)
    (hq : q / 2 ^ around.exponent = n / d) :
    around.Holds q ↔ if around.closed then around.low * d ≤ n ∧ n ≤ around.high * d
      else around.low * d < n ∧ n < around.high * d := by
  have hd' : (0 : ℚ) < d := Nat.cast_pos.2 hd
  have hunit : (0 : ℚ) < 2 ^ around.exponent := by positivity
  have hle : ∀ k : Nat, k * 2 ^ around.exponent ≤ q ↔ k * d ≤ n := fun k => by
    rw [← le_div_iff₀ hunit, hq, le_div_iff₀ hd']
    norm_cast
  have hge : ∀ k : Nat, q ≤ k * 2 ^ around.exponent ↔ n ≤ k * d := fun k => by
    rw [← div_le_iff₀ hunit, hq, div_le_iff₀ hd']
    norm_cast
  rw [Holds]
  split
  · rw [hle, hge]
  · rw [← not_le, ← not_le, hle, hge, Nat.not_le, Nat.not_le]

/-- The significand has fifty-three bits. -/
structure IsNormal (x : Binary64) : Prop where
  full : leadingBit ≤ x.significand
  fits : x.significand < 2 * leadingBit
  low : -1074 ≤ x.exponent

section

variable {q : ℚ} {n d : Nat} {e : Int}

/-- A full significand stays full when it is rounded, or is carried over. -/
theorem roundHalfEven_full (hd : 0 < d) (hfull : leadingBit * d ≤ n) (hfit : n < 2 * leadingBit * d) :
    leadingBit ≤ roundHalfEven n d ∧ roundHalfEven n d ≤ 2 * leadingBit := by
  refine ⟨(le_roundHalfEven_iff hd (by decide)).2 (by omega), ?_⟩
  by_contra hgt
  have hnear := (roundHalfEven_near n hd).2
  have hmul := Nat.mul_le_mul_right d (Nat.succ_le_of_lt (Nat.lt_of_not_le hgt))
  rw [Nat.succ_mul] at hmul
  omega

/-- A significand that is not carried over is within half a unit, and on the edge only if it is even. -/
theorem holds_of_rounded (hd : 0 < d) (hq : q / 2 ^ e = n / d) (hfull : leadingBit * d ≤ n) :
    (neighbourhood ⟨roundHalfEven n d, e⟩).Holds q := by
  have hquarters : q / 2 ^ (e - 2) = ((4 * n : Nat) : ℚ) / d := by
    rw [zpow_sub₀ two_ne_zero, div_div_eq_mul_div, mul_comm, mul_div_assoc, hq]
    push_cast
    ring
  refine (Neighbourhood.holds_iff hd hquarters).2 ?_
  obtain ⟨hlow, hhigh⟩ := roundHalfEven_near n hd
  have htie := even_roundHalfEven hd (n := n)
  simp only [neighbourhood, beq_iff_eq]
  generalize roundHalfEven n d = r at hlow hhigh htie ⊢
  have hquarter : (4 * r - 1) * d = 4 * (r * d) - d := by rw [Nat.sub_mul, Nat.mul_assoc, Nat.one_mul]
  have hhalf : (4 * r - 2) * d = 4 * (r * d) - 2 * d := by rw [Nat.sub_mul, Nat.mul_assoc]
  have hupper : (4 * r + 2) * d = 4 * (r * d) + 2 * d := by rw [Nat.add_mul, Nat.mul_assoc]
  have hone : d ≤ leadingBit * d := Nat.le_mul_of_pos_left d (by decide)
  rw [hupper]
  by_cases hpower : r = leadingBit ∧ -1074 < e
  · -- Just above a power of two nothing was rounded up to it.
    rw [if_pos hpower, hquarter]
    obtain ⟨rfl, -⟩ := hpower
    split <;> omega
  · rw [if_neg hpower, hhalf]
    split <;> omega

/-- A significand that is carried over comes from just below a power of two. -/
theorem holds_of_carried (hd : 0 < d) (hq : q / 2 ^ e = n / d) (he : -1074 ≤ e)
    (hfit : n < 2 * leadingBit * d) (hround : roundHalfEven n d = 2 * leadingBit) :
    (neighbourhood ⟨leadingBit, e + 1⟩).Holds q := by
  have hhalves : q / 2 ^ (e + 1 - 2) = ((2 * n : Nat) : ℚ) / d := by
    rw [show e + 1 - 2 = e - 1 by omega, zpow_sub₀ two_ne_zero, div_div_eq_mul_div, mul_comm,
      mul_div_assoc, hq]
    push_cast
    ring
  refine (Neighbourhood.holds_iff hd hhalves).2 ?_
  have hnear := (roundHalfEven_near n hd).2
  rw [hround] at hnear
  simp only [neighbourhood]
  rw [if_pos (by decide), if_pos ⟨trivial, by omega⟩]
  unfold leadingBit at *
  omega

/-- What is rounded is the significand at the exponent that was chosen. -/
theorem nearest?_of_scaled {num den : Nat} (hnum : num ≠ 0) (he : exponentFor num den = e)
    (hscaled : scaled num den e = (n, d)) :
    nearest? num den = finite? (carry (roundHalfEven n d) e) := by
  rw [nearest?, if_neg hnum, he]
  simp only [hscaled]

end

theorem eq_of_finite? {x y : Binary64} (h : finite? x = some y) : x = y := by
  rw [finite?] at h
  split at h
  · exact Option.some.inj h
  · cases h

/-- **What is rounded lies in the neighbourhood of what it is rounded to**, which is normal. -/
theorem nearest?_eq_some {num den : Nat} {x : Binary64} (hnum : 0 < num) (hden : 0 < den)
    (hsize : (2 : ℚ) ^ (-1022 : Int) ≤ num / den) (h : nearest? num den = some x) :
    x.IsNormal ∧ x.neighbourhood.Holds (num / den) := by
  obtain ⟨he, hfull, hfit⟩ := exponentFor_spec hnum hden hsize
  obtain ⟨hd, hq⟩ := scaled_eq num hden (exponentFor num den)
  rcases hscaled : scaled num den (exponentFor num den) with ⟨n, d⟩
  have hx := eq_of_finite? ((nearest?_of_scaled hnum.ne' rfl hscaled).symm.trans h)
  rw [hscaled] at hd hq
  generalize exponentFor num den = e at he hfull hfit hq hx
  simp only at hd hq
  have hd' : (0 : ℚ) < d := Nat.cast_pos.2 hd
  rw [← hq, le_div_iff₀ hd'] at hfull
  rw [← hq, div_lt_iff₀ hd'] at hfit
  have hfull : leadingBit * d ≤ n := by exact_mod_cast hfull
  have hfit : n < 2 * leadingBit * d := by exact_mod_cast hfit
  obtain ⟨hrounded, hcarried⟩ := roundHalfEven_full hd hfull hfit
  rw [← hx, carry]
  split
  next hround =>
    exact ⟨⟨Nat.le_refl leadingBit, (by decide : leadingBit < 2 * leadingBit), show -1074 ≤ e + 1 by omega⟩,
      holds_of_carried hd hq.symm he hfit hround⟩
  next hround =>
    exact ⟨⟨hrounded, Nat.lt_of_le_of_ne hcarried hround, he⟩, holds_of_rounded hd hq.symm hfull⟩

theorem exponent_carry_le (significand : Nat) (e : Int) : (carry significand e).exponent ≤ e + 1 := by
  rw [carry]
  split
  · exact Int.le_refl _
  · show e ≤ e + 1
    omega

/-- What is not too large is rounded to some double. -/
theorem exists_nearest? {num den : Nat} (hnum : 0 < num) (hden : 0 < den)
    (hsize : (2 : ℚ) ^ (-1022 : Int) ≤ num / den) (hlarge : (num / den : ℚ) < 2 ^ (1000 : Int)) :
    ∃ x, nearest? num den = some x := by
  obtain ⟨-, hfull, -⟩ := exponentFor_spec hnum hden hsize
  rcases hscaled : scaled num den (exponentFor num den) with ⟨n, d⟩
  rw [nearest?_of_scaled hnum.ne' rfl hscaled, finite?]
  generalize exponentFor num den = e at hfull
  rw [le_div_iff₀ (by positivity)] at hfull
  have hlt : (2 : ℚ) ^ (52 + e) < 2 ^ (1000 : Int) := by
    rw [zpow_add₀ two_ne_zero]
    exact lt_of_le_of_lt (by exact_mod_cast hfull) hlarge
  have he := (zpow_lt_zpow_iff_right₀ one_lt_two).1 hlt
  have hcarry := exponent_carry_le (roundHalfEven n d) e
  exact ⟨_, if_pos (by omega)⟩

end Binary64

end Cashbook
