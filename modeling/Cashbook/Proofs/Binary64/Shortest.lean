/-
The shortest text of a double.

A grid of a power of ten is searched at the two points next to the double, which is enough:
if any point of the grid reads back as the double, one of these does.  So the search stops
at the coarsest grid that has such a point.  A number with few digits is the only point of
its grid that reads back as the double nearest to it, for its neighbourhood is narrower than
the grid, and no coarser grid has one at all; that is why it is what is written.
-/
import Mathlib.Data.Rat.Floor
import Cashbook.Proofs.Binary64.Nearest

namespace Cashbook.Binary64

attribute [local instance (high)] instPowNat instNatPowNat Int.instNatPow

/-! ### Grids -/

/-- A number of quarter units, counted in units of the grid. -/
theorem onGrid_eq (n : Nat) (exponent power : Int) :
    0 < (onGrid n exponent power).2 ∧
      ((onGrid n exponent power).1 : ℚ) / (onGrid n exponent power).2 = n * 2 ^ exponent / 10 ^ power := by
  obtain ⟨hpos, hscaled⟩ := scaled_eq n Nat.one_pos (-exponent)
  rcases hfraction : scaled n 1 (-exponent) with ⟨num, den⟩
  rw [hfraction] at hpos hscaled
  simp only [Nat.cast_one, div_one, zpow_neg, div_inv_eq_mul] at hpos hscaled
  rw [← hscaled, onGrid, hfraction]
  by_cases hpower : 0 ≤ power
  · obtain ⟨p, rfl⟩ := Int.eq_ofNat_of_zero_le hpower
    simp only [if_pos hpower, Int.toNat_natCast, Nat.cast_mul, Nat.cast_pow, Nat.cast_ofNat, zpow_natCast]
    exact ⟨Nat.mul_pos hpos (Nat.pow_pos (by decide)), (div_div _ _ _).symm⟩
  · obtain ⟨p, hp⟩ := Int.eq_ofNat_of_zero_le (show 0 ≤ -power by omega)
    obtain rfl : power = -(p : Int) := by omega
    simp only [if_neg hpower, neg_neg, Int.toNat_natCast, Nat.cast_mul, Nat.cast_pow, Nat.cast_ofNat,
      zpow_neg, zpow_natCast, div_inv_eq_mul]
    exact ⟨hpos, mul_div_right_comm _ _ _⟩

/-- The unit does not depend on the number that is counted. -/
theorem onGrid_unit (n m : Nat) (exponent power : Int) :
    (onGrid n exponent power).2 = (onGrid m exponent power).2 := by
  simp only [onGrid, scaled]
  split <;> split <;> rfl

section

variable {n k count unit : Nat} {exponent power : Int}

/-- Points of the grid are compared with a number as whole multiples of the unit. -/
theorem onGrid_le_iff (h : onGrid n exponent power = (count, unit)) :
    (n * 2 ^ exponent : ℚ) ≤ k * 10 ^ power ↔ count ≤ k * unit := by
  obtain ⟨hpos, heq⟩ := onGrid_eq n exponent power
  rw [h] at hpos heq
  have hunit : (0 : ℚ) < unit := Nat.cast_pos.2 hpos
  rw [← div_le_iff₀ (by positivity), ← heq, div_le_iff₀ hunit]
  norm_cast

theorem le_onGrid_iff (h : onGrid n exponent power = (count, unit)) :
    (k * 10 ^ power : ℚ) ≤ n * 2 ^ exponent ↔ k * unit ≤ count := by
  obtain ⟨hpos, heq⟩ := onGrid_eq n exponent power
  rw [h] at hpos heq
  have hunit : (0 : ℚ) < unit := Nat.cast_pos.2 hpos
  rw [← le_div_iff₀ (by positivity), ← heq, le_div_iff₀ hunit]
  norm_cast

end

/-- Whether the point `k` of the grid of `10 ^ power` reads back as the double. -/
def Neighbourhood.Marks (around : Neighbourhood) (power : Int) (k : Nat) : Prop :=
  0 < k ∧ around.Holds (k * 10 ^ power)

instance (around : Neighbourhood) (power : Int) (k : Nat) : Decidable (around.Marks power k) :=
  inferInstanceAs (Decidable (_ ∧ _))

section

variable {around : Neighbourhood} {power : Int} {centre unit : Nat}

/-- On a grid the two points next to the centre are looked at. -/
theorem gridPoint?_eq (hcentre : onGrid around.centre around.exponent power = (centre, unit)) :
    gridPoint? around power =
      match decide (around.Marks power (centre / unit)), decide (around.Marks power (centre / unit + 1)) with
      | true, true => some (if centre - centre / unit * unit < (centre / unit + 1) * unit - centre
          then centre / unit else centre / unit + 1)
      | true, false => some (centre / unit)
      | false, true => some (centre / unit + 1)
      | false, false => none := by
  have hunit (n : Nat) : ∃ count, onGrid n around.exponent power = (count, unit) :=
    ⟨_, Prod.ext rfl (by rw [onGrid_unit n around.centre, hcentre])⟩
  obtain ⟨low, hlow⟩ := hunit around.low
  obtain ⟨high, hhigh⟩ := hunit around.high
  have hholds (k : Nat) : around.Holds (k * 10 ^ power) ↔ if around.closed then
      low ≤ k * unit ∧ k * unit ≤ high else low < k * unit ∧ k * unit < high := by
    rw [Neighbourhood.Holds, onGrid_le_iff hlow, le_onGrid_iff hhigh, ← not_le, ← not_le,
      onGrid_le_iff hhigh, le_onGrid_iff hlow, Nat.not_le, Nat.not_le]
  have hinside (k : Nat) : (decide (0 < k) && (if around.closed then
      decide (low ≤ k * unit) && decide (k * unit ≤ high)
      else decide (low < k * unit) && decide (k * unit < high))) = decide (around.Marks power k) := by
    rw [Bool.eq_iff_iff, decide_eq_true_iff, Neighbourhood.Marks, hholds]
    cases around.closed <;> simp
  cases hbelow : decide (around.Marks power (centre / unit)) <;>
    cases habove : decide (around.Marks power (centre / unit + 1)) <;>
      simp only [gridPoint?, hcentre, hlow, hhigh, hinside, hbelow, habove]

/-- What is found on a grid reads back as the double. -/
theorem marks_of_gridPoint? {k : Nat} (h : gridPoint? around power = some k) : around.Marks power k := by
  rcases hcount : onGrid around.centre around.exponent power with ⟨centre, unit⟩
  rw [gridPoint?_eq hcount] at h
  split at h
  next hbelow habove =>
    obtain rfl := Option.some.inj h
    split
    · exact of_decide_eq_true hbelow
    · exact of_decide_eq_true habove
  next hbelow _ => exact Option.some.inj h ▸ of_decide_eq_true hbelow
  next _ habove => exact Option.some.inj h ▸ of_decide_eq_true habove
  next => cases h

/-- Where nothing is found on a grid, neither of the points next to the centre reads back. -/
theorem not_marks_of_gridPoint? (hcentre : onGrid around.centre around.exponent power = (centre, unit))
    (h : gridPoint? around power = none) :
    ¬around.Marks power (centre / unit) ∧ ¬around.Marks power (centre / unit + 1) := by
  rw [gridPoint?_eq hcentre] at h
  split at h
  next => cases h
  next => cases h
  next => cases h
  next hbelow habove => exact ⟨of_decide_eq_false hbelow, of_decide_eq_false habove⟩

/-- A grid with a point that reads back has one next to the centre, for what lies between does too. -/
theorem exists_gridPoint? {k : Nat} (hcentre : around.low < around.centre ∧ around.centre < around.high)
    (hk : around.Marks power k) : ∃ found, gridPoint? around power = some found := by
  rcases hcount : onGrid around.centre around.exponent power with ⟨centre, unit⟩
  by_contra hnone
  obtain ⟨hbelow, habove⟩ := not_marks_of_gridPoint? hcount
    (Option.eq_none_iff_forall_ne_some.2 fun found hfound => hnone ⟨found, hfound⟩)
  have hunit : 0 < unit := by
    have hpos := (onGrid_eq around.centre around.exponent power).1
    rwa [hcount] at hpos
  have hpower : (0 : ℚ) < 10 ^ power := by positivity
  have hfloor : ((centre / unit : Nat) : ℚ) * 10 ^ power ≤ around.centre * 2 ^ around.exponent :=
    (le_onGrid_iff hcount).2 (Nat.div_mul_le_self centre unit)
  have hceil : (around.centre * 2 ^ around.exponent : ℚ) ≤ (centre / unit + 1 : Nat) * 10 ^ power := by
    refine (onGrid_le_iff hcount).2 ?_
    rw [Nat.succ_mul]
    exact (Nat.lt_div_mul_add hunit).le
  rcases Nat.lt_or_ge (centre / unit) k with hlt | hge
  · refine habove ⟨Nat.succ_pos _, hk.2.between hcentre (.inr ⟨hceil, ?_⟩)⟩
    exact mul_le_mul_of_nonneg_right (Nat.cast_le.2 hlt) hpower.le
  · refine hbelow ⟨Nat.lt_of_lt_of_le hk.1 hge, hk.2.between hcentre (.inl ⟨?_, hfloor⟩)⟩
    exact mul_le_mul_of_nonneg_right (Nat.cast_le.2 hge) hpower.le

end

/-! ### Neighbourhoods of normal doubles -/

section

variable {x : Binary64} {q : ℚ}

theorem neighbourhood_centre (hx : x.IsNormal) :
    x.neighbourhood.low < x.neighbourhood.centre ∧ x.neighbourhood.centre < x.neighbourhood.high := by
  have hfull := hx.full
  simp only [neighbourhood]
  unfold leadingBit at *
  split <;> omega

/-- A neighbourhood is at most one unit wide, half a unit on either side. -/
theorem bounds_of_holds (h : x.neighbourhood.Holds q) :
    (2 * x.significand - 1) * 2 ^ x.exponent ≤ 2 * q ∧
      2 * q ≤ (2 * x.significand + 1) * (2 : ℚ) ^ x.exponent := by
  obtain ⟨hlow, hhigh⟩ := h.bounds
  have hquarter : (2 : ℚ) ^ x.neighbourhood.exponent = 2 ^ x.exponent / 4 := by
    rw [neighbourhood, zpow_sub₀ two_ne_zero]
    norm_num
  have hleast : (4 * x.significand - 2 : ℚ) ≤ x.neighbourhood.low := by
    have hnat : 4 * x.significand ≤ x.neighbourhood.low + 2 := by
      simp only [neighbourhood]
      split <;> omega
    have hcast : (4 * x.significand : ℚ) ≤ x.neighbourhood.low + 2 := by exact_mod_cast hnat
    linarith
  have hmost : (x.neighbourhood.high : ℚ) = 4 * x.significand + 2 := by
    simp [neighbourhood]
  have hunit : (0 : ℚ) < 2 ^ x.exponent := by positivity
  rw [hquarter] at hlow hhigh
  rw [hmost] at hhigh
  have hscaled := mul_le_mul_of_nonneg_right hleast hunit.le
  constructor <;> linarith

theorem two_mul_significand_le (hx : x.IsNormal) : (2 * x.significand + 1 : ℚ) ≤ 2 ^ 54 := by
  have hfits := hx.fits
  unfold leadingBit at hfits
  norm_cast
  omega

theorem le_two_mul_significand (hx : x.IsNormal) : (2 ^ 52 : ℚ) ≤ 2 * x.significand - 1 := by
  have hfull := hx.full
  unfold leadingBit at hfull
  have hcast : (2 ^ 52 + 1 : ℚ) ≤ 2 * x.significand := by
    norm_cast
    omega
  linarith

/-- Numbers that are rounded to the same double are nearly the same. -/
theorem dist_of_holds {r : ℚ} (hx : x.IsNormal) (hq : x.neighbourhood.Holds q)
    (hr : x.neighbourhood.Holds r) : 2 ^ 51 * |r - q| ≤ q := by
  obtain ⟨hlow, hhigh⟩ := bounds_of_holds hq
  obtain ⟨hlow', hhigh'⟩ := bounds_of_holds hr
  have hunit : (0 : ℚ) < 2 ^ x.exponent := by positivity
  have hscaled := mul_le_mul_of_nonneg_right (le_two_mul_significand hx) hunit.le
  have hdist : |r - q| ≤ 2 ^ x.exponent := by
    rw [abs_le]
    constructor <;> linarith
  norm_num at hscaled ⊢
  linarith

/-- A neighbourhood is a unit wide, or three quarters of one where the significand is least. -/
theorem neighbourhood_wide (hx : x.IsNormal) :
    x.neighbourhood.low + 3 ≤ x.neighbourhood.high ∧
      (leadingBit < x.significand → x.neighbourhood.low + 4 ≤ x.neighbourhood.high) := by
  have hfull := hx.full
  simp only [neighbourhood]
  unfold leadingBit at *
  split <;> omega

end

/-- A double has about the exponent of the numbers that are rounded to it. -/
theorem exponent_bounds {x : Binary64} {q : ℚ} (hx : x.IsNormal) (h : x.neighbourhood.Holds q)
    (hlow : (2 : ℚ) ^ (-100 : Int) ≤ q) (hhigh : q < 2 ^ (100 : Int)) :
    -200 ≤ x.exponent ∧ x.exponent < 200 := by
  obtain ⟨hlower, hupper⟩ := bounds_of_holds h
  have hunit : (0 : ℚ) < 2 ^ x.exponent := by positivity
  constructor
  · have hscaled := mul_le_mul_of_nonneg_right (two_mul_significand_le hx) hunit.le
    have hle : (2 : ℚ) ^ (-100 : Int) ≤ 2 ^ (53 + x.exponent) := by
      rw [zpow_add₀ two_ne_zero]
      norm_num at hlow hscaled ⊢
      linarith
    have := (zpow_le_zpow_iff_right₀ one_lt_two).1 hle
    omega
  · have hscaled := mul_le_mul_of_nonneg_right (le_two_mul_significand hx) hunit.le
    have hlt : (2 : ℚ) ^ (51 + x.exponent) < 2 ^ (100 : Int) := by
      rw [zpow_add₀ two_ne_zero]
      norm_num at hhigh hscaled ⊢
      linarith
    have := (zpow_lt_zpow_iff_right₀ one_lt_two).1 hlt
    omega

/-- The power of ten that is tried first is above the double, and the last one below its spacing. -/
theorem topPower_table (i : Nat) (hi : i < 400) :
    let top : Int := ((i : Int) - 147) * 30103 / 100000 + 1
    2 ^ (i + 100) * 10 ^ 100 < 10 ^ (top + 100).toNat * 2 ^ 247 ∧
      4 * 10 ^ (top + 80).toNat * 2 ^ 247 < 3 * 2 ^ (i + 47) * 10 ^ 100 := by
  revert i
  decide +kernel

/-- Few enough digits tell a number from every other point of its grid. -/
theorem eq_of_holds {x : Binary64} {k c : Nat} {power : Int} (hx : x.IsNormal) (hc : c < leadingBit)
    (hholds : x.neighbourhood.Holds (k * 10 ^ power)) (hholds' : x.neighbourhood.Holds (c * 10 ^ power)) :
    k = c := by
  obtain ⟨hlow, hhigh⟩ := bounds_of_holds hholds
  obtain ⟨hlow', hhigh'⟩ := bounds_of_holds hholds'
  have hunit : (0 : ℚ) < 2 ^ x.exponent := by positivity
  have hgrid : (0 : ℚ) < 10 ^ power := by positivity
  by_contra hne
  -- Two points of the grid are in the neighbourhood, so the grid is no coarser than it is wide.
  have hfine : (10 : ℚ) ^ power ≤ 2 ^ x.exponent := by
    rcases Nat.lt_or_gt_of_ne hne with hlt | hgt
    · have hstep : (k + 1 : ℚ) * 10 ^ power ≤ c * 10 ^ power :=
        mul_le_mul_of_nonneg_right (by exact_mod_cast hlt) hgrid.le
      linarith
    · have hstep : (c + 1 : ℚ) * 10 ^ power ≤ k * 10 ^ power :=
        mul_le_mul_of_nonneg_right (by exact_mod_cast hgt) hgrid.le
      linarith
  -- Then the number would be larger in units of the grid than the significand is.
  have hlarge : (2 * x.significand - 1 : ℚ) * 2 ^ x.exponent ≤ 2 * c * 2 ^ x.exponent :=
    calc (2 * x.significand - 1 : ℚ) * 2 ^ x.exponent ≤ 2 * (c * 10 ^ power) := hlow'
      _ = 2 * c * 10 ^ power := (mul_assoc _ _ _).symm
      _ ≤ 2 * c * 2 ^ x.exponent := mul_le_mul_of_nonneg_left hfine (by positivity)
  have hle : (2 * x.significand : ℚ) ≤ 2 * c + 1 := by
    have := le_of_mul_le_mul_right hlarge hunit
    linarith
  have hle : 2 * x.significand ≤ 2 * c + 1 := by exact_mod_cast hle
  have hfull := hx.full
  omega

/-! ### The search -/

/-- A grid finer than the neighbourhood is wide has a point that reads back. -/
theorem exists_marks {x : Binary64} {power : Int} {quarters : Nat}
    (hwide : x.neighbourhood.low + quarters ≤ x.neighbourhood.high)
    (hfine : (4 * 10 ^ power : ℚ) < quarters * 2 ^ x.exponent) : ∃ k, x.neighbourhood.Marks power k := by
  have hgrid : (0 : ℚ) < 10 ^ power := by positivity
  have hunit : (0 : ℚ) < 2 ^ x.neighbourhood.exponent := by positivity
  have hquarter : (quarters * 2 ^ x.exponent : ℚ) = 4 * (quarters * 2 ^ x.neighbourhood.exponent) := by
    rw [neighbourhood, zpow_sub₀ two_ne_zero]
    ring
  have hwide : (x.neighbourhood.low + quarters : ℚ) * 2 ^ x.neighbourhood.exponent ≤
      x.neighbourhood.high * 2 ^ x.neighbourhood.exponent :=
    mul_le_mul_of_nonneg_right (by exact_mod_cast hwide) hunit.le
  rw [hquarter] at hfine
  -- The first point of the grid above the lower end.
  obtain ⟨k, habove, hbelow⟩ : ∃ k : Nat,
      (k * 10 ^ power : ℚ) ≤ x.neighbourhood.low * 2 ^ x.neighbourhood.exponent ∧
        (x.neighbourhood.low * 2 ^ x.neighbourhood.exponent : ℚ) < (k + 1 : ℕ) * 10 ^ power := by
    refine ⟨⌊(x.neighbourhood.low * 2 ^ x.neighbourhood.exponent / 10 ^ power : ℚ)⌋₊, ?_, ?_⟩
    · rw [← le_div_iff₀ hgrid]
      exact Nat.floor_le (by positivity)
    · rw [← div_lt_iff₀ hgrid]
      exact_mod_cast Nat.lt_floor_add_one _
  have hinside : ((k + 1 : ℕ) : ℚ) * 10 ^ power < x.neighbourhood.high * 2 ^ x.neighbourhood.exponent := by
    push_cast
    linarith
  refine ⟨k + 1, Nat.succ_pos k, ?_⟩
  unfold Neighbourhood.Holds
  split
  · exact ⟨hbelow.le, hinside.le⟩
  · exact ⟨hbelow, hinside⟩

/-- A grid coarser than the double has none. -/
theorem not_marks {x : Binary64} {power : Int} {k : Nat} (hx : x.IsNormal)
    (hcoarse : (2 : ℚ) ^ (x.exponent + 53) < 10 ^ power) : ¬x.neighbourhood.Marks power k := by
  rintro ⟨hk, hholds⟩
  have hunit : (0 : ℚ) < 2 ^ x.exponent := by positivity
  have hone : (1 : ℚ) * 10 ^ power ≤ k * 10 ^ power :=
    mul_le_mul_of_nonneg_right (by exact_mod_cast hk) (by positivity)
  have hscaled := mul_le_mul_of_nonneg_right (two_mul_significand_le hx) hunit.le
  have hhigh := (bounds_of_holds hholds).2
  rw [zpow_add₀ two_ne_zero] at hcoarse
  norm_num at hcoarse hscaled
  linarith

theorem topPower_eq {x : Binary64} (hx : x.IsNormal) :
    x.topPower = (x.exponent + 53) * 30103 / 100000 + 1 := by
  have hlog : Nat.log2 x.significand = 52 := by
    have hfull := hx.full
    have hfits := hx.fits
    exact (Nat.log2_eq_iff (by unfold leadingBit at hfull; omega)).2 ⟨hfull, hfits⟩
  rw [topPower, hlog]
  congr 3
  omega

/-- The power that is tried first is too coarse, and the one that is tried last is fine enough. -/
theorem topPower_bounds {x : Binary64} (hx : x.IsNormal) (hlow : -200 ≤ x.exponent)
    (hhigh : x.exponent < 200) :
    (2 : ℚ) ^ (x.exponent + 53) < 10 ^ x.topPower ∧
      (4 * 10 ^ (x.topPower - 20) : ℚ) < 3 * 2 ^ x.exponent := by
  obtain ⟨i, hi⟩ := Int.eq_ofNat_of_zero_le (show 0 ≤ x.exponent + 200 by omega)
  obtain ⟨htop, hbottom⟩ := topPower_table i (by omega)
  have hexponent : x.exponent + 53 = (i : Int) - 147 := by omega
  rw [topPower_eq hx, hexponent]
  generalize hpower : ((i : Int) - 147) * 30103 / 100000 + 1 = top at htop hbottom ⊢
  obtain ⟨n, hn⟩ := Int.eq_ofNat_of_zero_le (show 0 ≤ top + 80 by omega)
  rw [show (top + 100).toNat = n + 20 by omega] at htop
  rw [show (top + 80).toNat = n by omega] at hbottom
  constructor
  · rw [show (i : Int) - 147 = (i + 100 : ℕ) - (247 : ℕ) by omega, show top = (n + 20 : ℕ) - (100 : ℕ) by omega,
      zpow_sub₀ two_ne_zero, zpow_sub₀ (by norm_num), zpow_natCast, zpow_natCast, zpow_natCast, zpow_natCast,
      div_lt_div_iff₀ (by positivity) (by positivity)]
    exact_mod_cast htop
  · rw [show top - 20 = (n : Int) - (100 : ℕ) by omega, show x.exponent = (i + 47 : ℕ) - (247 : ℕ) by omega,
      zpow_sub₀ two_ne_zero, zpow_sub₀ (by norm_num), zpow_natCast, zpow_natCast, zpow_natCast, zpow_natCast,
      ← mul_div_assoc, ← mul_div_assoc, div_lt_div_iff₀ (by positivity) (by positivity)]
    exact_mod_cast hbottom

theorem isZero_eq_false {x : Binary64} (hx : x.IsNormal) : x.isZero = false := by
  rw [isZero, beq_eq_false_iff_ne]
  exact Nat.ne_of_gt (Nat.lt_of_lt_of_le (by decide) hx.full)

/-- The shortest text is found on the first of the grids that has something. -/
theorem shortest_of_search {x : Binary64} {k : Nat} {power : Int} (hx : x.IsNormal)
    (h : ((List.range 21).findSome? fun (i : Nat) =>
      (gridPoint? x.neighbourhood (x.topPower - i)).map fun k => (k, x.topPower - i)) = some (k, power)) :
    x.shortest = (k, power) := by
  rw [shortest, isZero_eq_false hx, if_neg (by decide)]
  show (((List.range 21).map fun (i : Nat) => x.topPower - i).findSome? fun p =>
    (gridPoint? x.neighbourhood p).map fun k => (k, p)).getD (0, 0) = (k, power)
  rw [List.findSome?_map]
  exact congrArg (Option.getD · (0, 0)) h

/-- **The shortest text is the first point found from coarse to fine**, and there is one. -/
theorem exists_shortest {x : Binary64} (hx : x.IsNormal) (hlow : -200 ≤ x.exponent)
    (hhigh : x.exponent < 200) :
    ∃ k power, x.shortest = (k, power) ∧ x.neighbourhood.Marks power k ∧
      ∀ coarser > power, ∀ other, ¬x.neighbourhood.Marks coarser other := by
  obtain ⟨htop, hbottom⟩ := topPower_bounds hx hlow hhigh
  have hcentre := neighbourhood_centre hx
  cases hfound : (List.range 21).findSome? fun (i : Nat) =>
      (gridPoint? x.neighbourhood (x.topPower - i)).map fun k => (k, x.topPower - i) with
  | none =>
      -- The finest of the grids has a point, so this does not happen.
      obtain ⟨k, hk⟩ := exists_marks (neighbourhood_wide hx).1 (by exact_mod_cast hbottom)
      obtain ⟨point, hpoint⟩ := exists_gridPoint? hcentre hk
      have hlast := List.findSome?_eq_none_iff.1 hfound 20 (List.mem_range.2 (by decide))
      simp only [Nat.cast_ofNat, hpoint, Option.map_some] at hlast
      cases hlast
  | some found =>
      obtain ⟨k, power⟩ := found
      obtain ⟨i, -, hi, hnone⟩ := exists_of_findSome?_range hfound
      obtain ⟨point, hpoint, heq⟩ := Option.map_eq_some_iff.1 hi
      cases heq
      refine ⟨k, _, shortest_of_search hx hfound, marks_of_gridPoint? hpoint, ?_⟩
      intro coarser hcoarser other hother
      rcases Int.lt_or_le x.topPower coarser with habove | hwithin
      · refine not_marks hx (htop.trans ?_) hother
        exact (zpow_lt_zpow_iff_right₀ (by norm_num)).2 habove
      · obtain ⟨j, hj⟩ := Int.eq_ofNat_of_zero_le (show 0 ≤ x.topPower - coarser by omega)
        obtain ⟨found, hfound⟩ := exists_gridPoint? hcentre hother
        have hskipped := hnone j (by omega)
        rw [show x.topPower - (j : Int) = coarser by omega, hfound] at hskipped
        cases hskipped

/-- A point of a coarser grid is one of a finer grid. -/
theorem mul_zpow_add (k zeros : Nat) (power : Int) :
    (k * 10 ^ (power + zeros) : ℚ) = (k * 10 ^ zeros : Nat) * 10 ^ power := by
  rw [zpow_add₀ (by norm_num), zpow_natCast]
  push_cast
  ring

/-- **A number with few digits is the shortest text of the double that it rounds to.** -/
theorem shortest_eq {x : Binary64} {c : Nat} {power : Int} (hx : x.IsNormal) (hlow : -200 ≤ x.exponent)
    (hhigh : x.exponent < 200) (hc : c < leadingBit) (hlast : c % 10 ≠ 0)
    (hholds : x.neighbourhood.Holds (c * 10 ^ power)) : x.shortest = (c, power) := by
  obtain ⟨k, found, hshortest, ⟨hk, hfound⟩, hnone⟩ := exists_shortest hx hlow hhigh
  have hle : power ≤ found := by
    by_contra hgt
    exact hnone power (by omega) c ⟨by omega, hholds⟩
  obtain ⟨zeros, rfl⟩ := Int.le.dest hle
  rw [mul_zpow_add] at hfound
  have heq := eq_of_holds hx hc hfound hholds
  cases zeros with
  | zero =>
      rw [Nat.pow_zero, Nat.mul_one] at heq
      rw [hshortest, heq]
      simp
  | succ zeros =>
      -- Had a coarser grid a point, the number would end in a zero.
      refine absurd ?_ hlast
      rw [← heq, Nat.pow_succ, ← Nat.mul_assoc, Nat.mul_mod_left]

/-- **No shortest text has more than seventeen digits.** -/
theorem lt_of_shortest {x : Binary64} {k : Nat} {power : Int} (hx : x.IsNormal)
    (hlow : -200 ≤ x.exponent) (hhigh : x.exponent < 200) (h : x.shortest = (k, power)) :
    k < 10 ^ 17 := by
  obtain ⟨point, found, hshortest, ⟨-, hholds⟩, hnone⟩ := exists_shortest hx hlow hhigh
  cases h.symm.trans hshortest
  have hgrid : (0 : ℚ) < 10 ^ power := by positivity
  have hunit : (0 : ℚ) < 2 ^ x.exponent := by positivity
  have hnext : (10 : ℚ) ^ (power + 1) = 10 * 10 ^ power := by
    rw [zpow_add_one₀ (by norm_num), mul_comm]
  have hupper := (bounds_of_holds hholds).2
  obtain ⟨hthree, hfour⟩ := neighbourhood_wide hx
  -- The next coarser grid has no point, so it is coarser than the neighbourhood is wide.
  have hcoarse {quarters : Nat} (hwide : x.neighbourhood.low + quarters ≤ x.neighbourhood.high) :
      (quarters * 2 ^ x.exponent : ℚ) ≤ 40 * 10 ^ power := by
    by_contra hfine
    have hwider : (4 * 10 ^ (power + 1) : ℚ) < quarters * 2 ^ x.exponent := by
      rw [hnext]
      linarith
    obtain ⟨other, hother⟩ := exists_marks hwide hwider
    exact hnone (power + 1) (by omega) other hother
  have hlt : (k : ℚ) * 10 ^ power < 10 ^ 17 * 10 ^ power := by
    rcases Nat.eq_or_lt_of_le hx.full with hleast | hlarger
    · have hwidth := hcoarse hthree
      rw [← hleast] at hupper
      norm_num [leadingBit] at hupper hwidth ⊢
      linarith
    · have hwidth := hcoarse (hfour hlarger)
      have hscaled := mul_le_mul_of_nonneg_right (two_mul_significand_le hx) hunit.le
      norm_num at hwidth hscaled ⊢
      linarith
  exact_mod_cast lt_of_mul_lt_mul_right hlt hgrid.le

end Cashbook.Binary64
