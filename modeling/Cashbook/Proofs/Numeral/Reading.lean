/-
What a plain numeral is read as.

A numeral without a point is taken as a whole number of so many bits, and one with a point
as the double nearest to it, whose shortest text is then read as a decimal.  The detour over
the double does no harm as long as there are few enough significant digits: then the shortest
text is the numeral itself.  With more than seventeen it always does, since no shortest text
has so many.
-/
import Cashbook.Proofs.Binary64.Shortest
import Cashbook.Proofs.Numeral.Plain

namespace Cashbook

open Cashbook.Text

attribute [local instance (high)] instPowNat instNatPowNat Int.instNatPow

namespace Numeral.Plain

variable {n : Plain}

/-! ### The double of a numeral with a point -/

/-- A number that a decimal can hold is neither too large for a double nor too small. -/
theorem nearest?_numeral (hplaces : n.places ≠ []) (hne : n.coefficient ≠ 0)
    (hsmall : 10 ^ n.places.length ≤ n.coefficient * 10 ^ 28)
    (hlarge : n.coefficient < Decimal.limit * 10 ^ n.places.length) :
    n.numeral.nearest? = Binary64.nearest? n.coefficient (10 ^ n.places.length) := by
  rw [coefficient_eq] at hne hsmall hlarge ⊢
  have hlt := n.digits_lt
  rcases n.digits_eq with hnil | ⟨d, rest, hdigits, hd⟩
  · rw [hnil] at hne
    exact absurd rfl hne
  · rw [hdigits] at hsmall hlarge hlt ⊢
    have hlower := le_ofDigits_cons hd rest
    have hupper := ofDigits_lt hlt
    have hlong : rest.length < 29 + n.places.length := by
      refine (Nat.pow_lt_pow_iff_right (by decide)).1 (hlower.trans_lt (hlarge.trans_le ?_))
      rw [Nat.pow_add]
      exact Nat.mul_le_mul_right _ (by decide)
    have hshort : n.places.length < rest.length + 1 + 28 := by
      refine (Nat.pow_lt_pow_iff_right (by decide)).1 (hsmall.trans_lt ?_)
      rw [Nat.pow_add]
      exact Nat.mul_lt_mul_of_pos_right hupper (by decide)
    have hpoint := List.length_pos_iff.2 hplaces
    simp only [Numeral.nearest?, numeral, Option.getD_none, hdigits]
    rw [List.length_cons, List.isEmpty_cons, if_neg (by decide), if_neg (by omega), if_neg (by omega),
      if_neg (by omega), Int.zero_sub, Int.neg_neg, Int.toNat_natCast]

/-- Zero has no digits but zeros. -/
theorem digits_eq_nil (hzero : n.coefficient = 0) : (n.whole ++ n.places).dropWhile (· == 0) = [] := by
  rw [coefficient_eq] at hzero
  rcases n.digits_eq with hnil | ⟨d, rest, hdigits, hd⟩
  · exact hnil
  · rw [hdigits] at hzero
    have hlower := le_ofDigits_cons hd rest
    have hpos : 0 < 10 ^ rest.length := Nat.pow_pos (by decide)
    omega

/-- The double that a numeral with a point is taken as is within a wide range. -/
theorem exists_double (h : n.Fits) (hplaces : n.places ≠ []) (hne : n.coefficient ≠ 0) :
    ∃ x : Binary64, n.numeral.nearest? = some x ∧ x.IsNormal ∧ -200 ≤ x.exponent ∧ x.exponent < 200 ∧
      x.neighbourhood.Holds (n.coefficient / 10 ^ n.places.length) := by
  obtain ⟨hsmall, hlarge⟩ := bounds_of_fits h hne
  have hnearest := nearest?_numeral hplaces hne hsmall hlarge
  have hpos : 0 < 10 ^ n.places.length := Nat.pow_pos (by decide)
  have hcast : ((10 ^ n.places.length : ℕ) : ℚ) = 10 ^ n.places.length := by push_cast; rfl
  have hlow : (2 : ℚ) ^ (-100 : Int) ≤ n.coefficient / 10 ^ n.places.length := by
    have hle : (1 / 10 ^ 28 : ℚ) ≤ n.coefficient / 10 ^ n.places.length := by
      rw [div_le_div_iff₀ (by positivity) (by positivity), one_mul]
      exact_mod_cast hsmall
    refine le_trans ?_ hle
    norm_num
  have hhigh : (n.coefficient / 10 ^ n.places.length : ℚ) < 2 ^ (100 : Int) := by
    have hlt : (n.coefficient / 10 ^ n.places.length : ℚ) < 2 ^ 96 := by
      rw [div_lt_iff₀ (by positivity)]
      exact_mod_cast hlarge
    refine hlt.trans ?_
    norm_num
  rw [← hcast] at hlow hhigh ⊢
  have hleast := le_trans (zpow_le_zpow_right₀ (by norm_num) (by decide : (-1022 : Int) ≤ -100)) hlow
  have hmost := hhigh.trans (zpow_lt_zpow_right₀ (by norm_num) (by decide : (100 : Int) < 1000))
  obtain ⟨x, hx⟩ := Binary64.exists_nearest? (Nat.pos_of_ne_zero hne) hpos hleast hmost
  obtain ⟨hnormal, hholds⟩ := Binary64.nearest?_eq_some (Nat.pos_of_ne_zero hne) hpos hleast hx
  obtain ⟨hbelow, habove⟩ := Binary64.exponent_bounds hnormal hholds hlow hhigh
  exact ⟨x, hnearest.trans hx, hnormal, hbelow, habove, hholds⟩

/-! ### Whole numbers -/

theorem isWhole_numeral (hplaces : n.places = []) : n.numeral.isWhole = true := by
  rw [isWhole, numeral, hplaces]
  rfl

theorem coefficient_of_whole (hplaces : n.places = []) : n.coefficient = ofDigits 10 n.whole := by
  rw [coefficient, hplaces, List.append_nil]

/-- A whole number is taken as one of sixty-four bits, and refused where it takes up to twice as many. -/
theorem ofNumeral_whole {amount : Decimal} (hplaces : n.places = []) (hlarge : n.signed.natAbs < 2 ^ 127)
    (hint : Decimal.ofInt? n.signed = some amount) :
    Csv.ofNumeral n.numeral =
      if -2 ^ 63 ≤ n.signed ∧ n.signed < 2 ^ 64 then .ok amount
      else .error (.notDecimal (.wide n.signed)) := by
  rw [Csv.ofNumeral]
  simp only [isWhole_numeral hplaces, Bool.true_eq_false, if_false]
  show (if n.sign.isMinus then _ else _) = _
  cases hsign : n.sign.isMinus with
  | true =>
      have hsigned : -(ofDigits 10 n.numeral.whole : Int) = n.signed := by
        rw [signed, coefficient_of_whole hplaces, hsign]
        rfl
      rw [if_pos rfl, hsigned, hint]
      unfold wordLimit
      by_cases hword : -2 ^ 63 ≤ n.signed ∧ n.signed < 2 ^ 64
      · rw [if_pos hword, if_pos (by omega)]
      · rw [if_neg hword, if_neg (by omega), if_pos (by omega)]
  | false =>
      have hsigned : (ofDigits 10 n.numeral.whole : Int) = n.signed := by
        rw [signed, coefficient_of_whole hplaces, hsign]
        rfl
      rw [if_neg (by decide), hsigned, hint]
      unfold wordLimit
      by_cases hword : -2 ^ 63 ≤ n.signed ∧ n.signed < 2 ^ 64
      · rw [if_pos hword, if_pos (by omega)]
      · rw [if_neg hword, if_neg (by omega), if_pos (by omega)]

/-- **A whole number of sixty-four bits is read exactly.** -/
theorem exists_read_whole (hplaces : n.places = []) (hlow : -2 ^ 63 ≤ n.signed) (hhigh : n.signed < 2 ^ 64) :
    ∃ amount, Csv.ofNumeral n.numeral = .ok amount ∧ amount.value = n.value := by
  have habs : n.signed.natAbs < Decimal.limit := by
    unfold Decimal.limit
    omega
  have hint : Decimal.ofInt? n.signed = some ⟨n.signed, 0, habs, by decide⟩ := dif_pos ⟨habs, by decide⟩
  refine ⟨⟨n.signed, 0, habs, by decide⟩, ?_, by rw [Decimal.value, value, hplaces]; rfl⟩
  rw [ofNumeral_whole hplaces (habs.trans (by decide)) hint, if_pos ⟨hlow, hhigh⟩]

/-- **A whole number that takes more is not read**, although a decimal can hold it. -/
theorem read_wide (h : n.Fits) (hplaces : n.places = []) (hwide : ¬(-2 ^ 63 ≤ n.signed ∧ n.signed < 2 ^ 64)) :
    Csv.ofNumeral n.numeral = .error (.notDecimal (.wide n.signed)) := by
  have habs : n.signed.natAbs < Decimal.limit := by
    rw [signed, Decimal.natAbs_signed]
    by_cases hne : n.coefficient = 0
    · rw [hne]
      decide
    · have hlt := (bounds_of_fits h hne).2
      rwa [hplaces, List.length_nil, Nat.pow_zero, Nat.mul_one] at hlt
  have hint : Decimal.ofInt? n.signed = some ⟨n.signed, 0, habs, by decide⟩ := dif_pos ⟨habs, by decide⟩
  rw [ofNumeral_whole hplaces (habs.trans (by decide)) hint, if_neg hwide]

/-! ### Reading it -/

theorem value_eq (n : Plain) :
    n.value = factor n.sign.isMinus * (n.coefficient / 10 ^ n.places.length) := by
  rw [value, signed, cast_signed, mul_div_assoc]

/-- The significant digits stand where the last of them does. -/
theorem coefficient_div_eq {zeros : Nat} (hsplit : n.coefficient = n.significand * 10 ^ zeros) :
    (n.coefficient / 10 ^ n.places.length : ℚ) =
      n.significand * 10 ^ ((zeros : Int) - n.places.length) := by
  rw [hsplit, zpow_sub₀ (by norm_num), zpow_natCast, zpow_natCast]
  push_cast
  ring

theorem ofNumeral_of_nearest? {x : Binary64} (hplaces : n.places ≠ []) (hx : n.numeral.nearest? = some x) :
    Csv.ofNumeral n.numeral = Csv.ofFloat n.sign.isMinus x := by
  have hempty : n.numeral.isWhole = false :=
    Bool.and_eq_false_iff.2 (.inl (List.isEmpty_eq_false_iff.2 hplaces))
  simp only [Csv.ofNumeral, hempty, hx, if_true]
  rfl

/-- The double that a numeral with a point is taken as, and its shortest text. -/
structure Detour (n : Plain) (x : Binary64) (k : Nat) (power : Int) : Prop where
  nearest : n.numeral.nearest? = some x
  normal : x.IsNormal
  low : -200 ≤ x.exponent
  high : x.exponent < 200
  holds : x.neighbourhood.Holds (n.coefficient / 10 ^ n.places.length)
  shortest : x.shortest = (k, power)
  shown : x.neighbourhood.Holds (k * 10 ^ power)
  /-- The text has no more places than the numeral has significant ones. -/
  places : ∀ zeros : Nat, n.coefficient = n.significand * 10 ^ zeros → n.significand % 10 ≠ 0 →
    (zeros : Int) - n.places.length ≤ power

theorem exists_detour (h : n.Fits) (hplaces : n.places ≠ []) (hne : n.coefficient ≠ 0) :
    ∃ x k power, n.Detour x k power := by
  obtain ⟨x, hx, hnormal, hlow, hhigh, hholds⟩ := exists_double h hplaces hne
  obtain ⟨k, power, hshortest, hmarks, hnone⟩ := Binary64.exists_shortest hnormal hlow hhigh
  refine ⟨x, k, power, ⟨hx, hnormal, hlow, hhigh, hholds, hshortest, hmarks.2, ?_⟩⟩
  intro zeros hsplit hlast
  rw [coefficient_div_eq hsplit] at hholds
  by_contra hfiner
  exact hnone _ (Int.lt_of_not_ge hfiner) _ ⟨Nat.pos_of_ne_zero fun hzero => hlast (by rw [hzero]), hholds⟩

namespace Detour

variable {x : Binary64} {k : Nat} {power : Int}

theorem scale (d : n.Detour x k power) (h : n.Fits) (hne : n.coefficient ≠ 0) : -28 ≤ power := by
  obtain ⟨zeros, hsplit, hlast⟩ := exists_significand hne
  have hle := places_le h hsplit hlast
  have hpower := d.places zeros hsplit hlast
  omega

/-- What is read is what the shortest text denotes. -/
theorem value_eq (d : n.Detour x k power) (h : n.Fits) (hplaces : n.places ≠ []) (hne : n.coefficient ≠ 0)
    {amount : Decimal} (hread : Csv.ofNumeral n.numeral = .ok amount) :
    amount.value = factor n.sign.isMinus * (k * 10 ^ power) := by
  rw [ofNumeral_of_nearest? hplaces d.nearest] at hread
  have hk := Binary64.lt_of_shortest d.normal d.low d.high d.shortest
  exact Binary64.value_of_ofFloat d.shortest (d.scale h hne) (hk.trans (by decide)) hread

end Detour

/-- Zero is read as zero, however it is written. -/
theorem exists_read_zero (hplaces : n.places ≠ []) (hzero : n.coefficient = 0) :
    ∃ amount, Csv.ofNumeral n.numeral = .ok amount ∧ amount.value = n.value := by
  have hnearest : n.numeral.nearest? = some .zero := by
    rw [Numeral.nearest?]
    exact if_pos (List.isEmpty_iff.2 (digits_eq_nil hzero))
  obtain ⟨amount, hread, hvalue⟩ := Binary64.exists_ofFloat n.sign.isMinus
    (rfl : Binary64.zero.shortest = (0, 0)) (by decide) (by decide)
  refine ⟨amount, (ofNumeral_of_nearest? hplaces hnearest).trans hread, ?_⟩
  rw [hvalue, Plain.value_eq, hzero]
  simp

/-- **A numeral with a point and few significant digits is read exactly.** -/
theorem exists_read (h : n.Fits) (hplaces : n.places ≠ []) (hfew : n.significand < 2 ^ 52) :
    ∃ amount, Csv.ofNumeral n.numeral = .ok amount ∧ amount.value = n.value := by
  by_cases hne : n.coefficient = 0
  · exact exists_read_zero hplaces hne
  · obtain ⟨x, k, power, d⟩ := exists_detour h hplaces hne
    obtain ⟨zeros, hsplit, hlast⟩ := exists_significand hne
    have hholds := d.holds
    rw [coefficient_div_eq hsplit] at hholds
    cases d.shortest.symm.trans (Binary64.shortest_eq d.normal d.low d.high hfew hlast hholds)
    have hlimit : n.significand * 10 ^ ((zeros : Int) - n.places.length).toNat < Decimal.limit := by
      rcases Nat.le_total n.places.length zeros with hle | hle
      · obtain ⟨more, rfl⟩ := Nat.exists_eq_add_of_le hle
        have hlarge := (bounds_of_fits h hne).2
        rw [hsplit, Nat.add_comm, Nat.pow_add, ← Nat.mul_assoc] at hlarge
        rw [show ((n.places.length + more : ℕ) : Int) - n.places.length = more by omega, Int.toNat_natCast]
        exact Nat.lt_of_mul_lt_mul_right hlarge
      · rw [Int.toNat_of_nonpos (by omega), Nat.pow_zero, Nat.mul_one]
        exact hfew.trans (by decide)
    obtain ⟨amount, hread, hvalue⟩ :=
      Binary64.exists_ofFloat n.sign.isMinus d.shortest (d.scale h hne) hlimit
    refine ⟨amount, (ofNumeral_of_nearest? hplaces d.nearest).trans hread, ?_⟩
    rw [hvalue, Plain.value_eq, coefficient_div_eq hsplit]

theorem coefficient_ne_zero (h : n.significand ≠ 0) : n.coefficient ≠ 0 := by
  intro hzero
  rw [significand, stripWith, digits_eq_nil hzero] at h
  exact h rfl

/-- **A numeral with a point and more than seventeen significant digits is never read exactly.** -/
theorem value_ne_of_read (h : n.Fits) (hplaces : n.places ≠ []) (hmany : 10 ^ 17 ≤ n.significand)
    {amount : Decimal} (hread : Csv.ofNumeral n.numeral = .ok amount) : amount.value ≠ n.value := by
  have hne : n.coefficient ≠ 0 := coefficient_ne_zero (by omega)
  obtain ⟨x, k, power, d⟩ := exists_detour h hplaces hne
  obtain ⟨zeros, hsplit, hlast⟩ := exists_significand hne
  have hk := Binary64.lt_of_shortest d.normal d.low d.high d.shortest
  rw [d.value_eq h hplaces hne hread, Plain.value_eq, coefficient_div_eq hsplit]
  intro heq
  have heq := mul_left_cancel₀ (factor_ne_zero _) heq
  obtain ⟨more, rfl⟩ := Int.le.dest (d.places zeros hsplit hlast)
  rw [Binary64.mul_zpow_add] at heq
  have hsame : k * 10 ^ more = n.significand := by
    exact_mod_cast mul_right_cancel₀ (zpow_ne_zero _ (by norm_num)) heq
  cases more with
  | zero => omega
  | succ more =>
      rw [← hsame, Nat.pow_succ, ← Nat.mul_assoc, Nat.mul_mod_left] at hlast
      exact hlast rfl

/-- **Whatever is read of a numeral with a point is off by less than one part in `2 ^ 51`.** -/
theorem dist_of_read (h : n.Fits) (hplaces : n.places ≠ []) {amount : Decimal}
    (hread : Csv.ofNumeral n.numeral = .ok amount) :
    2 ^ 51 * |amount.value - n.value| ≤ |n.value| := by
  by_cases hne : n.coefficient = 0
  · obtain ⟨same, hsame, hvalue⟩ := exists_read_zero hplaces hne
    cases hread.symm.trans hsame
    rw [hvalue, sub_self, abs_zero, mul_zero]
    exact abs_nonneg _
  · obtain ⟨x, k, power, d⟩ := exists_detour h hplaces hne
    have hdist := Binary64.dist_of_holds d.normal d.holds d.shown
    rw [d.value_eq h hplaces hne hread, Plain.value_eq, ← mul_sub, abs_mul, abs_mul, abs_factor, one_mul,
      one_mul]
    exact hdist.trans (le_abs_self _)

end Numeral.Plain

end Cashbook
