/-
The order of balances under rounding.

A sum that no decimal denotes is rounded, and what it is rounded to may have fewer places than
either of its terms.  The order does not suffer from that, because rounding is faithful: no
decimal lies strictly between a number and what it comes to.

For the decimals on the grid that the result lies on, this holds because the nearest point is
taken.  All others have more places, and they are out of the way: a place is given up only where
the coefficient would be `limit` less a half or more, which is beyond every coefficient with that
many places, and the next point of the coarser grid, at `limit + 4`, is nearer than the one
before.  The balance from before a change is itself a decimal, so a credit cannot take it down
and a debit cannot take it up.
-/
import Cashbook.Proofs.Ledger.Conservation

namespace Cashbook

attribute [local instance (high)] instPowNat instNatPowNat Int.instNatPow

namespace Decimal

variable {value n : Int} {scale : Nat} {a b c d e : Decimal}

/-! ### Giving up places -/

/--
What is known of the decimal that a number comes to when it is too long: it lost a place with
which it would have been out of range, and it lies within half a unit of the places it has left.
-/
structure Shortened (n : Int) (e : Decimal) : Prop where
  scale_lt : e.scale < 28
  too_long : (2 * limit - 1) * 10 ^ (27 - e.scale) ≤ 2 * n
  le_near : 2 * n ≤ 2 * e.units + 10 ^ (28 - e.scale)
  near_le : 2 * e.units ≤ 2 * n + 10 ^ (28 - e.scale)

theorem roundedShift_near (h : 0 ≤ value) (places : Nat) :
    2 * value ≤ 2 * (roundedShift value places * 10 ^ places) + 10 ^ places ∧
      2 * (roundedShift value places * 10 ^ places) ≤ 2 * value + 10 ^ places := by
  obtain ⟨k, rfl⟩ := Int.eq_ofNat_of_zero_le h
  have hshift : roundedShift k places = (roundHalfEven k (10 ^ places) : Nat) := by
    rw [← Int.natAbs_of_nonneg (roundedShift_nonneg h places), natAbs_roundedShift, Int.natAbs_natCast]
  have hnear := roundHalfEven_near k (d := 10 ^ places) (Nat.pow_pos (by decide))
  rw [hshift]
  exact_mod_cast hnear

/-- A number is kept exactly unless it is too long. -/
theorem units_of_fit (h : fit value scale = some e) (hs : scale ≤ 28) (hvalue : 0 ≤ value) :
    e.units = value * 10 ^ (28 - scale) ∨ Shortened (value * 10 ^ (28 - scale)) e := by
  obtain ⟨dropped, hle, he, hfirst⟩ := exists_of_fit h
  obtain ⟨hcoefficient, hscale⟩ := coefficient_of_ofParts? he
  cases dropped with
  | zero =>
      rw [roundedShift_zero, Nat.sub_zero] at he
      exact Or.inl (units_of_ofParts? he)
  | succ dropped =>
      right
      -- Everything is counted in units of the scale at which the number was to be fitted.
      have hunit : (10 : Int) ^ (28 - e.scale) = 10 ^ (dropped + 1) * 10 ^ (28 - scale) := by
        rw [← Int.pow_add]
        congr 1
        omega
      have htenth : (10 : Int) ^ (27 - e.scale) = 10 ^ dropped * 10 ^ (28 - scale) := by
        rw [← Int.pow_add]
        congr 1
        omega
      have hpos : (0 : Int) ≤ 10 ^ (28 - scale) := Int.pow_nonneg (by decide)
      have hunits : e.units =
          roundedShift value (dropped + 1) * 10 ^ (dropped + 1) * 10 ^ (28 - scale) := by
        rw [units, hunit, hcoefficient, Int.mul_assoc]
      have hlong : (2 * limit - 1) * 10 ^ dropped ≤ 2 * value := by
        have hnone := (ofParts?_roundedShift_eq_none_iff (by omega)).1 (hfirst dropped (by omega))
        have hcast : (2 : Int) * (limit * 10 ^ dropped) ≤ 2 * value.natAbs + 10 ^ dropped := by
          exact_mod_cast hnone
        rw [Int.natAbs_of_nonneg hvalue] at hcast
        rw [Int.sub_mul, Int.one_mul, Int.mul_assoc]
        omega
      obtain ⟨hlow, hhigh⟩ := roundedShift_near hvalue (dropped + 1)
      have hlow := Int.mul_le_mul_of_nonneg_right hlow hpos
      have hhigh := Int.mul_le_mul_of_nonneg_right hhigh hpos
      rw [Int.add_mul, Int.mul_assoc 2, Int.mul_assoc 2, ← hunits, ← hunit] at hlow hhigh
      refine ⟨by omega, ?_, hlow, hhigh⟩
      rw [htenth, ← Int.mul_assoc, ← Int.mul_assoc]
      exact Int.mul_le_mul_of_nonneg_right hlong hpos

/-! ### No decimal is passed -/

/-- Whole numbers of units that are at most half a unit the wrong way round are in order. -/
theorem le_of_mul_unit_le {j k unit : Int} (hunit : 0 < unit)
    (h : 2 * (j * unit) ≤ 2 * (k * unit) + unit) : j ≤ k := by
  have hmul : 2 * j * unit ≤ (2 * k + 1) * unit := by
    rw [Int.add_mul, Int.one_mul, Int.mul_assoc, Int.mul_assoc]
    exact h
  have := Int.le_of_mul_le_mul_right hmul hunit
  omega

/-- A decimal with no more places than another is a whole number of the units of that one. -/
theorem exists_mul_of_scale_le (h : d.scale ≤ e.scale) : ∃ k : Int, d.units = k * 10 ^ (28 - e.scale) :=
  ⟨_, (units_align h e.scale_le).symm⟩

/-- Decimals with more places end before numbers lose a place. -/
theorem units_le_of_scale_lt (h : e.scale < d.scale) : d.units ≤ (limit - 1) * 10 ^ (27 - e.scale) := by
  have hcoefficient : d.coefficient ≤ limit - 1 := by
    have := d.coefficient_lt
    omega
  have hpow : (10 : Int) ^ (28 - d.scale) ≤ 10 ^ (27 - e.scale) := by
    exact_mod_cast Nat.pow_le_pow_right (n := 10) (by decide) (by omega : 28 - d.scale ≤ 27 - e.scale)
  calc d.units ≤ (limit - 1) * 10 ^ (28 - d.scale) :=
        Int.mul_le_mul_of_nonneg_right hcoefficient (Int.pow_nonneg (by decide))
    _ ≤ (limit - 1) * 10 ^ (27 - e.scale) := Int.mul_le_mul_of_nonneg_left hpow (by decide)

namespace Shortened

/-- The next point of the coarser grid is in reach, and is beyond every coefficient. -/
theorem limit_le (h : Shortened n e) : limit - 1 ≤ e.coefficient * 10 := by
  have hunit : (10 : Int) ^ (28 - e.scale) = 10 * 10 ^ (27 - e.scale) := by
    have hscale := h.scale_lt
    rw [Int.mul_comm, ← Int.pow_succ]
    congr 1
    omega
  have hmul : (2 * limit - 1) * 10 ^ (27 - e.scale) ≤
      (2 * e.coefficient * 10 + 10) * 10 ^ (27 - e.scale) := by
    have hnear := h.le_near
    rw [units, hunit, ← Int.mul_assoc, ← Int.mul_assoc] at hnear
    rw [Int.add_mul]
    exact Int.le_trans h.too_long hnear
  have := Int.le_of_mul_le_mul_right hmul (Int.pow_pos (by decide))
  unfold limit at *
  omega

/-- What a number is rounded to is not below any decimal that the number is not below. -/
theorem units_le (h : Shortened n e) (hd : d.units ≤ n) : d.units ≤ e.units := by
  have hunit : (0 : Int) < 10 ^ (28 - e.scale) := Int.pow_pos (by decide)
  by_cases hgrid : d.scale ≤ e.scale
  · obtain ⟨k, hk⟩ := exists_mul_of_scale_le hgrid
    have hnear := h.le_near
    rw [hk] at hd ⊢
    exact Int.mul_le_mul_of_nonneg_right (le_of_mul_unit_le hunit (by rw [units] at hnear; omega))
      (Int.le_of_lt hunit)
  · calc d.units ≤ (limit - 1) * 10 ^ (27 - e.scale) := units_le_of_scale_lt (Nat.lt_of_not_le hgrid)
      _ ≤ e.coefficient * 10 * 10 ^ (27 - e.scale) :=
          Int.mul_le_mul_of_nonneg_right h.limit_le (Int.pow_nonneg (by decide))
      _ = e.units := by
          have hscale := h.scale_lt
          rw [units, Int.mul_assoc, Int.mul_comm 10, ← Int.pow_succ]
          congr 2
          omega

/-- What a number is rounded to is not above any decimal that the number is not above. -/
theorem le_units (h : Shortened n e) (hd : n ≤ d.units) : e.units ≤ d.units := by
  have hunit : (0 : Int) < 10 ^ (28 - e.scale) := Int.pow_pos (by decide)
  by_cases hgrid : d.scale ≤ e.scale
  · obtain ⟨k, hk⟩ := exists_mul_of_scale_le hgrid
    have hnear := h.near_le
    rw [hk] at hd ⊢
    exact Int.mul_le_mul_of_nonneg_right (le_of_mul_unit_le hunit (by rw [units] at hnear; omega))
      (Int.le_of_lt hunit)
  · -- A number that is too long is above all decimals that have more places.
    have hfine := units_le_of_scale_lt (Nat.lt_of_not_le hgrid)
    have hlong := h.too_long
    have hpos : (0 : Int) < 10 ^ (27 - e.scale) := Int.pow_pos (by decide)
    rw [Int.sub_mul, Int.one_mul] at hfine
    rw [Int.sub_mul, Int.one_mul, Int.mul_assoc] at hlong
    omega

end Shortened

/-- **A sum is rounded past no decimal**: one that is not above it is not above what it comes to, and
likewise from the other side. -/
theorem add?_faithful (h : a.add? b = some c) (hsum : 0 ≤ a.units + b.units) (d : Decimal) :
    (d.units ≤ a.units + b.units → d.units ≤ c.units) ∧
      (a.units + b.units ≤ d.units → c.units ≤ d.units) := by
  have hcases : c.units = a.units + b.units ∨ Shortened (a.units + b.units) c := by
    by_cases ha : a.coefficient = 0
    · have hzero : a.units = 0 := by rw [units, ha, Int.zero_mul]
      rw [add?, if_pos ha] at h
      rw [← Option.some.inj h, hzero, Int.zero_add]
      exact Or.inl rfl
    · obtain ⟨value, hadd, hvalue⟩ := add?_eq_fit (b := b) ha
      have hs : max a.scale b.scale ≤ 28 := Nat.max_le.2 ⟨a.scale_le, b.scale_le⟩
      rw [← hvalue] at hsum ⊢
      exact units_of_fit (hadd.symm.trans h) hs
        (Int.nonneg_of_mul_nonneg_left hsum (Int.pow_pos (by decide)))
  rcases hcases with hexact | hshort
  · rw [hexact]
    exact ⟨id, id⟩
  · exact ⟨hshort.units_le, hshort.le_units⟩

end Decimal

/-! ### Credits and debits -/

namespace Balance

variable {b c : Balance} {a : Amount} {failure : Failure}

/-- A balance in reach of a decimal is not credited past it. -/
theorem credit_faithful (h : b.credit a = .ok c) (d : Decimal) :
    (d.units ≤ b.units + a.units → d.units ≤ c.units) ∧
      (b.units + a.units ≤ d.units → c.units ≤ d.units) := by
  have hadd := map_value_credit? (b := b) (a := a)
  rw [credit_ok_iff.1 h, Option.map_some] at hadd
  exact Decimal.add?_faithful hadd.symm (Int.add_nonneg b.nonneg (Int.le_of_lt a.pos)) d

theorem debit_faithful (h : b.debit a = .ok c) (d : Decimal) :
    (d.units ≤ b.units - a.units → d.units ≤ c.units) ∧
      (b.units - a.units ≤ d.units → c.units ≤ d.units) := by
  obtain ⟨hcover, hc⟩ := debit_ok_iff.1 h
  have hsub := map_value_debit? hcover
  rw [hc, Option.map_some, Decimal.sub?] at hsub
  have hcovered : a.value.units ≤ b.value.units := hcover
  have hfaithful := Decimal.add?_faithful hsub.symm (by rw [Decimal.units_neg]; omega) d
  rwa [Decimal.units_neg, ← Int.sub_eq_add_neg] at hfaithful

/-- A debit is refused if it is not covered, and for no other reason. -/
theorem debit_error_iff : b.debit a = .error failure ↔
    b.value < a.value ∧ failure = .insufficientFunds a.value b.value := by
  by_cases hcover : b.Covers a
  · obtain ⟨c, hc⟩ := exists_debit_iff.2 hcover
    rw [hc]
    exact ⟨nofun, fun h => absurd h.1 (Int.not_lt.2 hcover)⟩
  · have hless : b.value < a.value := Int.not_le.1 hcover
    rw [debit, dif_neg hcover]
    exact ⟨fun h => ⟨hless, (Except.error.inj h).symm⟩, fun h => congrArg _ h.2.symm⟩

/-- A credit is refused if its sum is out of range, and for no other reason. -/
theorem credit_error_iff : b.credit a = .error failure ↔
    Decimal.OutOfRange (b.units + a.units) ∧ failure = .invalid .balanceOverflow := by
  have hadd := map_value_credit? (b := b) (a := a)
  show _ ↔ Decimal.OutOfRange (b.value.units + a.value.units) ∧ _
  rw [← Decimal.add?_eq_none_iff, ← hadd, Option.map_eq_none_iff, credit]
  cases b.credit? a with
  | none => exact ⟨fun h => ⟨rfl, (Except.error.inj h).symm⟩, fun h => congrArg _ h.2.symm⟩
  | some c => exact ⟨nofun, fun h => nomatch h.1⟩

/--
**Rounding leaves balances in order**, whatever the places of balance and amount.

  * A debit is refused if and only if the amount is greater than the balance, and then for lack of
    funds.  What it leaves is between nothing and the balance.
  * A credit is refused only for overflow, and only where the exact sum exceeds every decimal.
    What it makes is not below the balance.
-/
theorem order_safe (b : Balance) (a : Amount) :
    (∀ failure, b.debit a = .error failure ↔
      b.value < a.value ∧ failure = .insufficientFunds a.value b.value) ∧
    (∀ c, b.debit a = .ok c → 0 ≤ c.units ∧ c.units ≤ b.units) ∧
    (∀ failure, b.credit a = .error failure →
      failure = .invalid .balanceOverflow ∧ ∀ d : Decimal, d.units < b.units + a.units) ∧
    ∀ c, b.credit a = .ok c → b.units ≤ c.units := by
  have ha : 0 < a.units := a.pos
  refine ⟨fun _ => debit_error_iff, fun c hc => ⟨c.nonneg, ?_⟩, fun failure hfailure => ?_, fun c hc => ?_⟩
  · exact (debit_faithful hc b.value).2 (show b.units - a.units ≤ b.units by omega)
  · obtain ⟨hrange, hoverflow⟩ := credit_error_iff.1 hfailure
    refine ⟨hoverflow, fun d => Int.not_le.1 fun hle => ?_⟩
    have hsum : 0 ≤ b.units + a.units := Int.add_nonneg b.nonneg (Int.le_of_lt ha)
    exact Decimal.not_outOfRange (d := d) (by omega) hrange
  · exact (credit_faithful hc b.value).1 (show b.units ≤ b.units + a.units by omega)

end Balance

/-! ### A balance that loses two of its places -/

namespace Sample

/-- The greatest balance with eight places. -/
def brimful : Balance := ⟨⟨79228162514264337593543950335, 8, by decide, by decide⟩, by decide⟩

/-- Six at the ninth place. -/
def crumbs : Amount := ⟨⟨6, 9, by decide, by decide⟩, by decide⟩

/-- The least number with seven places above the greatest balance with eight. -/
def beyond : Balance := ⟨⟨7922816251426433759354395034, 7, by decide, by decide⟩, by decide⟩

end Sample

namespace Balance

/-- Of a sum with nine places the eighth cannot be kept either, and seven make the number above. -/
theorem order_safe_sample : Sample.brimful.credit Sample.crumbs = .ok Sample.beyond ∧
    Sample.brimful.units ≤ Sample.beyond.units := by
  have hcredit : Sample.brimful.credit Sample.crumbs = .ok Sample.beyond := by decide +kernel
  obtain ⟨-, -, -, hkept⟩ := order_safe Sample.brimful Sample.crumbs
  exact ⟨hcredit, hkept _ hcredit⟩

end Balance

end Cashbook
