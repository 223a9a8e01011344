/-
Rounding a quotient to a whole number.

Both the decimal arithmetic and the binary doubles round to the nearest whole
number and settle a tie in favour of the even neighbour.
-/
namespace Cashbook

/-- The whole number nearest to `n / d`, and of two equally near ones the even one. -/
def roundHalfEven (n d : Nat) : Nat :=
  let q := n / d
  let r := n % d
  if d < 2 * r ∨ (2 * r = d ∧ q % 2 = 1) then q + 1 else q

/-- A whole quotient stays as it is. -/
theorem roundHalfEven_mul (k : Nat) {d : Nat} (h : 0 < d) : roundHalfEven (k * d) d = k := by
  simp [roundHalfEven, Nat.mul_div_cancel _ h, Nat.mul_mod_left]
  omega

/-- Rounding moves a quotient by at most one half. -/
theorem roundHalfEven_near (n : Nat) {d : Nat} (h : 0 < d) :
    2 * n ≤ 2 * (roundHalfEven n d * d) + d ∧ 2 * (roundHalfEven n d * d) ≤ 2 * n + d := by
  have hn := Nat.div_add_mod n d
  have hr := Nat.mod_lt n h
  have hc : d * (n / d) = n / d * d := Nat.mul_comm _ _
  unfold roundHalfEven
  simp only
  split
  · have : (n / d + 1) * d = n / d * d + d := Nat.succ_mul _ _
    omega
  · omega

end Cashbook
