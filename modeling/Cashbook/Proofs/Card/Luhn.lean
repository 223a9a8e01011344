/-
What a word of thirty-two bits holds of a check sum.

The check sum is added up in a word, and a word starts over at zero when it is full.  `total`
is the number that the digits come to, however large.  Each of them adds nine at most, so up to
`capacity` digits the word holds the total, whatever the digits are; sixteen digits are far below.
One digit more and there are rows whose total it does not hold.

So what is to be known of the check sum is shown of the total, and carried over once.
-/
import Cashbook.Card.Luhn

namespace Cashbook.Luhn

variable {digits : List Nat} {d e : Nat}

/-- What digits add up to, most significant first. -/
def total : List Nat → Nat
  | [] => 0
  | d :: rest => weight rest.length d + total rest

/-- As many digits as have a total that the word holds, whatever they are. -/
def capacity : Nat := 477218588

/-! ### Totals -/

theorem doubled_lt (h : d < 10) : doubled d < 10 := by
  unfold doubled
  split <;> omega

theorem weight_lt {k : Nat} (h : d < 10) : weight k d < 10 := by
  unfold weight
  split
  · exact doubled_lt h
  · exact h

/-- Each digit adds at most nine. -/
theorem total_le (h : ∀ d ∈ digits, d < 10) : total digits ≤ 9 * digits.length := by
  induction digits with
  | nil => exact Nat.le_refl 0
  | cons d rest ih =>
      have hrest := ih fun e he => h e (List.mem_cons_of_mem d he)
      have hweight := weight_lt (k := rest.length) (h d List.mem_cons_self)
      rw [total, List.length_cons]
      omega

theorem total_lt (h : ∀ d ∈ digits, d < 10) (hlength : digits.length ≤ capacity) :
    total digits < UInt32.size := by
  have hle := total_le h
  have hsize : UInt32.size = 4294967296 := rfl
  unfold capacity at hlength
  omega

/-- Appending a digit adds it to the total that zero in its place would have. -/
theorem total_append_singleton (digits : List Nat) (d : Nat) :
    total (digits ++ [d]) = total (digits ++ [0]) + d := by
  induction digits with
  | nil => simp [total, weight]
  | cons e rest ih =>
      simp only [List.cons_append, total, List.length_append, List.length_singleton, ih]
      omega

/-! ### Sums -/

/-- The word has what is left of the total when as much as it can hold is taken off again and again. -/
theorem sum_eq_ofNat (digits : List Nat) : sum digits = .ofNat (total digits) := by
  induction digits with
  | nil => rfl
  | cons d rest ih => rw [sum, total, ih, UInt32.ofNat_add]

/-- **A word that is not full holds the total.** -/
theorem toNat_sum (h : total digits < UInt32.size) : (sum digits).toNat = total digits := by
  rw [sum_eq_ofNat, UInt32.toNat_ofNat_of_lt' h]

theorem sum_mod_eq_zero_iff (h : total digits < UInt32.size) :
    sum digits % 10 = 0 ↔ total digits % 10 = 0 := by
  rw [← UInt32.toNat_inj, UInt32.toNat_mod, toNat_sum h]
  rfl

/-! ### Check digits -/

theorem checkDigit_eq (h : total (digits ++ [0]) < UInt32.size) :
    checkDigit digits = (10 - total (digits ++ [0]) % 10) % 10 := by
  have hrest : (sum (digits ++ [0]) % 10).toNat = total (digits ++ [0]) % 10 := by
    rw [UInt32.toNat_mod, toNat_sum h]
    rfl
  have hle : sum (digits ++ [0]) % 10 ≤ 10 := by
    rw [UInt32.le_iff_toNat_le, hrest]
    exact Nat.le_of_lt (Nat.mod_lt _ (by decide))
  rw [checkDigit, UInt32.toNat_mod, UInt32.toNat_sub_of_le _ _ hle, hrest]
  rfl

/-- Of the ten digits only the check digit makes the sum end in zero. -/
theorem sum_append_mod_eq_zero_iff (h : ∀ d ∈ digits, d < 10) (hlength : digits.length < capacity)
    (hd : d < 10) : sum (digits ++ [d]) % 10 = 0 ↔ d = checkDigit digits := by
  have hfits : ∀ e < 10, total (digits ++ [e]) < UInt32.size := by
    intro e he
    refine total_lt (fun c hc => ?_) (by rw [List.length_append]; exact hlength)
    rcases List.mem_append.1 hc with hold | hnew
    · exact h c hold
    · rw [List.mem_singleton.1 hnew]
      exact he
  rw [sum_mod_eq_zero_iff (hfits d hd), total_append_singleton, checkDigit_eq (hfits 0 (by decide))]
  omega

theorem checkDigit_lt (digits : List Nat) : checkDigit digits < 10 := by
  rw [checkDigit, UInt32.toNat_mod]
  exact Nat.mod_lt _ (by decide)

/-- **With its check digit appended, a row of digits has a sum that ends in zero.** -/
theorem sum_checkDigit (h : ∀ d ∈ digits, d < 10) (hlength : digits.length < capacity) :
    sum (digits ++ [checkDigit digits]) % 10 = 0 :=
  (sum_append_mod_eq_zero_iff h hlength (checkDigit_lt digits)).2 rfl

end Cashbook.Luhn
