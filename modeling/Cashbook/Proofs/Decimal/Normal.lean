/-
Decimals without zeros at the end.

A number has many decimals and one of them is normal: it has no places, or the last of its places
is not a zero.  How many places that one has is a matter of the number alone, and so is whether
its text ends in a zero.
-/
import Cashbook.Proofs.Binary64.Text

namespace Cashbook

attribute [local instance (high)] instPowNat instNatPowNat Int.instNatPow

namespace Decimal

variable {a b d : Decimal}

/-! ### Numbers -/

theorem value_eq_units_div (d : Decimal) : d.value = d.units / 10 ^ 28 := by
  have hpow : (10 : ℚ) ^ 28 = 10 ^ d.scale * 10 ^ (28 - d.scale) := by
    rw [← pow_add, Nat.add_sub_of_le d.scale_le]
  rw [value, units, Int.cast_mul, Int.cast_pow, Int.cast_ofNat, hpow,
    mul_div_mul_right _ _ (by positivity)]

theorem value_le_value_iff : a.value ≤ b.value ↔ a ≤ b := by
  rw [value_eq_units_div, value_eq_units_div, div_le_div_iff_of_pos_right (by positivity), Int.cast_le]
  rfl

theorem value_pos_iff : 0 < d.value ↔ 0 < d.units := by
  rw [value_eq_units_div, div_pos_iff_of_pos_right (by positivity), Int.cast_pos]

theorem value_normalize (d : Decimal) : d.normalize.value = d.value := by
  rw [value_eq_units_div, units_normalize, ← value_eq_units_div]

/-! ### The normal form -/

/-- There are no places, or the last of them is not a zero. -/
def IsNormal (d : Decimal) : Prop := d.scale = 0 ∨ d.coefficient % 10 ≠ 0

theorem isNormal_withoutTrailingZeros (coefficient : Int) (scale : Nat)
    (hc : coefficient.natAbs < limit) (hs : scale ≤ 28) :
    (withoutTrailingZeros coefficient scale hc hs).IsNormal := by
  induction scale generalizing coefficient with
  | zero => exact Or.inl rfl
  | succ scale ih =>
      unfold withoutTrailingZeros
      split
      next => exact ih _ _ _
      next hlast => exact Or.inr hlast

theorem isNormal_normalize (d : Decimal) : d.normalize.IsNormal :=
  isNormal_withoutTrailingZeros _ _ _ _

theorem value_mul_eq_iff {places : Nat} {whole : ℤ} :
    d.value * 10 ^ places = whole ↔ d.coefficient * 10 ^ places = whole * 10 ^ d.scale := by
  rw [value, div_mul_eq_mul_div, div_eq_iff (by positivity)]
  exact_mod_cast Iff.rfl

/-- **A normal decimal has as many places as it takes to make its number whole.** -/
theorem IsNormal.scale_le_iff (h : d.IsNormal) {places : Nat} :
    d.scale ≤ places ↔ ∃ whole : ℤ, d.value * 10 ^ places = whole := by
  simp only [value_mul_eq_iff]
  constructor
  · intro hle
    refine ⟨d.coefficient * 10 ^ (places - d.scale), ?_⟩
    rw [mul_assoc, ← Int.pow_add, Nat.sub_add_cancel hle]
  · rintro ⟨whole, hwhole⟩
    by_contra hgt
    -- If fewer places were enough, the coefficient would end in a zero.
    have hsplit : d.scale = (d.scale - places - 1) + 1 + places := by omega
    have hpos : (10 : Int) ^ places ≠ 0 := Int.pow_ne_zero (by decide)
    rw [hsplit, Int.pow_add, Int.pow_succ, ← mul_assoc, ← mul_assoc] at hwhole
    have hcoefficient := mul_right_cancel₀ hpos hwhole
    rcases h with hzero | hlast
    · omega
    · exact hlast (hcoefficient ▸ Int.mul_emod_left _ 10)

/-- A number can be written in so many places if that many make it whole. -/
theorem scale_normalize_le_iff {places : Nat} :
    d.normalize.scale ≤ places ↔ ∃ whole : ℤ, d.value * 10 ^ places = whole := by
  rw [(isNormal_normalize d).scale_le_iff, value_normalize]

/-! ### The normal text -/

/-- The last of a row of digits is what is left of its number. -/
theorem getLast?_eq_of_ofDigits {ds : List Nat} {n : Nat} (hall : ∀ x ∈ ds, x < 10) (hne : ds ≠ [])
    (hvalue : Text.ofDigits 10 ds = n) : ds.getLast? = some (n % 10) := by
  have hlast : ds.getLast hne < 10 := hall _ (List.getLast_mem hne)
  rw [← List.dropLast_concat_getLast hne, Text.ofDigits_append] at hvalue
  rw [List.getLast?_eq_some_getLast hne]
  congr 1
  omega

theorem getLast?_written (whole : List Nat) {places : List Nat} (h : places ≠ []) :
    (written whole places).getLast? = places.getLast?.map Nat.digitChar := by
  obtain ⟨last, hlast⟩ := Option.ne_none_iff_exists'.1 (mt List.getLast?_eq_none_iff.1 h)
  rw [written, if_neg h, List.getLast?_append, List.getLast?_cons, List.getLast?_map, hlast]
  rfl

theorem point_notMem_written {whole : List Nat} (h : ∀ x ∈ whole, x < 10) : '.' ∉ written whole [] := by
  have hall : ∀ x : Fin 10, Nat.digitChar x.val ≠ '.' := by decide
  rw [written, if_pos rfl, List.append_nil]
  intro hmem
  obtain ⟨x, hx, heq⟩ := List.mem_map.1 hmem
  exact hall ⟨x, h x hx⟩ heq

/-- **The text of a normal decimal does not end in a zero behind a point.** -/
theorem IsNormal.getLast?_toText_ne (h : d.IsNormal) (hpoint : '.' ∈ d.toText.toList) :
    d.toText.toList.getLast? ≠ some '0' := by
  rw [toText, String.toList_ofList] at *
  obtain ⟨ds, hall, hvalue, hlength, hchars⟩ := d.exists_toChars_eq
  by_cases hscale : d.scale = 0
  · -- Without places there is no point.
    have hwhole := point_notMem_written fun x hx => hall x (List.mem_of_mem_take (i := ds.length) hx)
    rw [hscale, Nat.sub_zero, List.drop_length] at hchars
    rw [hchars] at hpoint
    split at hpoint
    next => exact absurd ((List.mem_cons.1 hpoint).resolve_left (by decide)) hwhole
    next => exact absurd hpoint hwhole
  · have hne : ds.drop (ds.length - d.scale) ≠ [] := by
      rw [Ne, List.drop_eq_nil_iff]
      omega
    have hdigit : (d.coefficient.natAbs % 10 : Nat) ≠ 0 := by
      have := h.resolve_left hscale
      omega
    have hlast : d.toChars.getLast? = some (Nat.digitChar (d.coefficient.natAbs % 10)) := by
      have hplaces : (ds.drop (ds.length - d.scale)).getLast? = some (d.coefficient.natAbs % 10) := by
        rw [List.getLast?_drop, if_neg (by omega),
          getLast?_eq_of_ofDigits hall (List.ne_nil_of_length_pos (by omega)) hvalue]
      have hwritten := getLast?_written (ds.take (ds.length - d.scale)) hne
      rw [hplaces, Option.map_some] at hwritten
      rw [hchars]
      split
      next => rw [List.getLast?_cons, hwritten]; rfl
      next => exact hwritten
    have hzero : ∀ x : Fin 10, x.val ≠ 0 → Nat.digitChar x.val ≠ '0' := by decide
    rw [hlast]
    exact fun heq => hzero ⟨_, Nat.mod_lt _ (by decide)⟩ hdigit (Option.some.inj heq)

end Decimal

end Cashbook
