/-
Decimals are read back as they were written.

Every number is written as a row of digits, with a point among them where there are places,
and reading takes the digits up again one by one.  There is room for all of them, for they
are those of a decimal; so nothing is rounded, and the scale is the number of places.
-/
import Mathlib.Data.List.Induction
import Cashbook.Decimal.Numeral
import Cashbook.Proofs.ReadBack

namespace Cashbook

open Cashbook.Text

attribute [local instance (high)] instPowNat instNatPowNat Int.instNatPow

/-! ### Rows of digits -/

namespace Text

variable {ds : List Nat}

theorem ofDigits_append_list (base : Nat) (ds es : List Nat) :
    ofDigits base (ds ++ es) = ofDigits base ds * base ^ es.length + ofDigits base es := by
  induction es using List.reverseRecOn with
  | nil => simp [ofDigits]
  | append_singleton es e ih =>
      rw [← List.append_assoc, ofDigits_append, ih, ofDigits_append, List.length_append,
        List.length_singleton, Nat.pow_succ, Nat.add_mul, Nat.mul_assoc, Nat.add_assoc]

theorem ofDigits_of_zeros {base : Nat} (h : ∀ d ∈ ds, d = 0) : ofDigits base ds = 0 := by
  induction ds using List.reverseRecOn with
  | nil => rfl
  | append_singleton ds d ih =>
      rw [ofDigits_append, ih fun e he => h e (List.mem_append_left _ he), Nat.zero_mul, Nat.zero_add]
      exact h d (List.mem_append_right _ (List.mem_singleton_self d))

/-- Zeros in front count for nothing. -/
theorem ofDigits_zeros_append {base : Nat} {zeros : List Nat} (h : ∀ d ∈ zeros, d = 0) (ds : List Nat) :
    ofDigits base (zeros ++ ds) = ofDigits base ds := by
  rw [ofDigits_append_list, ofDigits_of_zeros h, Nat.zero_mul, Nat.zero_add]

/-- Zeros at the end move the rest to the front. -/
theorem ofDigits_append_zeros {base : Nat} {zeros : List Nat} (h : ∀ d ∈ zeros, d = 0) (ds : List Nat) :
    ofDigits base (ds ++ zeros) = ofDigits base ds * base ^ zeros.length := by
  rw [ofDigits_append_list, ofDigits_of_zeros h, Nat.add_zero]

theorem ofDigits_lt {ds : List Nat} (h : ∀ d ∈ ds, d < 10) : ofDigits 10 ds < 10 ^ ds.length := by
  induction ds using List.reverseRecOn with
  | nil => exact Nat.one_pos
  | append_singleton ds d ih =>
      have hfront := ih fun e he => h e (List.mem_append_left _ he)
      have hlast := h d (List.mem_append_right _ (List.mem_singleton_self d))
      rw [ofDigits_append, List.length_append, List.length_singleton, Nat.pow_succ]
      omega

/-- A row of digits that begins with another than zero is worth as much as it is long. -/
theorem le_ofDigits_cons {d : Nat} (hd : d ≠ 0) (ds : List Nat) :
    10 ^ ds.length ≤ ofDigits 10 (d :: ds) := by
  have hfirst : ofDigits 10 [d] = d := Nat.zero_add d
  rw [← List.singleton_append, ofDigits_append_list, hfirst]
  exact Nat.le_trans (Nat.le_mul_of_pos_left _ (Nat.pos_of_ne_zero hd)) (Nat.le_add_right _ _)

/-- A number is written with digits that are worth it. -/
theorem exists_decimalDigits (n : Nat) :
    ∃ ds, decimalDigits n = ds.map Nat.digitChar ∧ (∀ d ∈ ds, d < 10) ∧ ofDigits 10 ds = n ∧ ds ≠ [] := by
  induction n using Nat.strongRecOn with
  | ind n ih =>
      rw [decimalDigits, Nat.toDigits_eq_if (by decide)]
      split
      next hlt => exact ⟨[n], rfl, by simpa using hlt, Nat.zero_add n, List.cons_ne_nil _ _⟩
      next hge =>
        obtain ⟨ds, hds, hall, hvalue, -⟩ := ih (n / 10) (by omega)
        refine ⟨ds ++ [n % 10], ?_, ?_, ?_, by simp⟩
        · rw [← decimalDigits, hds, List.map_append, List.map_singleton]
        · intro d hd
          rcases List.mem_append.1 hd with hd | hd
          · exact hall d hd
          · rw [List.mem_singleton.1 hd]
            exact Nat.mod_lt n (by decide)
        · rw [ofDigits_append, hvalue]
          omega

theorem exists_paddedDigits (width n : Nat) :
    ∃ ds, paddedDigits width n = ds.map Nat.digitChar ∧ (∀ d ∈ ds, d < 10) ∧ ofDigits 10 ds = n ∧
      width ≤ ds.length ∧ ds ≠ [] := by
  obtain ⟨ds, hds, hall, hvalue, hne⟩ := exists_decimalDigits n
  refine ⟨List.replicate (width - ds.length) 0 ++ ds, ?_, ?_, ?_, ?_, by simp [hne]⟩
  · rw [paddedDigits, hds, List.map_append, List.map_replicate, List.length_map]
    rfl
  · intro d hd
    rcases List.mem_append.1 hd with hd | hd
    · rw [List.eq_of_mem_replicate hd]
      decide
    · exact hall d hd
  · rw [ofDigits_zeros_append fun d hd => List.eq_of_mem_replicate hd, hvalue]
  · rw [List.length_append, List.length_replicate]
    omega

/-- Digits are taken up as far as they go. -/
theorem spanDigits_digits {ds : List Nat} {rest : List Char} (h : ∀ d ∈ ds, d < 10)
    (hrest : spanDigits rest = ([], rest)) : spanDigits (ds.map Nat.digitChar ++ rest) = (ds, rest) := by
  induction ds with
  | nil => exact hrest
  | cons d others ih =>
      rw [List.map_cons, List.cons_append, spanDigits, digit?_digitChar (h d List.mem_cons_self)]
      simp only [ih fun e he => h e (List.mem_cons_of_mem d he)]

end Text

/-! ### Taking the digits up -/

namespace Decimal

/-- A number with its sign. -/
def signed (negative : Bool) (n : Nat) : Int := if negative then -(n : Int) else n

theorem natAbs_signed (negative : Bool) (n : Nat) : (signed negative n).natAbs = n := by
  cases negative <;> simp [signed]

/-- A row of digits and perhaps a point before the last of them. -/
def written (whole places : List Nat) : List Char :=
  whole.map Nat.digitChar ++ if places = [] then [] else '.' :: places.map Nat.digitChar

variable {whole places : List Nat}

theorem scanDigits_places (h : ∀ d ∈ places, d < 10) :
    scanDigits true true (places.map Nat.digitChar) = some ([], places) := by
  induction places with
  | nil => rfl
  | cons d rest ih =>
      rw [List.map_cons, scanDigits, digit?_digitChar (h d List.mem_cons_self)]
      simp only [ih fun e he => h e (List.mem_cons_of_mem d he), Option.map_some, if_true]

theorem scanDigits_whole {seen : Bool} {rest : List Char} (h : ∀ d ∈ whole, d < 10)
    (hseen : seen = true ∨ whole ≠ []) :
    scanDigits seen false (whole.map Nat.digitChar ++ rest) =
      (scanDigits true false rest).map fun (before, after) => (whole ++ before, after) := by
  induction whole generalizing seen with
  | nil =>
      rw [hseen.resolve_right fun hne => hne rfl]
      simp
  | cons d others ih =>
      rw [List.map_cons, List.cons_append, scanDigits, digit?_digitChar (h d List.mem_cons_self)]
      simp only [ih (fun e he => h e (List.mem_cons_of_mem d he)) (.inl rfl), Option.map_map]
      rfl

theorem scanDigits_written (hwhole : ∀ d ∈ whole, d < 10) (hplaces : ∀ d ∈ places, d < 10)
    (hne : whole ≠ []) : scanDigits false false (written whole places) = some (whole, places) := by
  rw [written, scanDigits_whole hwhole (.inr hne)]
  split
  next h => simp [h, scanDigits]
  next h =>
    have hpoint : scanDigits true false ('.' :: places.map Nat.digitChar) = some ([], places) := by
      rw [scanDigits]
      exact scanDigits_places hplaces
    rw [hpoint]
    simp

/-- While there is room the places are taken up as they are. -/
theorem takePlaces_of_fits {mantissa scale : Nat} (hscale : scale + places.length ≤ 28)
    (hlimit : mantissa * 10 ^ places.length + ofDigits 10 places < limit) :
    takePlaces mantissa scale places =
      some (mantissa * 10 ^ places.length + ofDigits 10 places, scale + places.length) := by
  induction places generalizing mantissa scale with
  | nil =>
      rw [takePlaces]
      simp [ofDigits]
  | cons d rest ih =>
      have hvalue : mantissa * 10 ^ (d :: rest).length + ofDigits 10 (d :: rest) =
          (mantissa * 10 + d) * 10 ^ rest.length + ofDigits 10 rest := by
        rw [← List.singleton_append, ofDigits_append_list, List.length_append, List.length_singleton]
        simp [ofDigits, Nat.pow_add, Nat.add_mul, Nat.mul_assoc, Nat.add_assoc]
      rw [hvalue] at hlimit ⊢
      rw [List.length_cons] at hscale ⊢
      have hroom : mantissa * 10 + d < limit := by
        have hle : mantissa * 10 + d ≤ (mantissa * 10 + d) * 10 ^ rest.length :=
          Nat.le_mul_of_pos_right _ (Nat.pow_pos (by decide))
        omega
      rw [takePlaces, if_pos ⟨by omega, hroom⟩, ih (by omega) hlimit, Nat.add_assoc, Nat.add_comm 1]

/-- There is no sign before a digit. -/
theorem splitSign_written (hwhole : ∀ d ∈ whole, d < 10) (hne : whole ≠ []) (rest : List Char) :
    splitSign (whole.map Nat.digitChar ++ rest) = (false, whole.map Nat.digitChar ++ rest) := by
  cases whole with
  | nil => exact absurd rfl hne
  | cons d others =>
      have hall : ∀ d : Fin 10, Nat.digitChar d ≠ '-' ∧ Nat.digitChar d ≠ '+' := by decide
      obtain ⟨hminus, hplus⟩ := hall ⟨d, hwhole d List.mem_cons_self⟩
      rw [List.map_cons, List.cons_append]
      unfold splitSign
      split
      next h => exact absurd (List.cons.inj h).1 hminus
      next h => exact absurd (List.cons.inj h).1 hplus
      next => rfl

theorem splitSign_signed (negative : Bool) (hwhole : ∀ d ∈ whole, d < 10) (hne : whole ≠ []) :
    splitSign (if negative then '-' :: written whole places else written whole places) =
      (negative, written whole places) := by
  cases negative with
  | true => rfl
  | false => exact splitSign_written hwhole hne _

/-- **A row of digits that a decimal has room for is read as it stands.** -/
theorem parseChars?_written (negative : Bool) (hwhole : ∀ d ∈ whole, d < 10)
    (hplaces : ∀ d ∈ places, d < 10) (hne : whole ≠ []) (hscale : places.length ≤ 28)
    (hlimit : ofDigits 10 (whole ++ places) < limit) :
    parseChars? (if negative then '-' :: written whole places else written whole places) =
      ofParts? (signed negative (ofDigits 10 (whole ++ places))) places.length := by
  rw [ofDigits_append_list] at hlimit ⊢
  have hstart : ofDigits 10 whole < limit := by
    have hle : ofDigits 10 whole ≤ ofDigits 10 whole * 10 ^ places.length :=
      Nat.le_mul_of_pos_right _ (Nat.pow_pos (by decide))
    omega
  have htaken : takePlaces (ofDigits 10 whole) 0 places = _ :=
    takePlaces_of_fits (by rwa [Nat.zero_add]) hlimit
  simp only [parseChars?, splitSign_signed negative hwhole hne, scanDigits_written hwhole hplaces hne,
    Option.bind_eq_bind, Option.bind_some, if_pos hstart, htaken, Nat.zero_add, signed]

/-- What is in front of the point must not be beyond the largest coefficient. -/
theorem parseChars?_written_eq_none (negative : Bool) (hwhole : ∀ d ∈ whole, d < 10)
    (hplaces : ∀ d ∈ places, d < 10) (hne : whole ≠ []) (hlimit : limit ≤ ofDigits 10 whole) :
    parseChars? (if negative then '-' :: written whole places else written whole places) = none := by
  simp only [parseChars?, splitSign_signed negative hwhole hne, scanDigits_written hwhole hplaces hne,
    Option.bind_eq_bind, Option.bind_some, if_neg (Nat.not_lt.2 hlimit)]

/-! ### Writing and reading -/

/-- The last digits of a row go behind the point. -/
theorem written_take_drop {ds : List Nat} {scale : Nat} (h : scale < ds.length) :
    (ds.map Nat.digitChar).take ((ds.map Nat.digitChar).length - scale) ++
        (if scale = 0 then [] else
          '.' :: (ds.map Nat.digitChar).drop ((ds.map Nat.digitChar).length - scale)) =
      written (ds.take (ds.length - scale)) (ds.drop (ds.length - scale)) := by
  have hempty : ds.drop (ds.length - scale) = [] ↔ scale = 0 := by
    rw [List.drop_eq_nil_iff]
    omega
  simp only [written, hempty, List.length_map, List.map_take, List.map_drop]

/-- A number with a point before the last of its digits is read as it stands. -/
theorem parseChars?_take_drop (negative : Bool) {ds : List Nat} {scale n : Nat} (hall : ∀ d ∈ ds, d < 10)
    (hvalue : ofDigits 10 ds = n) (hlength : scale < ds.length) (hscale : scale ≤ 28) (hlimit : n < limit) :
    parseChars? (if negative then
        '-' :: written (ds.take (ds.length - scale)) (ds.drop (ds.length - scale))
      else written (ds.take (ds.length - scale)) (ds.drop (ds.length - scale))) =
      ofParts? (signed negative n) scale := by
  have hplaces : (ds.drop (ds.length - scale)).length = scale := by
    rw [List.length_drop]
    omega
  have hne : ds.take (ds.length - scale) ≠ [] := by
    rw [Ne, List.take_eq_nil_iff]
    rintro (hnone | hnil)
    · omega
    · rw [hnil] at hlength
      exact absurd hlength (Nat.not_lt_zero scale)
  rw [parseChars?_written negative (fun d hd => hall d (List.mem_of_mem_take hd))
    (fun d hd => hall d (List.mem_of_mem_drop hd)) hne (by rw [hplaces]; exact hscale)
    (by rw [List.take_append_drop, hvalue]; exact hlimit), List.take_append_drop, hvalue, hplaces]

/-- The text of a decimal is its digits, with a point before as many of them as its scale. -/
theorem exists_toChars_eq (d : Decimal) :
    ∃ ds, (∀ x ∈ ds, x < 10) ∧ ofDigits 10 ds = d.coefficient.natAbs ∧ d.scale < ds.length ∧
      d.toChars = if d.coefficient < 0 then
          '-' :: written (ds.take (ds.length - d.scale)) (ds.drop (ds.length - d.scale))
        else written (ds.take (ds.length - d.scale)) (ds.drop (ds.length - d.scale)) := by
  obtain ⟨ds, hds, hall, hvalue, hlength, -⟩ := exists_paddedDigits (d.scale + 1) d.coefficient.natAbs
  refine ⟨ds, hall, hvalue, hlength, ?_⟩
  rw [toChars, hds, ← written_take_drop hlength]
  split <;> simp

/-- **A decimal is read back as it was**, with its scale. -/
theorem parse?_toText (d : Decimal) : parse? d.toText = some d := by
  obtain ⟨ds, hall, hvalue, hlength, hchars⟩ := d.exists_toChars_eq
  have hread := parseChars?_take_drop (decide (d.coefficient < 0)) hall hvalue hlength d.scale_le
    d.coefficient_lt
  simp only [decide_eq_true_eq] at hread
  rw [parse?, toText, String.toList_ofList, hchars, hread]
  have hcoefficient : signed (decide (d.coefficient < 0)) d.coefficient.natAbs = d.coefficient := by
    rw [signed]
    split
    next h =>
      have := of_decide_eq_true h
      omega
    next h =>
      have := of_decide_eq_false (Bool.not_eq_true _ ▸ h)
      omega
  rw [hcoefficient, ofParts?, dif_pos ⟨d.coefficient_lt, d.scale_le⟩]

end Decimal

end Cashbook
