/-
Texts as bytes.

The bytes of a character begin with its highest digits, and the first of them grows with their
number; so bytes are in the order of the characters, from the first place on where they differ.
Bytes below 128 are characters of their own and no part of any other.
-/
import Mathlib.Tactic.ByContra
import Mathlib.Tactic.SplitIfs
import Cashbook.Text.Utf8

namespace Cashbook.Text.Utf8

open String (utf8EncodeChar)

/-! ### Order -/

theorem toNat_val_lt (c : Char) : c.val.toNat < 0x110000 := by
  have h := c.valid
  rcases h with h | h <;> omega

theorem ofNat_cons_lt_iff {a b : Nat} {xs ys : List UInt8} (ha : a < 256) (hb : b < 256) :
    UInt8.ofNat a :: xs < UInt8.ofNat b :: ys ↔ a < b ∨ a = b ∧ xs < ys := by
  rw [List.cons_lt_cons_iff, UInt8.lt_iff_toNat_lt, ← UInt8.toNat_inj, UInt8.toNat_ofNat_of_lt' ha,
    UInt8.toNat_ofNat_of_lt' hb]

/-- The lesser number is less without its last digit, or in it. -/
theorem div_lt_or_mod_lt {m n : Nat} (h : m < n) :
    m / 64 < n / 64 ∨ m / 64 = n / 64 ∧ m % 64 < n % 64 := by
  omega

/-- The bytes of the lesser character are less, whatever follows. -/
theorem utf8EncodeChar_append_lt {c d : Char} (h : c < d) (xs ys : List UInt8) :
    utf8EncodeChar c ++ xs < utf8EncodeChar d ++ ys := by
  have hc := toNat_val_lt c
  have hd := toNat_val_lt d
  have hlt : c.val.toNat < d.val.toNat := h
  unfold utf8EncodeChar
  generalize c.val.toNat = m at *
  generalize d.val.toNat = n at *
  dsimp only
  split_ifs
  -- The greater character never has fewer bytes.
  any_goals omega
  all_goals simp (disch := omega) only [List.cons_append, List.nil_append, ofNat_cons_lt_iff]
  -- If it has more, its first byte is greater; if it has as many, they are the digits of the numbers.
  any_goals omega
  -- Of four digits any may be the first to differ.
  have hm : m / 262144 = m / 64 / 64 / 64 ∧ m / 4096 = m / 64 / 64 := by omega
  have hn : n / 262144 = n / 64 / 64 / 64 ∧ n / 4096 = n / 64 / 64 := by omega
  rw [hm.1, hm.2, hn.1, hn.2]
  rcases div_lt_or_mod_lt hlt with h | h
  · rcases div_lt_or_mod_lt h with h | h
    · have := div_lt_or_mod_lt h
      omega
    · omega
  · omega

theorem encode_cons (c : Char) (chars : List Char) : encode (c :: chars) = utf8EncodeChar c ++ encode chars :=
  List.flatMap_cons

theorem encode_singleton (c : Char) : encode [c] = utf8EncodeChar c :=
  (encode_cons c []).trans (List.append_nil _)

theorem encode_append (chars others : List Char) : encode (chars ++ others) = encode chars ++ encode others :=
  List.flatMap_append

theorem encode_lt_encode {chars others : List Char} (h : chars < others) : encode chars < encode others := by
  induction h with
  | nil =>
    rename_i c rest
    rw [encode_cons]
    cases hbytes : utf8EncodeChar c with
    | nil => exact absurd hbytes String.utf8EncodeChar_ne_nil
    | cons b bytes => exact List.nil_lt_cons _ _
  | rel h => exact utf8EncodeChar_append_lt h _ _
  | cons _ ih => exact List.append_left_lt ih

/-- **Texts are in the order of their bytes.** -/
theorem encode_lt_encode_iff {chars others : List Char} : encode chars < encode others ↔ chars < others := by
  refine ⟨fun h => ?_, encode_lt_encode⟩
  by_contra hnot
  rcases List.le_iff_lt_or_eq.1 (List.not_lt.1 hnot) with hlt | heq
  · exact List.lt_asymm h (encode_lt_encode hlt)
  · exact List.lt_irrefl _ (heq ▸ h)

/-! ### Bytes below 128 -/

theorem not_toNat_ofNat_lt {n : Nat} (h : 128 ≤ n) (h' : n < 256) : ¬(UInt8.ofNat n).toNat < 128 := by
  rw [UInt8.toNat_ofNat_of_lt' h']
  exact Nat.not_lt.2 h

theorem toNat_eq_of_mem_utf8EncodeChar {c : Char} {b : UInt8} (hmem : b ∈ utf8EncodeChar c)
    (hb : b.toNat < 128) : c.toNat = b.toNat := by
  rw [Char.toNat]
  unfold utf8EncodeChar at hmem
  generalize c.val.toNat = n at *
  dsimp only at hmem
  split_ifs at hmem
  -- But for the one byte of a character below 128, all of them have the highest bit set.
  all_goals
    simp only [List.mem_cons, List.not_mem_nil, or_false] at hmem
  · rw [hmem, UInt8.toNat_ofNat_of_lt' (show n < 256 by omega)]
  · rcases hmem with rfl | rfl <;> exact absurd hb (not_toNat_ofNat_lt (by omega) (by omega))
  · rcases hmem with rfl | rfl | rfl <;> exact absurd hb (not_toNat_ofNat_lt (by omega) (by omega))
  · rcases hmem with rfl | rfl | rfl | rfl <;> exact absurd hb (not_toNat_ofNat_lt (by omega) (by omega))

/-- **A byte below 128 stands for the character of that number.** -/
theorem mem_of_mem_encode {c : Char} {chars : List Char} (hc : c.toNat < 128)
    (h : UInt8.ofNat c.toNat ∈ encode chars) : c ∈ chars := by
  have hbyte : (UInt8.ofNat c.toNat).toNat = c.toNat :=
    UInt8.toNat_ofNat_of_lt' (show c.toNat < 256 by omega)
  obtain ⟨other, hother, hmem⟩ := List.mem_flatMap.1 h
  have heq := toNat_eq_of_mem_utf8EncodeChar hmem (by omega)
  rw [hbyte] at heq
  rwa [← Char.toNat_inj.1 heq]

end Cashbook.Text.Utf8
