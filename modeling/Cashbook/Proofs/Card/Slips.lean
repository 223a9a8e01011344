/-
Which slips of the pen the check sum catches.

What a digit adds to the check sum depends on how many digits follow it: it counts once if their
number is even, and twice, less nine where that has two digits, if it is odd.  The digits in front
of a slip therefore add the same before and after it, and only the slip itself is left to look at.

One digit for another changes how the sum ends, because no two digits add the same, counted once or
twice.  Two neighbours that change places are noticed unless doubling adds as much to the one as to
the other; it adds 0, 1, 2, 3, 4 to the small digits and, up to tens, 6, 7, 8, 9, 0 to the large
ones, so 0 and 9 are the only two.

All this is shown of the totals, and holds of the sums as long as the word in which they are added
up holds every total of that many digits.  With one digit more it does not.
-/
import Cashbook.Proofs.Card.Number

namespace Cashbook

/-! ### Slips -/

/-- The second row is the first with one member replaced. -/
inductive Replaced {α : Type} (c d : α) : List α → List α → Prop where
  | intro (front back : List α) : Replaced c d (front ++ c :: back) (front ++ d :: back)

/-- The second row is the first with two neighbours in each other's place. -/
inductive Exchanged {α : Type} (c d : α) : List α → List α → Prop where
  | intro (front back : List α) : Exchanged c d (front ++ c :: d :: back) (front ++ d :: c :: back)

section

variable {α β : Type} {c d : α} {xs ys : List α}

theorem Replaced.map (f : α → β) (h : Replaced c d xs ys) : Replaced (f c) (f d) (xs.map f) (ys.map f) := by
  obtain ⟨front, back⟩ := h
  rw [List.map_append, List.map_append]
  exact .intro (front.map f) (back.map f)

theorem Replaced.length_eq (h : Replaced c d xs ys) : ys.length = xs.length := by
  obtain ⟨front, back⟩ := h
  rw [List.length_append, List.length_append]
  rfl

theorem Replaced.append_left (front : List α) (h : Replaced c d xs ys) :
    Replaced c d (front ++ xs) (front ++ ys) := by
  obtain ⟨before, back⟩ := h
  rw [← List.append_assoc, ← List.append_assoc]
  exact .intro (front ++ before) back

theorem Replaced.left_mem (h : Replaced c d xs ys) : c ∈ xs := by
  obtain ⟨front, back⟩ := h
  exact List.mem_append_right front List.mem_cons_self

theorem Replaced.right_mem (h : Replaced c d xs ys) : d ∈ ys := by
  obtain ⟨front, back⟩ := h
  exact List.mem_append_right front List.mem_cons_self

/-- What is in the second row was in the first, or has come in. -/
theorem Replaced.mem_or_eq (h : Replaced c d xs ys) {x : α} (hx : x ∈ ys) : x ∈ xs ∨ x = d := by
  obtain ⟨front, back⟩ := h
  simp only [List.mem_append, List.mem_cons] at hx ⊢
  tauto

theorem Exchanged.map (f : α → β) (h : Exchanged c d xs ys) : Exchanged (f c) (f d) (xs.map f) (ys.map f) := by
  obtain ⟨front, back⟩ := h
  rw [List.map_append, List.map_append]
  exact .intro (front.map f) (back.map f)

/-- Nothing comes in and nothing is lost. -/
theorem Exchanged.perm (h : Exchanged c d xs ys) : ys.Perm xs := by
  obtain ⟨front, back⟩ := h
  exact (List.Perm.swap c d back).append_left front

theorem Exchanged.left_mem (h : Exchanged c d xs ys) : c ∈ xs := by
  obtain ⟨front, back⟩ := h
  exact List.mem_append_right front List.mem_cons_self

theorem Exchanged.right_mem (h : Exchanged c d xs ys) : d ∈ xs := by
  obtain ⟨front, back⟩ := h
  exact List.mem_append_right front (List.mem_cons_of_mem c List.mem_cons_self)

end

/-! ### What a digit adds -/

namespace Luhn

/-- No two digits become the same by doubling. -/
theorem doubled_eq_iff {d e : Nat} (hd : d < 10) (he : e < 10) : doubled d = doubled e ↔ d = e := by
  unfold doubled
  split <;> split <;> omega

/-- No two digits weigh the same in one place. -/
theorem weight_eq_iff {k d e : Nat} (hd : d < 10) (he : e < 10) : weight k d = weight k e ↔ d = e := by
  unfold weight
  split
  · exact doubled_eq_iff hd he
  · exact Iff.rfl

/-- Doubling adds as much to one digit as to another only if they are 0 and 9. -/
theorem doubled_add_mod_eq_iff {a b : Nat} (ha : a < 10) (hb : b < 10) :
    (doubled a + b) % 10 = (doubled b + a) % 10 ↔ a = b ∨ a = 0 ∧ b = 9 ∨ a = 9 ∧ b = 0 := by
  unfold doubled
  split <;> split <;> omega

/-- Of two neighbours one is doubled, whichever it is. -/
theorem weight_add_mod_eq_iff {k a b : Nat} (ha : a < 10) (hb : b < 10) :
    (weight (k + 1) a + weight k b) % 10 = (weight (k + 1) b + weight k a) % 10 ↔
      a = b ∨ a = 0 ∧ b = 9 ∨ a = 9 ∧ b = 0 := by
  -- The two parities differ in whether it is the left neighbour or the right one that is doubled.
  by_cases hodd : k % 2 = 1
  · have hnext : ¬(k + 1) % 2 = 1 := by omega
    rw [weight, weight, weight, weight, if_neg hnext, if_pos hodd, if_neg hnext, if_pos hodd,
      Nat.add_comm a, Nat.add_comm b, eq_comm, doubled_add_mod_eq_iff ha hb]
  · have hnext : (k + 1) % 2 = 1 := by omega
    rw [weight, weight, weight, weight, if_pos hnext, if_neg hodd, if_pos hnext, if_neg hodd,
      doubled_add_mod_eq_iff ha hb]

/-! ### What a row of digits adds -/

/-- The digits in front of two rows of one length add the same to both. -/
theorem total_append_add_total {xs ys : List Nat} (h : xs.length = ys.length) (front : List Nat) :
    total (front ++ xs) + total ys = total (front ++ ys) + total xs := by
  -- By induction on the front, whose digits are followed by equally many in both rows.
  induction front with
  | nil => exact Nat.add_comm _ _
  | cons d rest ih =>
      have hlength : (rest ++ xs).length = (rest ++ ys).length := by
        rw [List.length_append, List.length_append, h]
      rw [List.cons_append, List.cons_append, total, total, hlength]
      omega

/-- So whether two such totals end alike does not depend on what is in front. -/
theorem total_append_mod_eq_iff {xs ys : List Nat} (h : xs.length = ys.length) (front : List Nat) :
    total (front ++ xs) % 10 = total (front ++ ys) % 10 ↔ total xs % 10 = total ys % 10 := by
  have hsame := total_append_add_total h front
  omega

/-- **One digit for another changes how the total ends.** -/
theorem total_mod_eq_iff_of_replaced {digits typed : List Nat} {d e : Nat} (hd : d < 10) (he : e < 10)
    (h : Replaced d e digits typed) : total typed % 10 = total digits % 10 ↔ d = e := by
  obtain ⟨front, back⟩ := h
  have hweight : total (e :: back) % 10 = total (d :: back) % 10 ↔
      weight back.length d = weight back.length e := by
    have hlow := weight_lt (k := back.length) hd
    have hhigh := weight_lt (k := back.length) he
    rw [total, total]
    omega
  have hlength : (e :: back).length = (d :: back).length := rfl
  rw [total_append_mod_eq_iff hlength, hweight, weight_eq_iff hd he]

/-- **So do neighbours in each other's place**, 0 and 9 excepted. -/
theorem total_mod_eq_iff_of_exchanged {digits typed : List Nat} {a b : Nat} (ha : a < 10) (hb : b < 10)
    (h : Exchanged a b digits typed) :
    total typed % 10 = total digits % 10 ↔ a = b ∨ a = 0 ∧ b = 9 ∨ a = 9 ∧ b = 0 := by
  obtain ⟨front, back⟩ := h
  have hlength : (b :: a :: back).length = (a :: b :: back).length := rfl
  rw [total_append_mod_eq_iff hlength, eq_comm, ← weight_add_mod_eq_iff (k := back.length) ha hb,
    total, total, total, total, List.length_cons, List.length_cons]
  omega

/-! ### What the check sum notices -/

section

variable {digits typed : List Nat}

/-- **One digit for another is noticed**, as long as the word holds every total of that many digits. -/
theorem sum_mod_eq_zero_iff_of_replaced {d e : Nat} (hdigits : ∀ x ∈ digits, x < 10)
    (hlength : digits.length ≤ capacity) (he : e < 10) (h : Replaced d e digits typed)
    (hsum : sum digits % 10 = 0) : sum typed % 10 = 0 ↔ d = e := by
  have htyped : ∀ x ∈ typed, x < 10 := by
    intro x hx
    rcases h.mem_or_eq hx with hold | rfl
    · exact hdigits x hold
    · exact he
  rw [sum_mod_eq_zero_iff (total_lt hdigits hlength)] at hsum
  rw [sum_mod_eq_zero_iff (total_lt htyped (h.length_eq.le.trans hlength)),
    ← total_mod_eq_iff_of_replaced (hdigits d h.left_mem) he h, hsum]

/-- **Neighbours in each other's place are noticed** so long, 0 and 9 excepted. -/
theorem sum_mod_eq_zero_iff_of_exchanged {a b : Nat} (hdigits : ∀ x ∈ digits, x < 10)
    (hlength : digits.length ≤ capacity) (h : Exchanged a b digits typed) (hsum : sum digits % 10 = 0) :
    sum typed % 10 = 0 ↔ a = b ∨ a = 0 ∧ b = 9 ∨ a = 9 ∧ b = 0 := by
  have htyped : ∀ x ∈ typed, x < 10 := fun x hx => hdigits x (h.perm.mem_iff.1 hx)
  rw [sum_mod_eq_zero_iff (total_lt hdigits hlength)] at hsum
  rw [sum_mod_eq_zero_iff (total_lt htyped (h.perm.length_eq.le.trans hlength)),
    ← total_mod_eq_iff_of_exchanged (hdigits a h.left_mem) (hdigits b h.right_mem) h, hsum]

end

/-! ### What it does not notice -/

/-- A nine adds nine wherever it stands. -/
theorem total_nines_append (n : Nat) (digits : List Nat) :
    total (List.replicate n 9 ++ digits) = 9 * n + total digits := by
  induction n with
  | zero => simp
  | succ n ih =>
      have hnine : ∀ after, weight after 9 = 9 := by
        intro after
        unfold weight
        split <;> rfl
      rw [List.replicate_succ, List.cons_append, total, ih, hnine]
      omega

end Luhn

/-! ### Mistyped card numbers -/

namespace CardNumber

open Text

variable {text typed : String} {c d : Char}

theorem worth_lt (h : '0' ≤ c ∧ c ≤ '9') : worth c < 10 := by
  have hhigh : c.toNat ≤ 57 := h.2
  have hzero : '0'.toNat = 48 := rfl
  unfold worth
  omega

/-- Different digits are worth different numbers. -/
theorem worth_eq_iff (hc : '0' ≤ c ∧ c ≤ '9') (hd : '0' ≤ d ∧ d ≤ '9') : worth c = worth d ↔ c = d := by
  have hlow : '0'.toNat ≤ c.toNat := hc.1
  have hother : '0'.toNat ≤ d.toNat := hd.1
  unfold worth
  rw [← Char.toNat_inj]
  omega

theorem worth_eq_zero_iff (hc : '0' ≤ c ∧ c ≤ '9') : worth c = 0 ↔ c = '0' :=
  worth_eq_iff (d := '0') hc (by decide)

theorem worth_eq_nine_iff (hc : '0' ≤ c ∧ c ≤ '9') : worth c = 9 ↔ c = '9' :=
  worth_eq_iff (d := '9') hc (by decide)

/-- What is written by so few digits has a total that the word holds. -/
theorem HasShape.worth_lt (h : HasShape text) : ∀ x ∈ (unspaced text).map worth, x < 10 := by
  intro x hx
  obtain ⟨c, hc, rfl⟩ := List.mem_map.1 hx
  exact CardNumber.worth_lt (h.2 c hc)

theorem HasShape.length_le (h : HasShape text) : ((unspaced text).map worth).length ≤ Luhn.capacity := by
  rw [List.length_map, h.1]
  decide

/-- A row of digits keeps its shape if a digit comes in for one of its members. -/
theorem HasShape.of_replaced (h : HasShape text) (hslip : Replaced c d (unspaced text) (unspaced typed))
    (hd : '0' ≤ d ∧ d ≤ '9') : HasShape typed := by
  obtain ⟨hlength, hdigits⟩ := h
  refine ⟨hslip.length_eq.trans hlength, fun x hx => ?_⟩
  rcases hslip.mem_or_eq hx with hold | rfl
  · exact hdigits x hold
  · exact hd

theorem HasShape.of_exchanged (h : HasShape text) (hslip : Exchanged c d (unspaced text) (unspaced typed)) :
    HasShape typed := by
  obtain ⟨hlength, hdigits⟩ := h
  exact ⟨hslip.perm.length_eq.trans hlength, fun x hx => hdigits x (hslip.perm.mem_iff.1 hx)⟩

/-- **A card number with one character mistyped is turned down**, for its check sum if that is a digit. -/
theorem parse_of_replaced (h : IsWritten text) (hslip : Replaced c d (unspaced text) (unspaced typed))
    (hne : c ≠ d) : parse typed = .error (if '0' ≤ d ∧ d ≤ '9' then .checksum else .shape) := by
  obtain ⟨hshape, hsum⟩ := isWritten_iff.1 h
  split
  next hd =>
    rw [parse_eq_checksum_iff, isWritten_iff]
    refine ⟨hshape.of_replaced hslip hd, fun hwritten => hne ?_⟩
    have hends := Luhn.sum_mod_eq_zero_iff_of_replaced hshape.worth_lt hshape.length_le (worth_lt hd)
      (hslip.map worth) hsum
    rw [← worth_eq_iff (hshape.2 c hslip.left_mem) hd, ← hends]
    exact hwritten.2
  next hd =>
    rw [parse_eq_shape_iff]
    exact fun hother => hd (hother.2 d hslip.right_mem)

/-- **A card number with two neighbours exchanged is turned down**, but not for 0 and 9. -/
theorem parse_of_exchanged (h : IsWritten text) (hslip : Exchanged c d (unspaced text) (unspaced typed)) :
    parse typed = .error .checksum ↔ ¬(c = d ∨ c = '0' ∧ d = '9' ∨ c = '9' ∧ d = '0') := by
  obtain ⟨hshape, hsum⟩ := isWritten_iff.1 h
  have hc := hshape.2 c hslip.left_mem
  have hd := hshape.2 d hslip.right_mem
  have htyped := hshape.of_exchanged hslip
  have hends := Luhn.sum_mod_eq_zero_iff_of_exchanged hshape.worth_lt hshape.length_le
    (hslip.map worth) hsum
  rw [worth_eq_iff hc hd, worth_eq_zero_iff hc, worth_eq_nine_iff hd, worth_eq_nine_iff hc,
    worth_eq_zero_iff hd] at hends
  rw [parse_eq_checksum_iff, isWritten_iff, ← hends]
  simp only [htyped, true_and]

/--
**The check sum catches mistyped numbers.**

  * Where the sum of a row of digits ends in zero, it no longer does once a digit is replaced by
    another, whatever stands around it.
  * With two neighbours in each other's place it ends in zero only if they are the same, or 0 and 9.
  * A text that is read as a card number is read as none once one of its characters, white space
    aside, is replaced by another: it has the wrong check sum if a digit came in, and the wrong
    shape if something else did.
  * With two neighbours in each other's place it has the wrong check sum, unless they are the same,
    or 0 and 9.
  * No row of so many digits has a total that the word in which it is added up does not hold.
-/
theorem slips_caught :
    (∀ (digits typed : List Nat) (d e : Nat), (∀ x ∈ digits, x < 10) → digits.length ≤ Luhn.capacity →
      e < 10 → Replaced d e digits typed → Luhn.sum digits % 10 = 0 →
        (Luhn.sum typed % 10 = 0 ↔ d = e)) ∧
    (∀ (digits typed : List Nat) (a b : Nat), (∀ x ∈ digits, x < 10) → digits.length ≤ Luhn.capacity →
      Exchanged a b digits typed → Luhn.sum digits % 10 = 0 →
        (Luhn.sum typed % 10 = 0 ↔ a = b ∨ a = 0 ∧ b = 9 ∨ a = 9 ∧ b = 0)) ∧
    (∀ (text typed : String) (n : CardNumber) (c d : Char), parse text = .ok n →
      Replaced c d (unspaced text) (unspaced typed) → c ≠ d →
        parse typed = .error (if '0' ≤ d ∧ d ≤ '9' then .checksum else .shape)) ∧
    (∀ (text typed : String) (n : CardNumber) (c d : Char), parse text = .ok n →
      Exchanged c d (unspaced text) (unspaced typed) →
        (parse typed = .error .checksum ↔ ¬(c = d ∨ c = '0' ∧ d = '9' ∨ c = '9' ∧ d = '0'))) ∧
    ∀ digits : List Nat, (∀ x ∈ digits, x < 10) → digits.length ≤ Luhn.capacity →
      (Luhn.sum digits).toNat = Luhn.total digits := by
  refine ⟨fun digits typed d e hdigits hlength he hslip hsum => ?_,
    fun digits typed a b hdigits hlength hslip hsum => ?_, fun text typed n c d hread hslip hne => ?_,
    fun text typed n c d hread hslip => ?_, fun digits hdigits hlength => ?_⟩
  · exact Luhn.sum_mod_eq_zero_iff_of_replaced hdigits hlength he hslip hsum
  · exact Luhn.sum_mod_eq_zero_iff_of_exchanged hdigits hlength hslip hsum
  · exact parse_of_replaced (exists_parse_iff.1 ⟨n, hread⟩) hslip hne
  · exact parse_of_exchanged (exists_parse_iff.1 ⟨n, hread⟩) hslip
  · exact Luhn.toNat_sum (Luhn.total_lt hdigits hlength)

/-- A digit mistyped in the third group, and the first two digits the wrong way round. -/
theorem slips_caught_sample :
    (∃ n, parse "4111 1111 1111 1111" = .ok n) ∧
      parse "4111 1111 1711 1111" = .error .checksum ∧ parse "4111 1111 1l11 1111" = .error .shape ∧
      parse "1411 1111 1111 1111" = .error .checksum ∧
      Luhn.sum [1, 8] % 10 = 0 ∧ Luhn.sum [1, 3] % 10 ≠ 0 ∧ Luhn.sum [0, 9, 1] % 10 = 0 ∧
      Luhn.sum [9, 0, 1] % 10 = 0 ∧ (Luhn.sum [0, 9, 1]).toNat = 10 := by
  obtain ⟨replaced, exchanged, mistyped, turned, fits⟩ := slips_caught
  obtain ⟨n, hread⟩ := exists_parse_iff.2 (by decide +kernel : IsWritten "4111 1111 1111 1111")
  let front := "411111111".toList
  let back := "111111".toList
  let others := "11111111111111".toList
  have hchars : unspaced "4111 1111 1111 1111" = front ++ '1' :: back := by decide +kernel
  have hdigit : unspaced "4111 1111 1711 1111" = front ++ '7' :: back := by decide +kernel
  have hletter : unspaced "4111 1111 1l11 1111" = front ++ 'l' :: back := by decide +kernel
  have hfront : unspaced "4111 1111 1111 1111" = [] ++ '4' :: '1' :: others := by decide +kernel
  have hturned : unspaced "1411 1111 1111 1111" = [] ++ '1' :: '4' :: others := by decide +kernel
  refine ⟨⟨n, hread⟩, ?_, ?_, ?_, rfl, ?_, rfl, ?_, ?_⟩
  · exact mistyped _ _ n '1' '7' hread (by rw [hchars, hdigit]; exact .intro _ _) (by decide)
  · exact mistyped _ _ n '1' 'l' hread (by rw [hchars, hletter]; exact .intro _ _) (by decide)
  · exact (turned _ _ n '4' '1' hread (by rw [hfront, hturned]; exact .intro _ _)).2 (by decide)
  · rw [ne_eq, replaced [1, 8] [1, 3] 8 3 (by decide) (by decide) (by decide) (.intro [1] []) rfl]
    decide
  · rw [exchanged [0, 9, 1] [9, 0, 1] 0 9 (by decide) (by decide) (.intro [] [1]) rfl]
    decide
  · exact fits [0, 9, 1] (by decide) (by decide)

/--
Some slips pass.

  * The word is full at the total of enough nines: with 2 and 3 behind them they come to
    4294967290, and with 2 and 9 to nothing at all.
  * A payload may have entries that are no digits, and what it is completed to need not be sound;
    from such a number one digit may lead to one that is.
-/
theorem slips_not_always_caught :
    (¬∀ (digits typed : List Nat) (d e : Nat), (∀ x ∈ digits, x < 10) → e < 10 → d ≠ e →
      Replaced d e digits typed → Luhn.sum digits % 10 = 0 → Luhn.sum typed % 10 ≠ 0) ∧
    ¬∀ (payload : Vector Nat 15) (typed : String) (c d : Char), (∀ x ∈ payload.toList, x < 256) →
      Replaced c d (complete payload).toText.toList (unspaced typed) → c ≠ d →
        ∃ fault, parse typed = .error fault := by
  constructor
  · intro h
    have hnines : ∀ x ∈ List.replicate 477218587 9 ++ [2, 3], x < 10 := by
      intro x hx
      rcases List.mem_append.1 hx with hnine | hlast
      · rw [List.eq_of_mem_replicate hnine]
        decide
      · exact (by decide : ∀ x ∈ [2, 3], x < 10) x hlast
    have hslip : Replaced 3 9 [2, 3] [2, 9] := .intro [2] []
    have hends : ∀ last, Luhn.sum (List.replicate 477218587 9 ++ last) =
        .ofNat (9 * 477218587 + Luhn.total last) := by
      intro last
      rw [Luhn.sum_eq_ofNat, Luhn.total_nines_append]
    refine h _ _ 3 9 hnines (by decide) (by decide) (hslip.append_left _) ?_ ?_
    · rw [hends]
      rfl
    · rw [hends]
      rfl
  · intro h
    let payload : Vector Nat 15 := #v[0, 0, 0, 0, 0, 0, 0, 0, 0, 0, 0, 0, 0, 0, 10]
    have hissued : (complete payload).toText.toList = "000000000000000".toList ++ ['9'] := by decide +kernel
    have htyped : unspaced "0000000000000000" = "000000000000000".toList ++ ['0'] := by decide +kernel
    have hslip : Replaced '9' '0' (complete payload).toText.toList (unspaced "0000000000000000") := by
      rw [hissued, htyped]
      exact .intro _ []
    obtain ⟨fault, hfault⟩ := h payload "0000000000000000" '9' '0' (by decide) hslip (by decide)
    obtain ⟨n, hread⟩ := exists_parse_iff.2 (by decide +kernel : IsWritten "0000000000000000")
    cases hread.symm.trans hfault

end CardNumber

end Cashbook
