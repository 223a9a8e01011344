/-
Which texts are card numbers, and which number a payload gets.

Reading looks at the characters that are not white space and at nothing else.  They must be the
sixteen digits of a number, in order, and the number must be sound; so what is read is what is
written, and white space may be put in or left out at will.  What is not sixteen digits is turned
down for its shape, and sixteen digits that are not sound for their check sum.

Issuing goes the other way.  It computes the check sum of fifteen digits and a zero, where reading
computes that of all sixteen; the two differ by the last digit, so exactly one last digit makes a
payload sound, and it is the one that issuing appends.
-/
import Mathlib.Data.Set.List
import Mathlib.Logic.ExistsUnique
import Cashbook.Proofs.ReadBack

namespace Cashbook

/-! ### White space put in -/

namespace Text

/-- The characters of a text that are not white space. -/
def unspaced (text : String) : List Char := text.toList.filter (!isBlank ·)

/-- The second row is the first with white space put in anywhere. -/
inductive Spaced : List Char → List Char → Prop where
  | nil : Spaced [] []
  | keep (c : Char) {chars spaced : List Char} (h : Spaced chars spaced) : Spaced (c :: chars) (c :: spaced)
  | blank {c : Char} {chars spaced : List Char} (hblank : isBlank c = true) (h : Spaced chars spaced) :
      Spaced chars (c :: spaced)

theorem Spaced.filter_eq {chars spaced : List Char} (h : Spaced chars spaced) :
    spaced.filter (!isBlank ·) = chars.filter (!isBlank ·) := by
  induction h with
  | nil => rfl
  | keep c _ ih => rw [List.filter_cons, List.filter_cons, ih]
  | blank hblank _ ih => rw [List.filter_cons_of_neg (by simp [hblank]), ih]

end Text

namespace CardNumber

open Text

variable {n : CardNumber} {text : String} {front : Vector Nat 15}

/-! ### Reading -/

/-- The digits are ten of the characters. -/
theorem exists_digitChar {c : Char} (h : '0' ≤ c ∧ c ≤ '9') : ∃ d : Fin 10, c = Nat.digitChar d.val := by
  have hlow : 48 ≤ c.toNat := h.1
  have hhigh : c.toNat ≤ 57 := h.2
  have hall : ∀ d : Fin 10, Nat.digitChar d.val = Char.ofNat (48 + d.val) := by decide
  refine ⟨⟨c.toNat - 48, by omega⟩, ?_⟩
  rw [hall, Nat.add_sub_of_le hlow, Char.ofNat_toNat]

/-- And each of the ten is a digit. -/
theorem isDigit_digitChar (d : Fin 10) : '0' ≤ Nat.digitChar d.val ∧ Nat.digitChar d.val ≤ '9' := by
  revert d
  decide

/-- A digit is read from its own character only. -/
theorem eq_digitChar_of_digitOf? {c : Char} {d : Fin 10} (h : digitOf? c = some d) :
    c = Nat.digitChar d.val := by
  have hdigit : '0' ≤ c ∧ c ≤ '9' := by
    by_contra hno
    rw [digitOf?, digit?, if_neg hno] at h
    cases h
  obtain ⟨e, rfl⟩ := exists_digitChar hdigit
  rw [digitOf?_digitChar] at h
  rw [Option.some.inj h]

/-- Digits are read from their own characters only. -/
theorem mapM_digitOf?_eq_some_iff {chars : List Char} {digits : List (Fin 10)} :
    chars.mapM digitOf? = some digits ↔ digits.map (fun d => Nat.digitChar d.val) = chars := by
  constructor
  · intro h
    induction chars generalizing digits with
    | nil => cases h; rfl
    | cons c rest ih =>
        rw [List.mapM_cons] at h
        obtain ⟨d, hd, h⟩ := Option.bind_eq_some_iff.1 h
        obtain ⟨others, hothers, h⟩ := Option.bind_eq_some_iff.1 h
        cases h
        rw [List.map_cons, ih hothers, eq_digitChar_of_digitOf? hd]
  · rintro rfl
    exact mapM_map_eq_some fun d _ => digitOf?_digitChar d

theorem toList_toText (n : CardNumber) : n.toText.toList = n.digits.map fun d => Nat.digitChar d.val := by
  rw [toText, showDigits, String.toList_ofList]

/-- Of a number that is written out only the check sum is still looked at. -/
theorem parse_of_unspaced (h : n.toText.toList = unspaced text) :
    parse text = if n.IsSound then .ok n else .error .checksum := by
  rw [toList_toText, ← mapM_digitOf?_eq_some_iff] at h
  rw [parse, parseChars, ← unspaced, h]
  simp only [n.length_eq, dif_pos]

/-- Sixteen digits, white space aside, whatever their check sum. -/
def HasShape (text : String) : Prop :=
  (unspaced text).length = 16 ∧ ∀ c ∈ unspaced text, '0' ≤ c ∧ c ≤ '9'

/-- What has the shape of a card number is what some number writes. -/
theorem hasShape_iff : HasShape text ↔ ∃ n : CardNumber, n.toText.toList = unspaced text := by
  simp only [toList_toText]
  constructor
  · rintro ⟨hlength, hdigits⟩
    have hrange : unspaced text ∈ Set.range (List.map fun d : Fin 10 => Nat.digitChar d.val) := by
      rw [Set.range_list_map]
      exact fun c hc => (exists_digitChar (hdigits c hc)).imp fun d hd => hd.symm
    obtain ⟨digits, hdigits⟩ := hrange
    rw [← hdigits, List.length_map] at hlength
    exact ⟨⟨digits, hlength⟩, hdigits⟩
  · rintro ⟨n, hdigits⟩
    constructor
    · rw [← hdigits, List.length_map, n.length_eq]
    · rw [← hdigits]
      intro c hc
      obtain ⟨d, -, rfl⟩ := List.mem_map.1 hc
      exact isDigit_digitChar d

/-- **A text is turned down for its shape** if it is not sixteen digits, white space aside. -/
theorem parse_eq_shape_iff : parse text = .error .shape ↔ ¬HasShape text := by
  rw [hasShape_iff]
  constructor
  · rintro herror ⟨n, hchars⟩
    rw [parse_of_unspaced hchars] at herror
    split at herror <;> cases herror
  · intro hshape
    rw [parse, parseChars, ← unspaced]
    cases hread : (unspaced text).mapM digitOf? with
    | none => rfl
    | some digits =>
        refine dif_neg fun hlength => hshape ⟨⟨digits, hlength⟩, ?_⟩
        rw [toList_toText]
        exact mapM_digitOf?_eq_some_iff.1 hread

/-- **A text is read as a number if it is that number, white space aside, and the number is sound.** -/
theorem parse_ok_iff : parse text = .ok n ↔ n.toText.toList = unspaced text ∧ n.IsSound := by
  constructor
  · intro h
    have hshape : HasShape text := by
      by_contra hno
      rw [parse_eq_shape_iff.2 hno] at h
      cases h
    obtain ⟨m, hchars⟩ := hasShape_iff.1 hshape
    rw [parse_of_unspaced hchars] at h
    split at h
    next hsound =>
      cases h
      exact ⟨hchars, hsound⟩
    next => cases h
  · rintro ⟨hchars, hsound⟩
    rw [parse_of_unspaced hchars, if_pos hsound]

/-- Sixteen digits, white space aside, whose check sum ends in zero. -/
def IsWritten (text : String) : Prop :=
  (unspaced text).length = 16 ∧ (∀ c ∈ unspaced text, '0' ≤ c ∧ c ≤ '9') ∧
    Luhn.sum ((unspaced text).map fun c => c.toNat - '0'.toNat) % 10 = 0

-- Only the characters of the text are gone through, not all that there are.
instance (text : String) : Decidable (IsWritten text) :=
  have : Decidable (∀ c ∈ unspaced text, '0' ≤ c ∧ c ≤ '9') := List.decidableBAll _ _
  inferInstanceAs (Decidable (_ ∧ _ ∧ _))

/-- What a digit is worth. -/
def worth (c : Char) : Nat := c.toNat - '0'.toNat

theorem map_worth_digitChar (digits : List (Fin 10)) :
    (digits.map fun d => Nat.digitChar d.val).map worth = digits.map Fin.val := by
  have hall : ∀ d : Fin 10, worth (Nat.digitChar d.val) = d.val := by decide
  rw [List.map_map]
  exact List.map_congr_left fun d _ => hall d

theorem isSound_iff (h : n.toText.toList = unspaced text) :
    n.IsSound ↔ Luhn.sum ((unspaced text).map worth) % 10 = 0 := by
  rw [← h, toList_toText, map_worth_digitChar]
  rfl

theorem isWritten_iff :
    IsWritten text ↔ HasShape text ∧ Luhn.sum ((unspaced text).map worth) % 10 = 0 :=
  and_assoc.symm

theorem exists_parse_iff : (∃ n, parse text = .ok n) ↔ IsWritten text := by
  rw [isWritten_iff, hasShape_iff]
  constructor
  · rintro ⟨n, hread⟩
    obtain ⟨hchars, hsound⟩ := parse_ok_iff.1 hread
    exact ⟨⟨n, hchars⟩, (isSound_iff hchars).1 hsound⟩
  · rintro ⟨⟨n, hchars⟩, hsum⟩
    exact ⟨n, parse_ok_iff.2 ⟨hchars, (isSound_iff hchars).2 hsum⟩⟩

/-- **A text is turned down for its check sum** if it has the shape of a number and is none. -/
theorem parse_eq_checksum_iff : parse text = .error .checksum ↔ HasShape text ∧ ¬IsWritten text := by
  have hshape : HasShape text ↔ parse text ≠ .error .shape := by rw [ne_eq, parse_eq_shape_iff, not_not]
  rw [hshape, ← exists_parse_iff]
  cases parse text with
  | ok n => simp
  | error fault => cases fault <;> simp

/-- **White space put into a text anywhere makes no difference.** -/
theorem parse_spaced {spaced : String} (h : Spaced text.toList spaced.toList) : parse spaced = parse text := by
  rw [parse, parseChars, h.filter_eq]
  rfl

/-! ### Issuing -/

/-- The first fifteen digits. -/
def payload (n : CardNumber) : Vector Nat 15 :=
  ⟨(n.values.take 15).toArray, by simp [values, n.length_eq]⟩

theorem toList_payload (n : CardNumber) : n.payload.toList = n.values.take 15 := rfl

theorem lt_of_mem_values {d : Nat} (h : d ∈ n.values) : d < 10 := by
  obtain ⟨digit, -, rfl⟩ := List.mem_map.1 h
  exact digit.isLt

theorem lt_of_mem_payload {d : Nat} (h : d ∈ n.payload.toList) : d < 10 :=
  lt_of_mem_values (List.mem_of_mem_take h)

theorem values_injective : Function.Injective values := by
  intro n other h
  have hdigits : n.digits = other.digits := List.map_injective_iff.2 (fun _ _ => Fin.ext) h
  cases n
  cases other
  cases hdigits
  rfl

/-- A number is its payload and one digit more. -/
theorem exists_values_eq (n : CardNumber) : ∃ d < 10, n.values = n.payload.toList ++ [d] := by
  have hlength : n.values.length = 16 := by rw [values, List.length_map, n.length_eq]
  have hlast : n.values.drop 15 = [n.values[15]] := by
    rw [List.drop_eq_getElem_cons (by omega), List.drop_eq_nil_of_le (by omega)]
  refine ⟨n.values[15], lt_of_mem_values (List.getElem_mem _), ?_⟩
  rw [← hlast, toList_payload, List.take_append_drop]

theorem payload_complete (h : ∀ d ∈ front.toList, d < 10) : (complete front).payload = front := by
  apply Vector.toList_inj.1
  rw [toList_payload, values_complete h, List.take_left' Vector.length_toList]

/-- **A payload is completed to the one sound number that begins with it.** -/
theorem eq_complete_iff (h : ∀ d ∈ front.toList, d < 10) :
    n = complete front ↔ n.payload = front ∧ n.IsSound := by
  constructor
  · rintro rfl
    exact ⟨payload_complete h, isSound_complete h⟩
  · rintro ⟨rfl, hsound⟩
    obtain ⟨d, hd, hvalues⟩ := n.exists_values_eq
    rw [IsSound, hvalues, Luhn.sum_append_mod_eq_zero_iff h (length_payload_lt _) hd] at hsound
    apply values_injective
    rw [hvalues, values_complete h, hsound]

/--
**Reading and issuing agree** on what a card number is.

  * A text is read if and only if it is sixteen digits with a sound check sum, white space aside.
  * What is read is what is written, and is read again with white space put in anywhere.
  * A payload of digits is completed to a number that is read as it stands and begins with the
    payload; it is the only number that does both.
  * A number that is read is what its own payload is completed to.
-/
theorem reading_and_issuing_agree :
    (∀ text, (∃ n, parse text = .ok n) ↔ IsWritten text) ∧
    (∀ text n, parse text = .ok n → n.toText.toList = unspaced text ∧
      ∀ spaced : String, Spaced n.toText.toList spaced.toList → parse spaced = .ok n) ∧
    (∀ payload : Vector Nat 15, (∀ d ∈ payload.toList, d < 10) →
      parse (complete payload).toText = .ok (complete payload) ∧ (complete payload).payload = payload ∧
        ∃! n : CardNumber, n.payload = payload ∧ parse n.toText = .ok n) ∧
    ∀ text n, parse text = .ok n → complete n.payload = n := by
  have hagain : ∀ n : CardNumber, parse n.toText = .ok n ↔ n.IsSound := fun n => by
    rw [parse_toText]
    split <;> simp [*]
  refine ⟨fun text => exists_parse_iff, fun text n hread => ?_, fun payload hpayload => ?_,
    fun text n hread => ?_⟩
  · obtain ⟨hwritten, hsound⟩ := parse_ok_iff.1 hread
    exact ⟨hwritten, fun spaced hspaced => (parse_spaced hspaced).trans ((hagain n).2 hsound)⟩
  · refine ⟨(hagain _).2 (isSound_complete hpayload), payload_complete hpayload, complete payload, ?_, ?_⟩
    · exact ⟨payload_complete hpayload, (hagain _).2 (isSound_complete hpayload)⟩
    · rintro n ⟨hfront, hread⟩
      exact (eq_complete_iff hpayload).2 ⟨hfront, (hagain n).1 hread⟩
  · have hsound := (parse_ok_iff.1 hread).2
    exact ((eq_complete_iff fun _ => lt_of_mem_payload).2 ⟨rfl, hsound⟩).symm

/-- A number that is grouped by an em space and a tab is read, and its payload is issued as it stands. -/
theorem reading_and_issuing_agree_sample :
    let front : Vector Nat 15 := #v[4, 1, 1, 1, 1, 1, 1, 1, 1, 1, 1, 1, 1, 1, 1]
    (∃ n, parse "4111\u20031111 1111\t1111" = .ok n) ∧
      parse (complete front).toText = .ok (complete front) ∧ (complete front).payload = front := by
  intro front
  obtain ⟨hread, -, hissued, -⟩ := reading_and_issuing_agree
  obtain ⟨hagain, hfront, -⟩ := hissued front (by decide)
  exact ⟨(hread _).2 (by decide +kernel), hagain, hfront⟩

end CardNumber

end Cashbook
