/-
What is written is read back.

Identifiers and card numbers are written as rows of digits, and a caller who copies one
means that one.  A digit by itself is read back as it was, so a row of them is; what is left
is that nothing around the digits gets in the way: neither the hyphens of an identifier nor
the white space that reading ignores.
-/
import Mathlib.Algebra.Group.Nat.Defs
import Mathlib.Data.List.Basic
import Cashbook.Checks
import Cashbook.Proofs.Card.Luhn

namespace Cashbook

/-! ### Digits -/

namespace Text

/-- A decimal digit is read back as it was. -/
theorem digit?_digitChar {d : Nat} (h : d < 10) : digit? (Nat.digitChar d) = some d := by
  have hall : ∀ d : Fin 10, digit? (Nat.digitChar d) = some d.val := by decide
  exact hall ⟨d, h⟩

/-- A hexadecimal digit is read back as it was. -/
theorem hexDigit?_digitChar {d : Nat} (h : d < 16) : hexDigit? (Nat.digitChar d) = some d := by
  have hall : ∀ d : Fin 16, hexDigit? (Nat.digitChar d) = some d.val := by decide
  exact hall ⟨d, h⟩

/-- No digit is white space. -/
theorem isBlank_digitChar {d : Nat} (h : d < 16) : isBlank (Nat.digitChar d) = false := by
  have hall : ∀ d : Fin 16, isBlank (Nat.digitChar d) = false := by decide
  exact hall ⟨d, h⟩

theorem ofDigits_append (base : Nat) (digits : List Nat) (d : Nat) :
    ofDigits base (digits ++ [d]) = ofDigits base digits * base + d := by
  rw [ofDigits, List.foldl_append]
  rfl

/-- The last digits of a number are those of what is left of it. -/
theorem ofDigits_lastDigits (base width n : Nat) :
    ofDigits base (lastDigits base width n) = n % base ^ width := by
  induction width generalizing n with
  | zero => rw [Nat.pow_zero, Nat.mod_one]; rfl
  | succ width ih =>
      rw [lastDigits, ofDigits_append, ih, Nat.pow_succ, Nat.mul_comm (base ^ width) base, Nat.mod_mul,
        Nat.mul_comm base, Nat.add_comm]

theorem lt_of_mem_lastDigits {base width n d : Nat} (hbase : 0 < base)
    (h : d ∈ lastDigits base width n) : d < base := by
  induction width generalizing n with
  | zero => cases h
  | succ width ih =>
      rcases List.mem_append.1 h with hfront | hlast
      · exact ih hfront
      · rw [List.mem_singleton.1 hlast]
        exact Nat.mod_lt n hbase

/-- A row is read member by member. -/
theorem mapM_map_eq_some_map {α β γ : Type} {write : α → β} {read : β → Option γ} {value : α → γ}
    {xs : List α} (h : ∀ x ∈ xs, read (write x) = some (value x)) :
    (xs.map write).mapM read = some (xs.map value) := by
  induction xs with
  | nil => rfl
  | cons x rest ih =>
      rw [List.map_cons, List.mapM_cons, h x List.mem_cons_self,
        ih fun y hy => h y (List.mem_cons_of_mem x hy)]
      rfl

/-- A row is read back as it was if each of its members is. -/
theorem mapM_map_eq_some {α β : Type} {write : α → β} {read : β → Option α} {xs : List α}
    (h : ∀ x ∈ xs, read (write x) = some x) : (xs.map write).mapM read = some xs := by
  have hsame : (xs.map write).mapM read = some (xs.map fun x => x) := mapM_map_eq_some_map h
  rw [hsame, List.map_id']

/-! ### White space -/

/-- Where nothing is to be taken off, nothing is. -/
theorem stripWith_eq_self {α : Type} {p : α → Bool} {xs : List α} (h : ∀ x ∈ xs, p x = false) :
    stripWith p xs = xs := by
  have hkeep : ∀ ys : List α, (∀ y ∈ ys, p y = false) → ys.dropWhile p = ys := by
    intro ys hys
    cases ys with
    | nil => rfl
    | cons y rest => exact List.dropWhile_cons_of_neg (by rw [hys y List.mem_cons_self]; nofun)
  rw [stripWith, hkeep xs h, hkeep xs.reverse fun x hx => h x (List.mem_reverse.1 hx),
    List.reverse_reverse]

/-- A text without white space has none around it. -/
theorem trim_eq_self {text : String} (h : ∀ c ∈ text.toList, isBlank c = false) :
    trim text = text := by
  rw [trim, stripWith_eq_self h, String.ofList_toList]

end Text

/-! ### Identifiers -/

namespace Uuid

open Text

/-- The digits are those that stand between the hyphens. -/
theorem ungroup?_grouped {a b c d e : List Char} (ha : a.length = 8) (hb : b.length = 4)
    (hc : c.length = 4) (hd : d.length = 4) (he : e.length = 12) :
    ungroup? (a ++ '-' :: b ++ '-' :: c ++ '-' :: d ++ '-' :: e) = some (a ++ b ++ c ++ d ++ e) := by
  simp (disch := omega) [ungroup?, List.drop_append, List.getElem?_append, List.getElem?_cons,
    List.drop_eq_nil_of_le, ha, hb, hc, hd, he]

theorem ofHexDigits?_fixedDigits (n : Nat) :
    ofHexDigits? (fixedDigits 16 32 n) = some (ofNat (n % 16 ^ 32)) := by
  have hread : (fixedDigits 16 32 n).mapM hexDigit? = some (lastDigits 16 32 n) :=
    mapM_map_eq_some fun d hd => hexDigit?_digitChar (lt_of_mem_lastDigits (by decide) hd)
  rw [ofHexDigits?, if_pos (length_fixedDigits 16 32 n), hread, Option.map_some, ofDigits_lastDigits]

theorem length_toChars (id : Uuid) : id.toChars.length = 36 := by
  simp [toChars, length_fixedDigits]

theorem ofText?_toText (id : Uuid) : ofText? id.toText = some id := by
  have hlength := length_fixedDigits 16 32 id.bits.toNat
  have hungroup : ungroup? id.toChars = some (fixedDigits 16 32 id.bits.toNat) := by
    rw [toChars, ungroup?_grouped (by simp [hlength]) (by simp [hlength]) (by simp [hlength])
      (by simp [hlength]) (by simp [hlength])]
    have hgroup : ∀ start, ((fixedDigits 16 32 id.bits.toNat).drop start).take 4 ++
        (fixedDigits 16 32 id.bits.toNat).drop (start + 4) =
          (fixedDigits 16 32 id.bits.toNat).drop start := by
      intro start
      rw [← List.drop_drop, List.take_append_drop]
    simp only [List.append_assoc, hgroup, List.take_append_drop]
  have hbits : id.bits.toNat % 16 ^ 32 = id.bits.toNat := Nat.mod_eq_of_lt id.bits.isLt
  have hunwrap : unwrap id.toChars = id.toChars := by simp [unwrap, length_toChars]
  rw [toText, ofText?, String.toList_ofList, ofChars?, if_neg (by rw [length_toChars]; decide), hunwrap,
    hungroup, Option.bind_some, ofHexDigits?_fixedDigits, hbits, ofNat, BitVec.ofNat_toNat,
    BitVec.setWidth_eq]

theorem isBlank_of_mem_toChars {id : Uuid} {c : Char} (h : c ∈ id.toChars) : isBlank c = false := by
  have hdigit : ∀ c ∈ fixedDigits 16 32 id.bits.toNat, isBlank c = false := by
    intro c hc
    obtain ⟨d, hd, rfl⟩ := List.mem_map.1 hc
    exact isBlank_digitChar (lt_of_mem_lastDigits (by decide) hd)
  simp only [toChars, List.mem_append, List.mem_cons] at h
  rcases h with (((h | rfl | h) | rfl | h) | rfl | h) | rfl | h
  · exact hdigit c (List.mem_of_mem_take h)
  · rfl
  · exact hdigit c (List.mem_of_mem_drop (List.mem_of_mem_take h))
  · rfl
  · exact hdigit c (List.mem_of_mem_drop (List.mem_of_mem_take h))
  · rfl
  · exact hdigit c (List.mem_of_mem_drop (List.mem_of_mem_take h))
  · rfl
  · exact hdigit c (List.mem_of_mem_drop h)

end Uuid

namespace Id

variable {kind : IdKind}

/-- **An identifier of whatever kind is read back as it was.** -/
theorem parse_toText (id : Id kind) : Id.parse id.toText = .ok id := by
  have htrim : Text.trim id.toText = id.toText := by
    refine Text.trim_eq_self fun c hc => ?_
    have hchar : c ∈ id.uuid.toChars := by rwa [toText, Uuid.toText, String.toList_ofList] at hc
    exact Uuid.isBlank_of_mem_toChars hchar
  rw [parse, ofText?, htrim, toText, Uuid.ofText?_toText]
  rfl

end Id

/-- The name of a kind of transaction is read back as the kind. -/
theorem TransactionType.parse_name (type : TransactionType) : parse type.name = .ok type := by
  have hread : ofText? type.name = some type := by cases type <;> decide +kernel
  rw [parse, hread]

/-! ### Card numbers -/

namespace CardNumber

open Text

theorem digitOf?_digitChar (d : Fin 10) : digitOf? (Nat.digitChar d.val) = some d := by
  rw [digitOf?, digit?_digitChar d.isLt, Option.map_some]
  exact congrArg some (Fin.ext (Nat.mod_eq_of_lt d.isLt))

/-- What a card number writes is its own digits, whose check sum is looked at. -/
theorem parse_toText (n : CardNumber) :
    parse n.toText = if n.IsSound then .ok n else .error .checksum := by
  have hkeep : (n.digits.map fun d => Nat.digitChar d.val).filter (!isBlank ·) =
      n.digits.map fun d => Nat.digitChar d.val := by
    refine List.filter_eq_self.2 fun c hc => ?_
    obtain ⟨d, -, rfl⟩ := List.mem_map.1 hc
    rw [isBlank_digitChar (Nat.lt_trans d.isLt (by decide)), Bool.not_false]
  have hread : (n.digits.map fun d => Nat.digitChar d.val).mapM digitOf? = some n.digits :=
    mapM_map_eq_some fun d _ => digitOf?_digitChar d
  rw [parse, toText, showDigits, String.toList_ofList, parseChars, hkeep, hread]
  simp only [n.length_eq, dif_pos]

/-- **A sound card number is read back as it was.** -/
theorem read_toText {n : CardNumber} (h : n.IsSound) : read n.toText = .ok n := by
  rw [read, parse_toText, if_pos h]

/-- A card number is not read back as another one. -/
theorem eq_of_read_toText {n other : CardNumber} (h : read n.toText = .ok other) : other = n := by
  rw [read, parse_toText] at h
  by_cases hsound : n.IsSound
  · rw [if_pos hsound] at h
    exact (Except.ok.inj h).symm
  · rw [if_neg hsound] at h
    cases h

/-- The check digit comes behind the payload. -/
theorem values_complete {payload : Vector Nat 15} (h : ∀ d ∈ payload.toList, d < 10) :
    (complete payload).values = payload.toList ++ [Luhn.checkDigit payload.toList] := by
  have hpayload : (payload.toList.map (Fin.ofNat 10 ·)).map Fin.val = payload.toList := by
    rw [List.map_map]
    exact (List.map_congr_left fun d hd => Nat.mod_eq_of_lt (h d hd)).trans (List.map_id _)
  have hcheck : (Fin.ofNat 10 (Luhn.checkDigit payload.toList)).val = Luhn.checkDigit payload.toList :=
    Nat.mod_eq_of_lt (Luhn.checkDigit_lt _)
  rw [values, complete, List.map_append, hpayload, List.map_singleton, hcheck]

theorem length_payload_lt (payload : Vector Nat 15) : payload.toList.length < Luhn.capacity := by
  rw [Vector.length_toList]
  decide

/-- A payload of digits is completed to a sound number. -/
theorem isSound_complete {payload : Vector Nat 15} (h : ∀ d ∈ payload.toList, d < 10) :
    (complete payload).IsSound := by
  rw [IsSound, values_complete h]
  exact Luhn.sum_checkDigit h (length_payload_lt payload)

/-- **Every number that is issued is sound.** -/
theorem isSound_ofSerial (serial : Nat) : (ofSerial serial).IsSound := by
  refine isSound_complete fun d hd => ?_
  rcases List.mem_append.1 (show d ∈ issuer ++ lastDigits 10 13 serial from hd) with hissuer | hserial
  · exact (by decide : ∀ d ∈ issuer, d < 10) d hissuer
  · exact lt_of_mem_lastDigits (by decide) hserial

end CardNumber

end Cashbook
