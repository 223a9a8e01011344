/-
What the rules let through.

For each request one lemma says exactly which requests are understood, and what they mean.
-/
import Cashbook.Proofs.ReadBack
import Cashbook.Rules

namespace Cashbook

/-- One step that may fail after another: both must succeed. -/
theorem Outcome.bind_ok_iff {α β : Type} {outcome : Outcome α} {f : α → Outcome β} {result : β} :
    (outcome >>= f) = .ok result ↔ ∃ value, outcome = .ok value ∧ f value = .ok result := by
  cases outcome with
  | ok value =>
      show f value = .ok result ↔ _
      simp
  | error failure =>
      show (.error failure : Outcome β) = .ok result ↔ _
      simp

/-- A step that refuses what meets a test. -/
theorem Outcome.refuse_bind_ok_iff {β : Type} {test : Prop} [Decidable test] {failure : Failure}
    {rest : Outcome β} {result : β} :
    (if test then .error failure else rest) = .ok result ↔ ¬test ∧ rest = .ok result := by
  by_cases h : test <;> simp [h]

namespace Rules

variable {rules : Rules}

theorem opening_ok_iff {request : OpeningRequest} {opening : Opening} :
    rules.opening request = .ok opening ↔
      (Text.trim request.name).isEmpty = false ∧
        (Text.trim request.name).length ≤ rules.nameLength ∧
          Currency.parse request.currency = .ok opening.currency ∧
            opening.name = Text.trim request.name := by
  have hopening : rules.opening request =
      if (Text.trim request.name).isEmpty then .error (.invalid .nameRequired)
      else if rules.nameLength < (Text.trim request.name).length then
        .error (.invalid (.nameTooLong rules.nameLength))
      else Currency.parse request.currency >>= fun currency => .ok ⟨Text.trim request.name, currency⟩ := by
    rfl
  rw [hopening, Outcome.refuse_bind_ok_iff, Outcome.refuse_bind_ok_iff, Outcome.bind_ok_iff,
    Bool.not_eq_true, Nat.not_lt]
  refine and_congr_right fun _ => and_congr_right fun _ => ?_
  constructor
  · intro h
    obtain ⟨currency, hcurrency, hvalue⟩ := h
    obtain rfl := Except.ok.inj hvalue
    exact ⟨hcurrency, rfl⟩
  · intro h
    obtain ⟨hcurrency, hname⟩ := h
    exact ⟨opening.currency, hcurrency, by rw [← hname]⟩

theorem reversal_ok_iff {request : ReversalRequest} {key : TransactionId} :
    reversal request = .ok key ↔ Id.ofText? request.transaction = some key := by
  rw [reversal, Id.parse]
  cases Id.ofText? request.transaction <;> simp

/-! ### Movements -/

theorem movement_ok_iff {request : MovementRequest} {movement : Movement} :
    rules.movement request = .ok movement ↔
      ∃ type card, rules.amount request.amount = .ok movement.amount ∧
        TransactionType.parse request.type = .ok type ∧ CardNumber.read request.card = .ok card ∧
          order type card request.otherCard = .ok movement.order := by
  have hmovement : rules.movement request = rules.amount request.amount >>= fun amount =>
      TransactionType.parse request.type >>= fun type => CardNumber.read request.card >>= fun card =>
        order type card request.otherCard >>= fun order => .ok ⟨amount, order⟩ := by
    rfl
  rw [hmovement]
  simp only [Outcome.bind_ok_iff]
  constructor
  · intro h
    obtain ⟨amount, hamount, type, htype, card, hcard, order, horder, hmade⟩ := h
    obtain rfl := Except.ok.inj hmade
    exact ⟨type, card, hamount, htype, hcard, horder⟩
  · intro h
    obtain ⟨type, card, hamount, htype, hcard, horder⟩ := h
    exact ⟨_, hamount, type, htype, card, hcard, _, horder, rfl⟩

theorem amount_eq (value : Decimal) : rules.amount value = Amount.make value >>= fun amount =>
    if value < rules.least then .error (.invalid (.amountBelow rules.least))
    else if rules.places < value.normalize.scale then .error (.invalid (.amountTooFine rules.places))
    else .ok amount := rfl

/-- An amount may be moved if it is not below the least one and has no more places than allowed. -/
theorem amount_ok_iff {value : Decimal} {amount : Amount} : rules.amount value = .ok amount ↔
    amount.value = value ∧ rules.least ≤ value ∧ value.normalize.scale ≤ rules.places := by
  have hmake : Amount.make value = .ok amount ↔ amount.value = value := by
    unfold Amount.make Amount.ofDecimal?
    by_cases hpositive : 0 < value.units
    · rw [dif_pos hpositive]
      constructor
      · intro h
        rw [← Except.ok.inj h]
      · rintro rfl
        rfl
    · rw [dif_neg hpositive]
      exact ⟨nofun, fun h => absurd (h ▸ amount.pos) hpositive⟩
  rw [amount_eq, Outcome.bind_ok_iff]
  simp only [Outcome.refuse_bind_ok_iff, Except.ok.injEq]
  constructor
  · rintro ⟨made, hmade, hleast, hplaces, rfl⟩
    exact ⟨hmake.1 hmade, Int.not_lt.1 hleast, Nat.not_lt.1 hplaces⟩
  · rintro ⟨hvalue, hleast, hplaces⟩
    exact ⟨amount, hmake.2 hvalue, Int.not_lt.2 hleast, Nat.not_lt.2 hplaces, rfl⟩

/-- An amount that may be moved is the one that was asked for. -/
theorem value_of_amount {value : Decimal} {amount : Amount} (h : rules.amount value = .ok amount) :
    amount.value = value :=
  (amount_ok_iff.1 h).1

/-- An order is of the kind that was asked for, by the card given, with the other card if there is one. -/
theorem order_ok_iff {type : TransactionType} {card : CardNumber} {otherCard : Option String}
    {given : Order} : order type card otherCard = .ok given ↔
      given.type = type ∧ given.card = card ∧
        Option.Rel (fun text number => CardNumber.read text = .ok number) otherCard given.otherCard? := by
  constructor
  · intro h
    cases type with
    | transfer =>
        cases otherCard with
        | none => cases h
        | some other =>
            rw [order] at h
            cases hother : CardNumber.read other with
            | error failure => rw [hother] at h; cases h
            | ok number =>
                rw [hother] at h
                cases h
                exact ⟨rfl, rfl, .some hother⟩
    | deposit | withdrawal =>
        cases otherCard with
        | none => cases h; exact ⟨rfl, rfl, .none⟩
        | some other => cases h
  · rintro ⟨rfl, rfl, hother⟩
    cases given with
    | transfer source destination =>
        cases hother with
        | some hread =>
            rw [Order.type, Order.card, order, hread]
            rfl
    | deposit card | withdrawal card =>
        cases hother
        rfl

/-- An order is of the kind that was asked for. -/
theorem type_of_order {type : TransactionType} {card : CardNumber} {otherCard : Option String}
    {given : Order} (h : order type card otherCard = .ok given) : given.type = type :=
  (order_ok_iff.1 h).1

/-- A movement is of the kind that was asked for. -/
theorem type_of_movement {request : MovementRequest} {type : TransactionType} {movement : Movement}
    (h : rules.movement request = .ok movement) (hname : request.type = type.name) :
    movement.order.type = type := by
  obtain ⟨same, card, -, htype, -, horder⟩ := movement_ok_iff.1 h
  rw [hname, TransactionType.parse_name] at htype
  rw [type_of_order horder, ← Except.ok.inj htype]

/-- A transfer that is understood is the one that was asked for. -/
theorem transfer_of_movement {value : Decimal} {card other : CardNumber} {movement : Movement}
    (h : rules.movement (.transfer value card other) = .ok movement) :
    movement.amount.value = value ∧ movement.order = .transfer card other := by
  obtain ⟨type, number, hamount, htype, hcard, horder⟩ := movement_ok_iff.1 h
  obtain rfl : TransactionType.transfer = type :=
    Except.ok.inj ((TransactionType.parse_name .transfer).symm.trans htype)
  obtain rfl := CardNumber.eq_of_read_toText hcard
  refine ⟨value_of_amount hamount, ?_⟩
  change (CardNumber.read other.toText).map (Order.transfer number) = .ok movement.order at horder
  cases hother : CardNumber.read other.toText with
  | error failure => rw [hother] at horder; cases horder
  | ok found =>
      rw [hother] at horder
      rw [← CardNumber.eq_of_read_toText hother]
      exact (Except.ok.inj horder).symm

/-! ### Requests that name sound cards

The kind is one of the three names, and the cards are read back; so only the amount can be
objected to.
-/

section

variable {value : Decimal} {card other : CardNumber}

theorem movement_of_order (type : TransactionType) {otherCard : Option String} {order : Order}
    (hcard : card.IsSound) (horder : Rules.order type card otherCard = .ok order) :
    rules.movement ⟨value, type.name, card.toText, otherCard⟩ =
      rules.amount value >>= fun amount => .ok ⟨amount, order⟩ := by
  simp only [movement, TransactionType.parse_name type, CardNumber.read_toText hcard]
  cases rules.amount value with
  | error failure => rfl
  | ok amount =>
      show (Rules.order type card otherCard >>= fun order => Except.ok (Movement.mk amount order)) = _
      rw [horder]
      rfl

theorem movement_deposit (hcard : card.IsSound) :
    rules.movement (.deposit value card) =
      rules.amount value >>= fun amount => .ok ⟨amount, .deposit card⟩ :=
  movement_of_order .deposit hcard rfl

theorem movement_withdrawal (hcard : card.IsSound) :
    rules.movement (.withdrawal value card) =
      rules.amount value >>= fun amount => .ok ⟨amount, .withdrawal card⟩ :=
  movement_of_order .withdrawal hcard rfl

theorem movement_transfer (hcard : card.IsSound) (hother : other.IsSound) :
    rules.movement (.transfer value card other) =
      rules.amount value >>= fun amount => .ok ⟨amount, .transfer card other⟩ := by
  refine movement_of_order .transfer hcard ?_
  rw [order, CardNumber.read_toText hother]
  rfl

end

end Rules

end Cashbook
