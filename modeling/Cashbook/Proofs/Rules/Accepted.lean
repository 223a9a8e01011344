/-
Which requests for a movement are accepted.

A request has four parts, and each is held to a rule of its own, but for the second card: whether
it must be there depends on the kind.  The rules speak of what the parts mean.  So zeros at the end
of an amount do not matter to the number of its places, nor case and white space to the name of a
kind, nor white space to a card; and a request that breaks no rule means one movement.
-/
import Cashbook.Proofs.Card.Number
import Cashbook.Proofs.Decimal.Normal
import Cashbook.Proofs.Rules

namespace Cashbook

/-! ### Names of kinds -/

namespace TransactionType

variable {type : TransactionType} {text : String}

/-- The text is the name of the kind, in either case and with white space around it. -/
def IsNamedBy (type : TransactionType) (text : String) : Prop :=
  (Text.trim text).map Char.toLower = type.name

theorem ofName?_eq_some_iff {name : String} : ofName? name = some type ↔ name = type.name := by
  constructor
  · intro h
    have hfound := List.find?_some h
    exact (beq_iff_eq.1 hfound).symm
  · rintro rfl
    cases type <;> rfl

theorem parse_ok_iff : parse text = .ok type ↔ type.IsNamedBy text := by
  rw [IsNamedBy, ← ofName?_eq_some_iff]
  unfold parse
  change _ ↔ ofText? text = some type
  cases ofText? text <;> simp

end TransactionType

theorem CardNumber.read_ok_iff {raw : String} {n : CardNumber} :
    read raw = .ok n ↔ n.toText.toList = Text.unspaced raw ∧ n.IsSound := by
  rw [← parse_ok_iff, read]
  cases parse raw <;> simp

theorem CardNumber.exists_read_iff {raw : String} : (∃ n, read raw = .ok n) ↔ IsWritten raw := by
  simp only [read_ok_iff, ← parse_ok_iff, exists_parse_iff]

/-! ### Refusals -/

/-- If this fails, it is because a rule is broken. -/
def Outcome.OnlyObjects {α : Type} (outcome : Outcome α) : Prop :=
  ∀ failure, outcome = .error failure → ∃ objection, failure = .invalid objection

namespace Outcome.OnlyObjects

variable {α β : Type} {outcome : Outcome α}

theorem ok (value : α) : OnlyObjects (.ok value) := nofun

theorem invalid (objection : Objection) : OnlyObjects (.error (.invalid objection) : Outcome α) := by
  intro failure h
  exact ⟨objection, (Except.error.inj h).symm⟩

theorem bind {f : α → Outcome β} (h : outcome.OnlyObjects) (hf : ∀ value, (f value).OnlyObjects) :
    (outcome >>= f).OnlyObjects := by
  cases outcome with
  | ok value => exact hf value
  | error failure =>
      rintro _ hfailure
      cases hfailure
      exact h failure rfl

end Outcome.OnlyObjects

namespace Rules

open Outcome (OnlyObjects)

variable {rules : Rules}

theorem onlyObjects_amount (value : Decimal) : (rules.amount value).OnlyObjects := by
  rw [amount_eq]
  apply OnlyObjects.bind
  · rw [Amount.make]
    split
    · exact .ok _
    · exact .invalid _
  · intro amount
    split
    · exact .invalid _
    split
    · exact .invalid _
    · exact .ok _

theorem onlyObjects_parse (text : String) : (TransactionType.parse text).OnlyObjects := by
  rw [TransactionType.parse]
  split
  · exact .ok _
  · exact .invalid _

theorem onlyObjects_read (text : String) : (CardNumber.read text).OnlyObjects := by
  rw [CardNumber.read]
  split
  · exact .ok _
  · exact .invalid _

theorem onlyObjects_order (type : TransactionType) (card : CardNumber) (otherCard : Option String) :
    (order type card otherCard).OnlyObjects := by
  unfold order
  split
  · exact (onlyObjects_read _).bind fun _ => .ok _
  · exact .invalid _
  · exact .ok _
  · exact .ok _
  · exact .invalid _

theorem onlyObjects_movement (request : MovementRequest) : (rules.movement request).OnlyObjects :=
  (onlyObjects_amount _).bind fun _ => (onlyObjects_parse _).bind fun _ => (onlyObjects_read _).bind fun _ =>
    (onlyObjects_order _ _ _).bind fun _ => .ok _

/-! ### What is accepted -/

/-- A request keeps to every rule, if it is for a movement of this kind. -/
structure IsWellShaped (settings : Settings) (request : MovementRequest) (type : TransactionType) : Prop where
  positive : 0 < request.amount.value
  enough : settings.minAmount.value ≤ request.amount.value
  /-- With so many places the amount can be written in full. -/
  short : ∃ whole : ℤ, request.amount.value * 10 ^ settings.maxAmountPlaces = whole
  named : type.IsNamedBy request.type
  card : CardNumber.IsWritten request.card
  otherCard : if type = .transfer then ∃ text, request.otherCard = some text ∧ CardNumber.IsWritten text
    else request.otherCard = none

/-- A movement is what a request means. -/
structure IsMeant (request : MovementRequest) (movement : Movement) : Prop where
  amount : movement.amount.value = request.amount
  type : movement.order.type.IsNamedBy request.type
  card : movement.order.card.toText.toList = Text.unspaced request.card
  otherCard : movement.order.otherCard?.map (·.toText.toList) = request.otherCard.map Text.unspaced

/-- A request is accepted as a movement if its parts are those of the movement, each by its rule. -/
theorem movement_ok_iff_parts {request : MovementRequest} {movement : Movement} :
    rules.movement request = .ok movement ↔
      (movement.amount.value = request.amount ∧ rules.least ≤ request.amount ∧
        request.amount.normalize.scale ≤ rules.places) ∧
      movement.order.type.IsNamedBy request.type ∧
      CardNumber.read request.card = .ok movement.order.card ∧
      Option.Rel (fun text number => CardNumber.read text = .ok number) request.otherCard
        movement.order.otherCard? := by
  rw [movement_ok_iff]
  simp only [amount_ok_iff, TransactionType.parse_ok_iff, order_ok_iff]
  constructor
  · rintro ⟨type, card, hamount, htype, hcard, rfl, rfl, hother⟩
    exact ⟨hamount, htype, hcard, hother⟩
  · rintro ⟨hamount, htype, hcard, hother⟩
    exact ⟨_, _, hamount, htype, hcard, rfl, rfl, hother⟩

/-- Whether there is to be another card is a matter of the kind. -/
theorem otherCard_iff {type : TransactionType} (card : CardNumber) {otherCard : Option String} :
    (∃ order : Order, order.type = type ∧ order.card = card ∧
      Option.Rel (fun text number => CardNumber.read text = .ok number) otherCard order.otherCard?) ↔
    if type = .transfer then ∃ text, otherCard = some text ∧ CardNumber.IsWritten text
    else otherCard = none := by
  constructor
  · rintro ⟨order, rfl, rfl, hother⟩
    cases order with
    | transfer source destination =>
        rw [Order.type, if_pos rfl]
        cases hother with
        | some hread => exact ⟨_, rfl, CardNumber.exists_read_iff.1 ⟨_, hread⟩⟩
    | deposit card | withdrawal card =>
        cases hother
        rfl
  · intro h
    cases type with
    | transfer =>
        obtain ⟨text, rfl, htext⟩ := h
        obtain ⟨other, hread⟩ := CardNumber.exists_read_iff.2 htext
        exact ⟨.transfer card other, rfl, rfl, .some hread⟩
    | deposit => exact ⟨.deposit card, rfl, rfl, h ▸ .none⟩
    | withdrawal => exact ⟨.withdrawal card, rfl, rfl, h ▸ .none⟩

theorem isMeant_of_movement {request : MovementRequest} {movement : Movement}
    (h : rules.movement request = .ok movement) : IsMeant request movement := by
  obtain ⟨⟨hamount, -, -⟩, htype, hcard, hother⟩ := movement_ok_iff_parts.1 h
  refine ⟨hamount, htype, (CardNumber.read_ok_iff.1 hcard).1, ?_⟩
  revert hother
  generalize request.otherCard = text, movement.order.otherCard? = number
  intro hother
  cases hother with
  | none => rfl
  | some hread => exact congrArg some (CardNumber.read_ok_iff.1 hread).1

theorem exists_movement_iff {settings : Settings} {request : MovementRequest} :
    (∃ movement, (ofSettings settings).movement request = .ok movement) ↔
      ∃ type, IsWellShaped settings request type := by
  constructor
  · rintro ⟨movement, h⟩
    obtain ⟨⟨hamount, hleast, hplaces⟩, htype, hcard, hother⟩ := movement_ok_iff_parts.1 h
    refine ⟨movement.order.type, ?_, Decimal.value_le_value_iff.2 hleast,
      Decimal.scale_normalize_le_iff.1 hplaces, htype, CardNumber.exists_read_iff.1 ⟨_, hcard⟩,
      (otherCard_iff _).1 ⟨movement.order, rfl, rfl, hother⟩⟩
    rw [← hamount, Decimal.value_pos_iff]
    exact movement.amount.pos
  · rintro ⟨type, hshape⟩
    obtain ⟨card, hcard⟩ := CardNumber.exists_read_iff.2 hshape.card
    obtain ⟨order, rfl, rfl, hother⟩ := (otherCard_iff card).2 hshape.otherCard
    refine ⟨⟨⟨request.amount, Decimal.value_pos_iff.1 hshape.positive⟩, order⟩, ?_⟩
    exact movement_ok_iff_parts.2 ⟨⟨rfl, Decimal.value_le_value_iff.1 hshape.enough,
      Decimal.scale_normalize_le_iff.2 hshape.short⟩, hshape.named, hcard, hother⟩

/--
**A request for a movement is accepted if and only if it keeps to the rules**, whatever the settings.
What it is accepted as has the amount, the kind and the cards that the request gives; and if it is
refused, that is because it breaks a rule.
-/
theorem well_shaped_iff_accepted (settings : Settings) (request : MovementRequest) :
    ((∃ movement, (ofSettings settings).movement request = .ok movement) ↔
      ∃ type, IsWellShaped settings request type) ∧
    (∀ movement, (ofSettings settings).movement request = .ok movement → IsMeant request movement) ∧
    ∀ failure, (ofSettings settings).movement request = .error failure →
      ∃ objection, failure = .invalid objection :=
  ⟨exists_movement_iff, fun _ => isMeant_of_movement, onlyObjects_movement request⟩

end Rules

/-! ### Zeros, case and white space that do not matter -/

namespace Sample

/-- A deposit of one and a half, written with five places. -/
def loose : MovementRequest :=
  ⟨⟨150000, 5, by decide, by decide⟩, " Deposit\n", "4111 1111 1111 1111", none⟩

theorem loose_value : loose.amount.value = 3 / 2 := by norm_num [loose, Decimal.value]

theorem standard_minAmount_value : Settings.standard.minAmount.value = 1 / 100 := by
  norm_num [Settings.standard, Decimal.value]

end Sample

namespace Rules

theorem well_shaped_iff_accepted_sample :
    ∃ movement, (ofSettings .standard).movement Sample.loose = .ok movement ∧
      movement.amount.value = Sample.loose.amount := by
  have hshape : IsWellShaped .standard Sample.loose .deposit := {
    positive := by norm_num [Sample.loose_value]
    enough := by norm_num [Sample.loose_value, Sample.standard_minAmount_value]
    short := ⟨150, by norm_num [Sample.loose_value, Settings.standard]⟩
    named := by unfold TransactionType.IsNamedBy; decide +kernel
    card := by decide +kernel
    otherCard := rfl }
  obtain ⟨haccepted, hmeant, -⟩ := well_shaped_iff_accepted .standard Sample.loose
  obtain ⟨movement, hmovement⟩ := haccepted.2 ⟨.deposit, hshape⟩
  exact ⟨movement, hmovement, (hmeant movement hmovement).amount⟩

end Rules

end Cashbook
