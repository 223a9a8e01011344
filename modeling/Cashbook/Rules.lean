/-
What a request must look like.

The rules look at a request alone: they turn it into a movement, an identifier or an
opening, or say which rule it breaks.  The amount comes first, then the kind, then the
cards.
-/
import Cashbook.Request
import Cashbook.Settings

namespace Cashbook

/-- The limits that requests are held to. -/
structure Rules where
  /-- The least amount that may be moved. -/
  least : Decimal
  /-- The most decimal places of an amount. -/
  places : Nat
  /-- The most characters of a name. -/
  nameLength : Nat
deriving DecidableEq

namespace Rules

/-- The limits that the settings give. -/
def ofSettings (s : Settings) : Rules :=
  ⟨s.minAmount, s.maxAmountPlaces, s.maxNameLength⟩

/-- An amount that may be moved. -/
def amount (rules : Rules) (value : Decimal) : Outcome Amount := do
  let amount ← Amount.make value
  if value < rules.least then throw (.invalid (.amountBelow rules.least))
  if rules.places < value.normalize.scale then throw (.invalid (.amountTooFine rules.places))
  pure amount

/-- The order that a kind and its cards give. -/
def order (type : TransactionType) (card : CardNumber) (otherCard : Option String) :
    Outcome Order :=
  match type, otherCard with
  | .transfer, some other => (CardNumber.read other).map (Order.transfer card)
  | .transfer, none => .error (.invalid .destinationRequired)
  | .deposit, none => .ok (.deposit card)
  | .withdrawal, none => .ok (.withdrawal card)
  | type, some _ => .error (.invalid (.destinationUnexpected type))

/-- The movement that a request means. -/
def movement (rules : Rules) (request : MovementRequest) : Outcome Movement := do
  let amount ← rules.amount request.amount
  let type ← TransactionType.parse request.type
  let card ← CardNumber.read request.card
  let order ← order type card request.otherCard
  pure ⟨amount, order⟩

/-- The transaction that a request for a reversal names. -/
def reversal (request : ReversalRequest) : Outcome TransactionId :=
  Id.parse request.transaction

/-- The opening that a request means. -/
def opening (rules : Rules) (request : OpeningRequest) : Outcome Opening := do
  let name := Text.trim request.name
  if name.isEmpty then throw (.invalid .nameRequired)
  if rules.nameLength < name.length then throw (.invalid (.nameTooLong rules.nameLength))
  let currency ← Currency.parse request.currency
  pure ⟨name, currency⟩

end Rules

end Cashbook
