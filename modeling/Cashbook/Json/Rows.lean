/-
Rows as JSON documents.

Every row can be written as a document and read back.  Identifiers, decimals,
instants and card numbers are strings; a kind of transaction names itself in the
member `type`, which may stand anywhere among the others.
-/
import Cashbook.Instant.Rfc3339
import Cashbook.Json.Decoder
import Cashbook.Json.Reader
import Cashbook.Operation
import Cashbook.Request

namespace Cashbook.Json

/-! ### Writing -/

/-- An identifier. -/
def showId {kind : IdKind} (id : Id kind) : List Char := showText id.toText

/-- A decimal, with the places of its scale. -/
def showDecimal (d : Decimal) : List Char := showText d.toText

/-- An instant. -/
def showInstant (t : Instant) : List Char := showText t.toText

/-- An account. -/
def showAccount (a : Account) : List Char :=
  showObject [("id", showId a.id), ("owner", showId a.owner), ("name", showText a.name),
    ("currency", showText a.currency.code), ("balance", showDecimal a.balance.value),
    ("created_at", showInstant a.createdAt)]

/-- A card. -/
def showCard (c : Card) : List Char :=
  showObject [("number", showText c.number.toText), ("account", showId c.account),
    ("created_at", showInstant c.createdAt)]

/-- A kind of transaction with its accounts. -/
def showKind (kind : TransactionKind) : List Char :=
  let parts : List (String × List Char) := match kind with
    | .transfer source destination =>
      [("source", showId source), ("destination", showId destination)]
    | .deposit destination => [("destination", showId destination)]
    | .withdrawal source => [("source", showId source)]
  showObject (("type", showText kind.type.name) :: parts)

/-- A transaction. -/
def showTransaction (tx : Transaction) : List Char :=
  showObject [("id", showId tx.id), ("amount", showDecimal tx.amount.value),
    ("kind", showKind tx.kind), ("rolled_back", showBool tx.rolledBack),
    ("created_at", showInstant tx.createdAt)]

/-! ### Reading values -/

/-- An identifier; white space around it is not allowed here. -/
def asId? {kind : IdKind} (value : Json) : Option (Id kind) :=
  (value.asText?.bind Uuid.ofText?).map Id.mk

/-- A currency, by its exact code. -/
def asCurrency? : Json → Option Currency := asChoice? Currency.ofCode?

/-- A kind of transaction, by its exact name. -/
def asType? : Json → Option TransactionType := asChoice? TransactionType.ofName?

/-- A positive decimal. -/
def asAmount? (value : Json) : Option Amount := value.asDecimal?.bind Amount.ofDecimal?

/-- A decimal that is not negative. -/
def asBalance? (value : Json) : Option Balance := value.asDecimal?.bind Balance.ofDecimal?

/-- A card number. -/
def asCardNumber? (value : Json) : Option CardNumber :=
  value.asText?.bind fun raw => (CardNumber.parse raw).toOption

/-- An instant. -/
def asInstant? (value : Json) : Option Instant := value.asText?.bind Instant.ofText?

/-! ### Reading rows -/

/-- An account. -/
def asAccount? (value : Json) : Option Account := do
  match ← fields? ["id", "owner", "name", "currency", "balance", "created_at"] value with
  | [id, owner, name, currency, balance, createdAt] =>
    let id ← required asId? id
    let owner ← required asId? owner
    let name ← required asText? name
    let currency ← required asCurrency? currency
    let balance ← required asBalance? balance
    let createdAt ← required asInstant? createdAt
    some { id, owner, name, currency, balance, createdAt }
  | _ => none

/-- A card. -/
def asCard? (value : Json) : Option Card := do
  match ← fields? ["number", "account", "created_at"] value with
  | [digits, account, createdAt] =>
    let digits ← required asCardNumber? digits
    let account ← required asId? account
    let createdAt ← required asInstant? createdAt
    some ⟨digits, account, createdAt⟩
  | _ => none

/-- The names of the accounts that a kind of transaction has. -/
def accountNames : TransactionType → List String
  | .transfer => ["source", "destination"]
  | .deposit => ["destination"]
  | .withdrawal => ["source"]

/-- The kind with these accounts. -/
def kindOf? (type : TransactionType) (accounts : List AccountId) : Option TransactionKind :=
  match type, accounts with
  | .transfer, [source, destination] => some (.transfer source destination)
  | .deposit, [destination] => some (.deposit destination)
  | .withdrawal, [source] => some (.withdrawal source)
  | _, _ => none

/--
A kind of transaction with its accounts, as an object or as the array of its type and
accounts.  The other members are kept until the type is known, so they must be sound and not
nested deeper than `depth`.
-/
def asKind? (depth : Nat) : Json → Option TransactionKind
  | .object members => do
    let (tags, others) := members.partition fun m => m.1 == some "type"
    match tags with
    | [(_, tag)] =>
      let type ← tag.asText?.bind TransactionType.ofName?
      if others.all fun m => m.1.isSome && m.2.isPlain depth then
        let fields ← fields? (accountNames type) (.object others)
        kindOf? type (← fields.mapM (required asId?))
      else none
    | _ => none
  | .array (tag :: others) => do
    let type ← tag.asText?.bind TransactionType.ofName?
    kindOf? type (← others.mapM asId?)
  | _ => none

/-- How deep containers may be nested inside a kind of transaction that stands alone. -/
def kindDepth : Nat := 126

/-- A transaction. -/
def asTransaction? (value : Json) : Option Transaction := do
  match ← fields? ["id", "amount", "kind", "rolled_back", "created_at"] value with
  | [id, amount, kind, rolledBack, createdAt] =>
    let id ← required asId? id
    let amount ← required asAmount? amount
    let kind ← required (asKind? (kindDepth - 1)) kind
    let rolledBack ← required asBool? rolledBack
    let createdAt ← required asInstant? createdAt
    some { id, amount, kind, rolledBack, createdAt }
  | _ => none

/-! ### Reading requests and operations -/

/-- A request for a movement. -/
def asMovementRequest? (value : Json) : Option MovementRequest := do
  match ← fields? ["amount", "type", "from_card", "to_card"] value with
  | [amount, type, card, otherCard] =>
    let amount ← required asDecimal? amount
    let type ← required asText? type
    let card ← required asText? card
    let otherCard ← optional asText? otherCard
    some { amount, type, card, otherCard }
  | _ => none

/-- A request for a reversal. -/
def asReversalRequest? (value : Json) : Option ReversalRequest := do
  match ← fields? ["transaction_id"] value with
  | [transaction] => (required asText? transaction).map ReversalRequest.mk
  | _ => none

/-- A request for an account. -/
def asOpeningRequest? (value : Json) : Option OpeningRequest := do
  match ← fields? ["name", "currency"] value with
  | [name, currency] =>
    let name ← required asText? name
    let currency ← required asText? currency
    some { name, currency }
  | _ => none

/-- An operation of a replay. -/
def asOperation? (value : Json) : Option Operation := do
  match ← fields? ["op", "user", "account", "currency", "amount", "counterparty", "reference"]
      value with
  | [kind, user, account, currency, amount, counterparty, reference] =>
    let kind ← required (asChoice? OperationKind.ofWord?) kind
    let user ← required asText? user
    let account ← required asText? account
    let currency ← optional asText? currency
    let amount ← optional asDecimal? amount
    let counterparty ← optional asText? counterparty
    let reference ← optional asText? reference
    some { kind, user, account, currency, amount, counterparty, reference }
  | _ => none

/-- The value that a text holds, if it is one document and `decode` makes sense of it. -/
def decodeText? {α : Type} (decode : Json → Option α) (text : String) : Option α :=
  (read? text.toList).bind decode

end Cashbook.Json
