/-
The checks that a value passes on its way into the ledger.

Texts become currencies, kinds, identifiers and card numbers here, and decimals
become amounts and balances; a change to a balance is checked for cover and for
range.  Each check names the rule that it found broken.
-/
import Cashbook.Failure

namespace Cashbook

/-- The currency that a text names. -/
def Currency.parse (raw : String) : Outcome Currency :=
  match ofText? raw with
  | some currency => .ok currency
  | none => .error (.invalid (.unknownCurrency raw))

/-- The kind of transaction that a text names. -/
def TransactionType.parse (raw : String) : Outcome TransactionType :=
  match ofText? raw with
  | some type => .ok type
  | none => .error (.invalid (.unknownType raw))

/-- The identifier that a text writes. -/
def Id.parse {kind : IdKind} (raw : String) : Outcome (Id kind) :=
  match Id.ofText? raw with
  | some id => .ok id
  | none => .error (.invalid (.malformedId kind raw))

/-- The card number that a text writes. -/
def CardNumber.read (raw : String) : Outcome CardNumber :=
  match parse raw with
  | .ok number => .ok number
  | .error fault => .error (.invalid (.badCard fault))

/-! ### Money -/

/-- The amount of this value. -/
def Amount.make (value : Decimal) : Outcome Amount :=
  match ofDecimal? value with
  | some amount => .ok amount
  | none => .error (.invalid .amountNotPositive)

namespace Balance

/-- The balance of this value. -/
def make (value : Decimal) : Outcome Balance :=
  match ofDecimal? value with
  | some balance => .ok balance
  | none => .error (.invalid .balanceNegative)

/-- The balance after an amount came in. -/
def credit (b : Balance) (a : Amount) : Outcome Balance :=
  match b.credit? a with
  | some balance => .ok balance
  | none => .error (.invalid .balanceOverflow)

/-- The balance after an amount went out. -/
def debit (b : Balance) (a : Amount) : Outcome Balance :=
  if covered : b.Covers a then
    match b.debit? a covered with
    | some balance => .ok balance
    | none => .error (.invalid .balanceOverflow)
  else .error (.insufficientFunds a.value b.value)

end Balance

/-! ### Accounts -/

namespace Account

/-- The account after an amount came in. -/
def deposit (account : Account) (amount : Amount) : Outcome Account :=
  (account.balance.credit amount).map fun balance => { account with balance }

/-- The account after an amount went out. -/
def withdraw (account : Account) (amount : Amount) : Outcome Account :=
  (account.balance.debit amount).map fun balance => { account with balance }

/-- Refuses anyone but the owner. -/
def ensureOwnedBy (account : Account) (owner : OwnerId) : Outcome Unit :=
  if account.owner = owner then .ok () else .error (.forbidden (.foreignAccount account.id))

/-- Refuses an amount that could not go out. -/
def ensureCovers (account : Account) (amount : Amount) : Outcome Unit :=
  (account.balance.debit amount).map fun _ => ()

end Account

/-! ### Transactions -/

namespace Transaction

/-- The two accounts of a transfer that may still be reversed. -/
def ensureReversible (tx : Transaction) : Outcome (AccountId × AccountId) :=
  match tx.kind with
  | .transfer source destination =>
    if tx.rolledBack then .error (.alreadyRolledBack tx.id) else .ok (source, destination)
  | .deposit _ | .withdrawal _ => .error (.notReversible tx.id)

/-- The row with its flag set, if it may still be reversed. -/
def markRolledBack (tx : Transaction) : Outcome Transaction :=
  tx.ensureReversible.map fun _ => { tx with rolledBack := true }

end Transaction

end Cashbook
