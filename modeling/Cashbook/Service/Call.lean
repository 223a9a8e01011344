/-
Calls.

The service acts for callers.  Every call finds out who its caller is, looks at what
it needs, and refuses whoever does not own the account that they act for.  A call that
moves money or closes an account holds the keys of the accounts that it touches across
the change, and looks again at what it relied on once it has them.
-/
import Cashbook.Rules
import Cashbook.Service.Plan

namespace Cashbook

namespace Plan

/-! ### Accounts -/

/-- Opens an empty account of the caller. -/
def openAccount (rules : Rules) (identity : String) (request : OpeningRequest) : Plan Account := do
  let opening ← ofOutcome (rules.opening request)
  let owner ← query (.owner identity)
  query (.openAccount owner opening.name opening.currency)

/-- An account of the caller. -/
def ownedAccount (identity : String) (id : AccountId) : Plan Account := do
  let owner ← query (.owner identity)
  let account ← query (.account id)
  ofOutcome (account.ensureOwnedBy owner)
  pure account

/-- Closes an account of the caller that holds no money, and revokes its cards. -/
def closeAccount (identity : String) (id : AccountId) : Plan Account := do
  let _ ← ownedAccount identity id
  holding [id]
  query (.deleteAccount id)

/-- The accounts of the caller, the oldest first. -/
def accounts (identity : String) : Plan (List Account) := do
  let owner ← query (.owner identity)
  query (.accounts owner)

/-! ### Cards -/

/-- Issues a card for an account of the caller. -/
def issueCard (identity : String) (id : AccountId) : Plan Card := do
  let _ ← ownedAccount identity id
  let number ← query .newNumber
  query (.addCard number id)

/-- Revokes a card of an account of the caller. -/
def removeCard (identity : String) (raw : String) : Plan Card := do
  let number ← ofOutcome (CardNumber.read raw)
  let card ← query (.card number)
  let _ ← ownedAccount identity card.account
  query (.deleteCard number)

/-- The cards of an account of the caller, the oldest first. -/
def cards (identity : String) (id : AccountId) : Plan (List Card) := do
  let _ ← ownedAccount identity id
  query (.cards id)

/-! ### Transactions -/

/-- The kind of transaction that a movement comes to, given the account that the caller acts for. -/
def kindOf (movement : Movement) (account : Account) : Plan TransactionKind :=
  match movement.order with
  | .transfer _ destination => do
    ofOutcome (account.ensureCovers movement.amount)
    let other ← query (.accountOfCard destination)
    if other.currency ≠ account.currency then .fail (.currencyMismatch account.currency other.currency)
    else if other.id = account.id then .fail .selfTransfer
    else pure (.transfer account.id other.id)
  | .deposit _ => pure (.deposit account.id)
  | .withdrawal _ => do
    ofOutcome (account.ensureCovers movement.amount)
    pure (.withdrawal account.id)

/-- Looks at the accounts again, and at whether the source still covers the amount. -/
def recheck (amount : Amount) (kind : TransactionKind) : List AccountId → Plan Unit
  | [] => pure ()
  | id :: rest => do
    let account ← query (.account id)
    if kind.source? = some id then ofOutcome (account.ensureCovers amount)
    recheck amount kind rest

/-- Moves money for the caller. -/
def move (rules : Rules) (identity : String) (request : MovementRequest) : Plan Transaction := do
  let movement ← ofOutcome (rules.movement request)
  let owner ← query (.owner identity)
  let account ← query (.accountOfCard movement.order.card)
  ofOutcome (account.ensureOwnedBy owner)
  let kind ← kindOf movement account
  holding kind.accounts
  recheck movement.amount kind kind.accounts
  query (.record movement.amount kind)

/-- Moves the money of a transfer back that left an account of the caller. -/
def reverse (identity : String) (request : ReversalRequest) : Plan Transaction := do
  let id ← ofOutcome (Rules.reversal request)
  let owner ← query (.owner identity)
  let tx ← query (.transaction id)
  let (source, destination) ← ofOutcome tx.ensureReversible
  let account ← query (.account source)
  ofOutcome (account.ensureOwnedBy owner)
  holding [source, destination]
  query (.reverse id)

/-- The transactions that touch an account of the caller and meet a filter, the newest first. -/
def transactions (identity : String) (filter : Filter) : Plan (List Transaction) :=
  match filter.account with
  | some id => do
    let _ ← ownedAccount identity id
    query (.transactions filter)
  | none => do
    let owner ← query (.owner identity)
    let owned ← query (.accounts owner)
    let rows ← query (.transactions { filter with limit := none })
    let touching := rows.filter fun tx => tx.kind.accounts.any fun id => owned.any (·.id == id)
    pure ({ Filter.everything with limit := filter.limit }.select touching)

end Plan

/-- One call to the service, as its caller words it. -/
inductive Call where
  | openAccount (request : OpeningRequest)
  | closeAccount (id : AccountId)
  | issueCard (account : AccountId)
  | removeCard (number : String)
  | accounts
  | account (id : AccountId)
  | cards (account : AccountId)
  | transactions (filter : Filter)
  | move (request : MovementRequest)
  | reverse (request : ReversalRequest)
deriving DecidableEq

/-- What a call comes to. -/
inductive Reply where
  | account (row : Account)
  | card (row : Card)
  | transaction (row : Transaction)
  | accounts (rows : List Account)
  | cards (rows : List Card)
  | transactions (rows : List Transaction)
deriving DecidableEq

/-- What a call is going to do. -/
def Call.plan (rules : Rules) (identity : String) : Call → Plan Reply
  | .openAccount request => .account <$> Plan.openAccount rules identity request
  | .closeAccount id => .account <$> Plan.closeAccount identity id
  | .issueCard id => .card <$> Plan.issueCard identity id
  | .removeCard number => .card <$> Plan.removeCard identity number
  | .accounts => .accounts <$> Plan.accounts identity
  | .account id => .account <$> Plan.ownedAccount identity id
  | .cards id => .cards <$> Plan.cards identity id
  | .transactions filter => .transactions <$> Plan.transactions identity filter
  | .move request => .transaction <$> Plan.move rules identity request
  | .reverse request => .transaction <$> Plan.reverse identity request

end Cashbook
