/-
Statements.

A statement is a small program over the rows of a ledger: it looks rows up, writes
them, and may fail in between.  It does not say where rows are kept.  Whoever runs it
decides whether a write goes to a table at once or waits beside it.

The statements below are the ones that a ledger is changed by.  `record` and
`reverseTransfer` move money; both add to one account before they take from the other,
and both count on being undone as a whole when a later step fails.
-/
import Cashbook.Checks

namespace Cashbook

/-- A program over rows that comes to an `α` or fails. -/
inductive Statement (α : Type) : Type where
  | done (value : α)
  | fail (failure : Failure)
  | account (id : AccountId) (next : Option Account → Statement α)
  | card (number : CardNumber) (next : Option Card → Statement α)
  | transaction (id : TransactionId) (next : Option Transaction → Statement α)
  /-- Stores the account, or removes it. -/
  | setAccount (id : AccountId) (row : Option Account) (next : Statement α)
  /-- Stores the card, or removes it. -/
  | setCard (number : CardNumber) (row : Option Card) (next : Statement α)
  | setTransaction (id : TransactionId) (row : Transaction) (next : Statement α)
  /-- Removes every card of an account. -/
  | dropCards (account : AccountId) (next : Statement α)

namespace Statement

variable {α β : Type}

/-- One statement after another. -/
def bind (s : Statement α) (f : α → Statement β) : Statement β :=
  match s with
  | .done value => f value
  | .fail failure => .fail failure
  | .account id next => .account id fun row => (next row).bind f
  | .card number next => .card number fun row => (next row).bind f
  | .transaction id next => .transaction id fun row => (next row).bind f
  | .setAccount id row next => .setAccount id row (next.bind f)
  | .setCard number row next => .setCard number row (next.bind f)
  | .setTransaction id row next => .setTransaction id row (next.bind f)
  | .dropCards owner next => .dropCards owner (next.bind f)

instance : Monad Statement where
  pure := .done
  bind := bind

/-- Goes on with a value that has been worked out already. -/
def ofOutcome : Outcome α → Statement α
  | .ok value => .done value
  | .error failure => .fail failure

/-- Looks an account up. -/
def findAccount (id : AccountId) : Statement (Option Account) := .account id .done

/-- Looks a card up. -/
def findCard (number : CardNumber) : Statement (Option Card) := .card number .done

/-- Looks a transaction up. -/
def findTransaction (id : TransactionId) : Statement (Option Transaction) := .transaction id .done

/-- Stores an account under its identifier. -/
def putAccount (row : Account) : Statement Unit := .setAccount row.id (some row) (.done ())

/-- Stores a transaction under its identifier. -/
def putTransaction (row : Transaction) : Statement Unit := .setTransaction row.id row (.done ())

/-! ### Accounts -/

/-- An account that must exist. -/
def requireAccount (id : AccountId) : Statement Account := do
  match ← findAccount id with
  | some found => pure found
  | none => .fail (.notFound (.account id))

/-- Stores a new account. -/
def insertAccount (row : Account) : Statement Unit := do
  match ← findAccount row.id with
  | some _ => .fail (.alreadyExists (.account row.id))
  | none => putAccount row

/-- Removes an account without money, and its cards. -/
def deleteAccount (id : AccountId) : Statement Account := do
  let row ← requireAccount id
  if row.balance.isZero then
    .dropCards id (.setAccount id none (.done row))
  else .fail (.invalid (.accountNotEmpty id row.balance row.currency))

/-- Adds an amount to the balance of an account. -/
def addBalance (id : AccountId) (amount : Amount) : Statement Account := do
  let row ← requireAccount id
  let row ← ofOutcome (row.deposit amount)
  .setAccount id (some row) (.done row)

/-- Takes an amount from the balance of an account, which must cover it. -/
def subtractBalance (id : AccountId) (amount : Amount) : Statement Account := do
  let row ← requireAccount id
  let row ← ofOutcome (row.withdraw amount)
  .setAccount id (some row) (.done row)

/-! ### Cards -/

/-- Stores a new card of an account that must exist. -/
def insertCard (row : Card) : Statement Unit := do
  let _ ← requireAccount row.account
  match ← findCard row.number with
  | some _ => .fail (.alreadyExists (.card row.number))
  | none => .setCard row.number (some row) (.done ())

/-- Removes a card. -/
def deleteCard (number : CardNumber) : Statement Card := do
  match ← findCard number with
  | some found => .setCard number none (.done found)
  | none => .fail (.notFound (.card number))

/-! ### Transactions -/

/-- Stores a new transaction. -/
def insertTransaction (row : Transaction) : Statement Unit := do
  match ← findTransaction row.id with
  | some _ => .fail (.alreadyExists (.transaction row.id))
  | none => putTransaction row

/-- Marks a transfer as rolled back, once. -/
def markRolledBack (id : TransactionId) : Statement Transaction := do
  match ← findTransaction id with
  | some tx =>
    let marked ← ofOutcome tx.markRolledBack
    .setTransaction id marked (.done marked)
  | none => .fail (.notFound (.transaction id))

/-- Moves the money of a transaction. -/
def move (kind : TransactionKind) (amount : Amount) : Statement Unit := do
  match kind with
  | .transfer source destination =>
    if source = destination then .fail .selfTransfer
    else
      let payer ← requireAccount source
      let payee ← requireAccount destination
      if payer.currency = payee.currency then
        let _ ← addBalance destination amount
        let _ ← subtractBalance source amount
        pure ()
      else .fail (.currencyMismatch payer.currency payee.currency)
  | .deposit destination =>
    let _ ← addBalance destination amount
    pure ()
  | .withdrawal source =>
    let _ ← subtractBalance source amount
    pure ()

/-- Moves the money of a transaction and stores its row. -/
def record (tx : Transaction) : Statement Transaction := do
  move tx.kind tx.amount
  insertTransaction tx
  pure tx

/-- Marks a transfer as rolled back and moves its money back. -/
def reverseTransfer (id : TransactionId) : Statement Transaction := do
  let tx ← markRolledBack id
  match tx.kind with
  | .transfer source destination =>
    let _ ← addBalance source tx.amount
    let _ ← subtractBalance destination tx.amount
    pure tx
  | .deposit _ | .withdrawal _ => .fail (.notReversible id)

end Statement

end Cashbook
