/-
What a call may ask of the bank.

A query is one question or one change, answered as a whole while nothing else happens.
Whatever a change needs from outside, an identifier, a card number or the time, comes
from a stamp.
-/
import Cashbook.Ledger
import Cashbook.Registry

namespace Cashbook

/-- A ledger and the callers it serves. -/
structure Bank where
  ledger : Ledger
  registry : Registry

/-- What one call gets from outside. -/
structure Stamp where
  /-- The identifier of the account that it opens. -/
  account : AccountId
  /-- The identifier of the transaction that it records. -/
  transaction : TransactionId
  /-- The number of the card that it issues. -/
  card : CardNumber
  /-- The time of what it stores. -/
  time : Instant
deriving DecidableEq

/-- The stamp of the `n`-th call where everything is counted on from a seed. -/
def Stamp.series (seed n : Nat) : Stamp where
  account := ⟨.versioned 4 (seed + n)⟩
  transaction := ⟨.versioned 4 (seed + n)⟩
  card := .ofSerial (seed + n)
  time := .ofMillis n

/-- One question to the bank, or one change of it. -/
inductive Query where
  /-- Who a caller is. -/
  | owner (identity : String)
  | account (id : AccountId)
  /-- The account that a card leads to. -/
  | accountOfCard (number : CardNumber)
  /-- The accounts of an owner, the oldest first. -/
  | accounts (owner : OwnerId)
  | card (number : CardNumber)
  /-- The cards of an account, the oldest first. -/
  | cards (account : AccountId)
  | transaction (id : TransactionId)
  /-- The transactions that a filter selects. -/
  | transactions (filter : Filter)
  /-- A number for a new card. -/
  | newNumber
  | openAccount (owner : OwnerId) (name : String) (currency : Currency)
  | deleteAccount (id : AccountId)
  | addCard (number : CardNumber) (account : AccountId)
  | deleteCard (number : CardNumber)
  /-- Moves money and stores the row. -/
  | record (amount : Amount) (kind : TransactionKind)
  /-- Moves the money of a transfer back. -/
  | reverse (id : TransactionId)

namespace Query

/-- What the answer to a query is. -/
abbrev Answer : Query → Type
  | .owner _ => OwnerId
  | .account _ | .accountOfCard _ => Account
  | .accounts _ => List Account
  | .card _ => Card
  | .cards _ => List Card
  | .transaction _ => Transaction
  | .transactions _ => List Transaction
  | .newNumber => CardNumber
  | .openAccount .. | .deleteAccount _ => Account
  | .addCard .. | .deleteCard _ => Card
  | .record .. | .reverse _ => Transaction

/-- Whether a query asks for a change. -/
def isWrite : Query → Bool
  | .openAccount .. | .deleteAccount _ | .addCard .. | .deleteCard _ | .record .. | .reverse _ => true
  | .owner _ | .account _ | .accountOfCard _ | .accounts _ | .card _ | .cards _ | .transaction _
  | .transactions _ | .newNumber => false

/-- Whether the answer to a query takes something from a stamp. -/
def usesStamp : Query → Bool
  | .newNumber | .openAccount .. | .addCard .. | .record .. => true
  | .owner _ | .account _ | .accountOfCard _ | .accounts _ | .card _ | .cards _ | .transaction _
  | .transactions _ | .deleteAccount _ | .deleteCard _ | .reverse _ => false

end Query

namespace Bank

/-- An empty ledger that serves nobody. -/
def empty : Bank := ⟨.empty, .empty⟩

/-- The bank after a change of its ledger. -/
def change {α : Type} (f : Ledger → Outcome α × Ledger) (bank : Bank) : Outcome α × Bank :=
  let (outcome, ledger) := f bank.ledger
  (outcome, { bank with ledger })

/-- Answers a query. -/
def perform (stamp : Stamp) (bank : Bank) : (query : Query) → Outcome query.Answer × Bank
  | .owner identity => (bank.registry.resolve identity, bank)
  | .account id => (bank.ledger.account id, bank)
  | .accountOfCard number => (bank.ledger.accountOfCard number, bank)
  | .accounts owner => (.ok (bank.ledger.accountsOf owner), bank)
  | .card number => (bank.ledger.card number, bank)
  | .cards account => (.ok (bank.ledger.cardsByAge account), bank)
  | .transaction id => (bank.ledger.transaction id, bank)
  | .transactions filter => (.ok (bank.ledger.select filter), bank)
  | .newNumber => (.ok stamp.card, bank)
  | .openAccount owner name currency =>
    bank.change (Ledger.createAccount (.opened stamp.account owner name currency stamp.time))
  | .deleteAccount id => bank.change (Ledger.deleteAccount id)
  | .addCard number account => bank.change (Ledger.createCard ⟨number, account, stamp.time⟩)
  | .deleteCard number => bank.change (Ledger.deleteCard number)
  | .record amount kind =>
    bank.change (Ledger.record ⟨stamp.transaction, amount, kind, false, stamp.time⟩)
  | .reverse id => bank.change (Ledger.rollbackTransfer id)

end Bank

end Cashbook
