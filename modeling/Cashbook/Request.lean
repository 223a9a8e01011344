/-
Requests.

A request is what a caller sends, in their own words; a movement or an opening is what
it means once every word has been understood.
-/
import Cashbook.Checks

namespace Cashbook

/-- Who asks, and how many milliseconds they are willing to wait. -/
structure Caller where
  identity : String
  timeout : Option Nat
deriving DecidableEq

/-- Asks for money to be moved. -/
structure MovementRequest where
  amount : Decimal
  /-- The name of the kind of transaction. -/
  type : String
  /-- The card whose account the caller acts for. -/
  card : String
  /-- The card of the other account of a transfer. -/
  otherCard : Option String
deriving DecidableEq

namespace MovementRequest

/-- Asks for a transfer from one card's account to another's. -/
def transfer (amount : Decimal) (source destination : CardNumber) : MovementRequest :=
  ⟨amount, "transfer", source.toText, some destination.toText⟩

/-- Asks for a deposit. -/
def deposit (amount : Decimal) (card : CardNumber) : MovementRequest :=
  ⟨amount, "deposit", card.toText, none⟩

/-- Asks for a withdrawal. -/
def withdrawal (amount : Decimal) (card : CardNumber) : MovementRequest :=
  ⟨amount, "withdrawal", card.toText, none⟩

end MovementRequest

/-- Asks for a transfer to be reversed. -/
structure ReversalRequest where
  /-- The identifier of the transaction. -/
  transaction : String
deriving DecidableEq

/-- Asks for an account to be opened. -/
structure OpeningRequest where
  name : String
  currency : String
deriving DecidableEq

/-- Which way money is to move, by cards. -/
inductive Order where
  | transfer (source destination : CardNumber)
  | deposit (card : CardNumber)
  | withdrawal (card : CardNumber)
deriving DecidableEq

namespace Order

/-- The card whose account the caller acts for. -/
def card : Order → CardNumber
  | .transfer source _ => source
  | .deposit card => card
  | .withdrawal card => card

/-- The kind of transaction that is ordered. -/
def type : Order → TransactionType
  | .transfer .. => .transfer
  | .deposit _ => .deposit
  | .withdrawal _ => .withdrawal

/-- The card of the other account. -/
def otherCard? : Order → Option CardNumber
  | .transfer _ destination => some destination
  | .deposit _ | .withdrawal _ => none

end Order

/-- A request for money to be moved that has been understood. -/
structure Movement where
  amount : Amount
  order : Order
deriving DecidableEq

/-- A request for an account that has been understood. -/
structure Opening where
  name : String
  currency : Currency
deriving DecidableEq

end Cashbook
