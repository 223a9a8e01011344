/-
Transactions.

A transaction is the record of money that moved: between two accounts, into one, or
out of one.  Once stored it changes in one respect only: a transfer may be marked as
rolled back.
-/
import Cashbook.Account

namespace Cashbook

/-- The kinds of transaction. -/
inductive TransactionType where
  | transfer
  | deposit
  | withdrawal
deriving DecidableEq

namespace TransactionType

/-- Every kind of transaction. -/
def all : List TransactionType := [.transfer, .deposit, .withdrawal]

/-- The name of a kind of transaction. -/
def name : TransactionType → String
  | .transfer => "transfer"
  | .deposit => "deposit"
  | .withdrawal => "withdrawal"

/-- The kind with exactly this name. -/
def ofName? (name : String) : Option TransactionType :=
  all.find? fun t => t.name == name

/-- The kind that a text names, in either case and with white space around it. -/
def ofText? (text : String) : Option TransactionType :=
  ofName? ((Text.trim text).map Char.toLower)

end TransactionType

/-- The accounts that a transaction moved money between. -/
inductive TransactionKind where
  | transfer (source destination : AccountId)
  | deposit (destination : AccountId)
  | withdrawal (source : AccountId)
deriving DecidableEq

namespace TransactionKind

/-- Which kind it is, without the accounts. -/
def type : TransactionKind → TransactionType
  | .transfer .. => .transfer
  | .deposit .. => .deposit
  | .withdrawal .. => .withdrawal

/-- The account that the money left. -/
def source? : TransactionKind → Option AccountId
  | .transfer source _ => some source
  | .deposit _ => none
  | .withdrawal source => some source

/-- The account that the money reached. -/
def destination? : TransactionKind → Option AccountId
  | .transfer _ destination => some destination
  | .deposit destination => some destination
  | .withdrawal _ => none

/-- The accounts whose balance the transaction touches, the source first. -/
def accounts (kind : TransactionKind) : List AccountId :=
  kind.source?.toList ++ kind.destination?.toList

/-- Whether the transaction touches the account. -/
def Involves (kind : TransactionKind) (account : AccountId) : Prop :=
  kind.source? = some account ∨ kind.destination? = some account

instance (kind : TransactionKind) (account : AccountId) : Decidable (kind.Involves account) :=
  inferInstanceAs (Decidable (_ ∨ _))

theorem mem_accounts_iff {kind : TransactionKind} {account : AccountId} :
    account ∈ kind.accounts ↔ kind.Involves account := by
  cases kind <;> simp [accounts, Involves, source?, destination?, eq_comm]

end TransactionKind

/-- The record of money that moved. -/
structure Transaction where
  id : TransactionId
  amount : Amount
  kind : TransactionKind
  rolledBack : Bool
  createdAt : Instant
deriving DecidableEq

end Cashbook
