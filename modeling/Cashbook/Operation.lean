/-
Operations of a replay file.

An operation is one row: what to do, who asks for it, and with which of their
accounts; what else it needs depends on the kind.
-/
import Cashbook.Decimal

namespace Cashbook

/-- The kinds of operation. -/
inductive OperationKind where
  | opening
  | deposit
  | withdrawal
  | transfer
  | rollback
  | close
deriving DecidableEq

namespace OperationKind

/-- Every kind of operation. -/
def all : List OperationKind := [.opening, .deposit, .withdrawal, .transfer, .rollback, .close]

/-- The word for a kind in a file. -/
def word : OperationKind → String
  | .opening => "open"
  | .deposit => "deposit"
  | .withdrawal => "withdrawal"
  | .transfer => "transfer"
  | .rollback => "rollback"
  | .close => "close"

/-- The name of a kind in messages. -/
def title : OperationKind → String
  | .opening => "Open"
  | .deposit => "Deposit"
  | .withdrawal => "Withdrawal"
  | .transfer => "Transfer"
  | .rollback => "Rollback"
  | .close => "Close"

/-- The kind with exactly this word. -/
def ofWord? (word : String) : Option OperationKind :=
  all.find? fun k => k.word == word

end OperationKind

/-- One row of a replay file. -/
structure Operation where
  kind : OperationKind
  /-- Who asks. -/
  user : String
  /-- The name of one of their accounts. -/
  account : String
  currency : Option String
  amount : Option Decimal
  /-- The other side of a transfer, as `user/account`. -/
  counterparty : Option String
  /-- A label for the movement, by which a later rollback names it. -/
  reference : Option String
deriving DecidableEq

end Cashbook
