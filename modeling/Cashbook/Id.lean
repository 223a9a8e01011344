/-
Identifiers of the things a ledger keeps apart.

Accounts, owners and transactions all carry a universally unique identifier; the kind
is part of the type, so that one cannot be taken for another.
-/
import Cashbook.Text.Blank
import Cashbook.Uuid

namespace Cashbook

/-- What an identifier identifies. -/
inductive IdKind where
  | account
  | owner
  | transaction
deriving DecidableEq

/-- An identifier of one kind of thing. -/
structure Id (kind : IdKind) where
  uuid : Uuid
deriving DecidableEq

/-- The identifier of an account. -/
abbrev AccountId := Id .account

/-- The identifier of an owner of accounts. -/
abbrev OwnerId := Id .owner

/-- The identifier of a transaction. -/
abbrev TransactionId := Id .transaction

/-- How messages call an identifier of this kind. -/
def IdKind.label : IdKind → String
  | .account => "account id"
  | .owner => "owner id"
  | .transaction => "transaction id"

namespace Id

variable {kind : IdKind}

/-- Identifiers are ordered as the numbers that they write. -/
instance : Ord (Id kind) := ⟨compareOn uuid⟩

instance : Std.TransOrd (Id kind) := inferInstanceAs (Std.TransCmp (compareOn uuid))

instance : Std.LawfulEqOrd (Id kind) where
  compare_self {a} := (Std.ReflCmp.compare_self : compare a.uuid a.uuid = .eq)
  eq_of_compare {a b} h := by
    have hu : a.uuid = b.uuid := Std.compare_eq_iff_eq.1 (show compare a.uuid b.uuid = .eq from h)
    cases a; cases b; exact congrArg Id.mk hu

/-- The text of an identifier. -/
def toText (id : Id kind) : String := id.uuid.toText

/-- The identifier that a text writes, white space around it aside. -/
def ofText? (text : String) : Option (Id kind) :=
  (Uuid.ofText? (Text.trim text)).map Id.mk

end Id

end Cashbook
