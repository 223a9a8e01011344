/-
Accounts and cards.

An account holds money of one currency for one owner.  A card is a number that leads
to an account.
-/
import Cashbook.Card.Number
import Cashbook.Currency
import Cashbook.Id
import Cashbook.Instant
import Cashbook.Money

namespace Cashbook

/-- An account.  Only its balance ever changes. -/
structure Account where
  id : AccountId
  owner : OwnerId
  name : String
  currency : Currency
  balance : Balance
  createdAt : Instant
deriving DecidableEq

/-- A card that leads to an account. -/
structure Card where
  number : CardNumber
  account : AccountId
  createdAt : Instant
deriving DecidableEq

/-- An account of this owner without money. -/
def Account.opened (id : AccountId) (owner : OwnerId) (name : String) (currency : Currency)
    (createdAt : Instant) : Account :=
  ⟨id, owner, name, currency, .zero, createdAt⟩

end Cashbook
