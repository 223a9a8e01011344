/-
A store with switches for its faults.

It keeps rows as a ledger does, fails where it is told to, and counts how often it kept
and how often it let go, so that a unit of work can be watched from outside.
-/
import Cashbook.Ledger

namespace Cashbook

/-- A ledger that can be told to fail. -/
structure FaultyLedger where
  ledger : Ledger
  failsApply : Bool
  failsDiscard : Bool
  failsReads : Bool
  /-- How often a change set was kept. -/
  applied : Nat
  /-- How often a unit was let go. -/
  discarded : Nat

namespace FaultyLedger

/-- A ledger without faults so far. -/
def sound (ledger : Ledger) : FaultyLedger := ⟨ledger, false, false, false, 0, 0⟩

/-- Reads from the ledger, unless reads fail. -/
def read {α : Type} (store : FaultyLedger) (f : Ledger → α) : Outcome α :=
  if store.failsReads then .error (.storage (.external "read error")) else .ok (f store.ledger)

instance : Store FaultyLedger where
  account? store id := store.read fun ledger => ledger.accounts[id]?
  card? store number := store.read fun ledger => ledger.cards[number]?
  cardsOf store account := store.read fun ledger => ledger.cardsOf account
  transaction? store id := store.read fun ledger => ledger.transactions[id]?
  apply changes store :=
    if store.failsApply then (.error (.storage (.external "disk full")), store)
    else (.ok (), { store with ledger := store.ledger.apply changes, applied := store.applied + 1 })
  discard store :=
    if store.failsDiscard then (.error (.storage (.external "connection reset")), store)
    else (.ok (), { store with discarded := store.discarded + 1 })

end FaultyLedger

end Cashbook
