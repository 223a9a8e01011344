/-
The ledger.

A ledger is three tables: accounts, cards and transactions.  Looking something up
reads one state of them; changing something runs a statement as a unit of work, so that
a change is there as a whole or not at all.  The tables are kept in memory alone; what a
ledger on disk would add, opening, reopening and recovery, is not part of it.
-/
import Cashbook.Transaction.Filter
import Cashbook.UnitOfWork

namespace Cashbook

/-- Accounts, cards and transactions. -/
structure Ledger where
  accounts : Table AccountId Account
  cards : Table CardNumber Card
  transactions : Table TransactionId Transaction

namespace Ledger

/-- A ledger without rows. -/
def empty : Ledger := ⟨∅, ∅, ∅⟩

/-- The ledger with every change made. -/
def apply (changes : ChangeSet) (ledger : Ledger) : Ledger where
  accounts := changes.accounts.foldl Table.set ledger.accounts
  cards := changes.cards.foldl Table.set ledger.cards
  transactions := changes.transactions.foldl (fun t id row => t.insert id row) ledger.transactions

/-- The cards of an account in the order of their numbers. -/
def cardsOf (ledger : Ledger) (account : AccountId) : List Card :=
  ledger.cards.rows.filter fun card => card.account == account

instance : Store Ledger where
  account? ledger id := .ok ledger.accounts[id]?
  card? ledger number := .ok ledger.cards[number]?
  cardsOf ledger account := .ok (ledger.cardsOf account)
  transaction? ledger id := .ok ledger.transactions[id]?
  apply changes ledger := (.ok (), ledger.apply changes)
  discard ledger := (.ok (), ledger)

/-! ### Looking up -/

/-- The account with this identifier. -/
def account (ledger : Ledger) (id : AccountId) : Outcome Account :=
  match ledger.accounts[id]? with
  | some account => .ok account
  | none => .error (.notFound (.account id))

/-- The account that a card leads to. -/
def accountOfCard (ledger : Ledger) (number : CardNumber) : Outcome Account :=
  match ledger.cards[number]?.bind fun card => ledger.accounts[card.account]? with
  | some account => .ok account
  | none => .error (.notFound (.accountOfCard number))

/-- The accounts of an owner, the oldest first. -/
def accountsOf (ledger : Ledger) (owner : OwnerId) : List Account :=
  (ledger.accounts.rows.filter fun account => account.owner == owner).mergeSort
    fun a b => decide (a.createdAt ≤ b.createdAt)

/-- The card with this number. -/
def card (ledger : Ledger) (number : CardNumber) : Outcome Card :=
  match ledger.cards[number]? with
  | some card => .ok card
  | none => .error (.notFound (.card number))

/-- The cards of an account, the oldest first. -/
def cardsByAge (ledger : Ledger) (account : AccountId) : List Card :=
  (ledger.cardsOf account).mergeSort fun a b => decide (a.createdAt ≤ b.createdAt)

/-- The transaction with this identifier. -/
def transaction (ledger : Ledger) (id : TransactionId) : Outcome Transaction :=
  match ledger.transactions[id]? with
  | some tx => .ok tx
  | none => .error (.notFound (.transaction id))

/--
The transactions that a filter selects.  Those of one instant come in the order of their identifiers;
a table that is kept in no order may show them in any.
-/
def select (ledger : Ledger) (filter : Filter) : List Transaction :=
  filter.select ledger.transactions.rows

/-! ### Changing -/

/-- Runs a statement as a unit of work. -/
def execute {α : Type} (s : Statement α) (ledger : Ledger) : Outcome α × Ledger :=
  atomically s.work ledger

/-- Stores a new account. -/
def createAccount (row : Account) : Ledger → Outcome Account × Ledger :=
  execute do
    Statement.insertAccount row
    pure row

/-- Removes an account without money, and its cards. -/
def deleteAccount (id : AccountId) : Ledger → Outcome Account × Ledger :=
  execute (.deleteAccount id)

/-- Stores a new card. -/
def createCard (row : Card) : Ledger → Outcome Card × Ledger :=
  execute do
    Statement.insertCard row
    pure row

/-- Removes a card. -/
def deleteCard (number : CardNumber) : Ledger → Outcome Card × Ledger :=
  execute (.deleteCard number)

/-- Moves the money of a transaction and stores its row. -/
def record (tx : Transaction) : Ledger → Outcome Transaction × Ledger :=
  execute (.record tx)

/-- Marks a transfer as rolled back and moves its money back. -/
def rollbackTransfer (id : TransactionId) : Ledger → Outcome Transaction × Ledger :=
  execute (.reverseTransfer id)

end Ledger

end Cashbook
