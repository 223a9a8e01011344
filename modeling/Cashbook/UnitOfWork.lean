/-
Units of work.

A unit of work runs its body against a store without touching it: what is written
waits in a change set, and what is read is looked up there first.  When the body comes
to a value the whole change set is handed to the store at once; when it fails nothing
is, and the store is told to let go of whatever it had set aside.

A body that fails part of the way leaves its earlier writes in the change set.  That
is harmless under `atomically`, which drops them, and visible to whoever goes on with
the same unit.
-/
import Cashbook.Statement
import Cashbook.Table

namespace Cashbook

/-- Writes that wait to be kept; `none` stands for a removal. -/
structure ChangeSet where
  accounts : Table AccountId (Option Account)
  cards : Table CardNumber (Option Card)
  transactions : Table TransactionId Transaction

namespace ChangeSet

/-- No writes. -/
def empty : ChangeSet := ⟨∅, ∅, ∅⟩

/-- Whether there are no writes. -/
def isEmpty (c : ChangeSet) : Bool :=
  c.accounts.isEmpty && c.cards.isEmpty && c.transactions.isEmpty

/-- The cards of an account among the writes. -/
def cardsOf (c : ChangeSet) (account : AccountId) : List Card :=
  (c.cards.rows.filterMap id).filter fun card => card.account == account

/-- Removes the cards. -/
def dropCards (c : ChangeSet) (cards : List Card) : ChangeSet :=
  { c with cards := cards.foldl (fun table card => table.insert card.number none) c.cards }

end ChangeSet

/-- Where rows are kept.  Reading may fail, and so may keeping a change set. -/
class Store (σ : Type) where
  account? : σ → AccountId → Outcome (Option Account)
  card? : σ → CardNumber → Outcome (Option Card)
  cardsOf : σ → AccountId → Outcome (List Card)
  transaction? : σ → TransactionId → Outcome (Option Transaction)
  /-- Keeps every change or none. -/
  apply : ChangeSet → σ → Outcome Unit × σ
  /-- Lets go of what was set aside for a unit. -/
  discard : σ → Outcome Unit × σ

/-- The body of a unit of work: it reads a store and adds to a change set. -/
abbrev Work (σ α : Type) := σ → ChangeSet → Outcome α × ChangeSet

section

variable {σ α : Type} [Store σ]

/-- The cards of an account, as a unit with these writes sees them. -/
def stagedCardsOf (store : σ) (changes : ChangeSet) (account : AccountId) :
    Outcome (List Card) :=
  (Store.cardsOf store account).map fun kept =>
    kept.filter (fun card => !changes.cards.contains card.number) ++ changes.cardsOf account

/-- Runs a statement inside a unit: reads see the change set first, writes go into it. -/
def Statement.stage (store : σ) : Statement α → ChangeSet → Outcome α × ChangeSet
  | .done value, changes => (.ok value, changes)
  | .fail failure, changes => (.error failure, changes)
  | .account id next, changes =>
    match changes.accounts[id]? with
    | some row => (next row).stage store changes
    | none =>
      match Store.account? store id with
      | .ok row => (next row).stage store changes
      | .error failure => (.error failure, changes)
  | .card number next, changes =>
    match changes.cards[number]? with
    | some row => (next row).stage store changes
    | none =>
      match Store.card? store number with
      | .ok row => (next row).stage store changes
      | .error failure => (.error failure, changes)
  | .transaction id next, changes =>
    match changes.transactions[id]? with
    | some row => (next (some row)).stage store changes
    | none =>
      match Store.transaction? store id with
      | .ok row => (next row).stage store changes
      | .error failure => (.error failure, changes)
  | .setAccount id row next, changes =>
    next.stage store { changes with accounts := changes.accounts.insert id row }
  | .setCard number row next, changes =>
    next.stage store { changes with cards := changes.cards.insert number row }
  | .setTransaction id row next, changes =>
    next.stage store { changes with transactions := changes.transactions.insert id row }
  | .dropCards owner next, changes =>
    match stagedCardsOf store changes owner with
    | .ok cards => next.stage store (changes.dropCards cards)
    | .error failure => (.error failure, changes)

/-- A statement as the body of a unit. -/
def Statement.work (s : Statement α) : Work σ α :=
  fun store changes => s.stage store changes

/-- Several bodies in one unit, each tried whatever became of those before it. -/
def Work.each (bodies : List (Work σ α)) : σ → ChangeSet → List (Outcome α) × ChangeSet :=
  fun store changes =>
    match bodies with
    | [] => ([], changes)
    | body :: rest =>
      let (outcome, changes) := body store changes
      let (outcomes, changes) := Work.each rest store changes
      (outcome :: outcomes, changes)

/-- Hands the writes of a unit to the store; a unit without writes asks nothing of it. -/
def commit (changes : ChangeSet) (store : σ) : Outcome Unit × σ :=
  if changes.isEmpty then (.ok (), store)
  else
    match Store.apply changes store with
    | (.ok (), store) => (.ok (), store)
    | (.error failure, store) => (.error (.commitFailed failure), store)

/-- Runs a body in a unit of its own: keeps its writes if it comes to a value, and none if it fails. -/
def atomically (body : Work σ α) (store : σ) : Outcome α × σ :=
  match body store .empty with
  | (.ok value, changes) =>
    match commit changes store with
    | (.ok (), store) => (.ok value, store)
    | (.error failure, store) => (.error failure, store)
  | (.error cause, _) =>
    match Store.discard store with
    | (.ok (), store) => (.error cause, store)
    | (.error failure, store) => (.error (.rollbackFailed cause failure), store)

end

end Cashbook
