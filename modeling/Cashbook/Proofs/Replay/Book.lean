/-
Books.

A book is what a replay comes to when everything is left out that depends on what calls get
from outside, identifiers, card numbers and times, and everything that is only remembered.
It says how much is at which address, and which references have been given away; behind each
of them may be a transfer that can still be taken back.

The work on a row is done in a book step by step as it is in a replay, but all that is said
of a step that fails is that it does.
-/
import Cashbook.Proofs.Statement.Success
import Cashbook.Replay

namespace Cashbook

/-- An account in a book. -/
structure Entry where
  currency : Currency
  balance : Balance
deriving DecidableEq

/-- What a book says of an account. -/
def Account.entry (row : Account) : Entry := ⟨row.currency, row.balance⟩

/-- A transfer in a book. -/
structure Remittance where
  amount : Amount
  source : Address
  destination : Address
deriving DecidableEq

/-- Which way money moves, by addresses. -/
inductive Route where
  | deposit (destination : Address)
  | withdrawal (source : Address)
  | transfer (source destination : Address)
deriving DecidableEq

/-- What there is at each address, and what there is behind each reference. -/
structure Book where
  entries : Table Address Entry
  /-- The references that have been given away, with the transfers that can be taken back. -/
  references : Table String (Option Remittance)

/-! ### Moving money -/

namespace Entry

/-- The balance at an address goes through `f`. -/
def rebalance (f : Balance → Outcome Balance) (address : Address) (entries : Table Address Entry) :
    Option (Table Address Entry) := do
  let entry ← entries[address]?
  let balance ← (f entry.balance).toOption
  pure (entries.insert address { entry with balance })

/-- An amount leaves one address for another. -/
def pass (amount : Amount) (source destination : Address) (entries : Table Address Entry) :
    Option (Table Address Entry) := do
  let between ← rebalance (fun balance => balance.credit amount) destination entries
  rebalance (fun balance => balance.debit amount) source between

end Entry

namespace Route

/-- An amount takes the route. -/
def follow (amount : Amount) (entries : Table Address Entry) : Route → Option (Table Address Entry)
  | .deposit destination => Entry.rebalance (fun balance => balance.credit amount) destination entries
  | .withdrawal source => Entry.rebalance (fun balance => balance.debit amount) source entries
  | .transfer source destination => do
    let payer ← entries[source]?
    let payee ← entries[destination]?
    if source ≠ destination ∧ payer.currency = payee.currency then
      Entry.pass amount source destination entries
    else none

/-- What can be taken back once an amount has taken the route. -/
def remittance? (amount : Amount) : Route → Option Remittance
  | .deposit _ | .withdrawal _ => none
  | .transfer source destination => some ⟨amount, source, destination⟩

end Route

/-! ### Rows -/

namespace Book

/-- Nothing anywhere. -/
def empty : Book := ⟨∅, ∅⟩

/-- The reference of the row may be given away, if it is to be. -/
def fresh (op : Operation) (book : Book) : Option Unit :=
  match op.reference with
  | some label => if op.kind ≠ .rollback ∧ book.references.contains label then none else some ()
  | none => some ()

/-- An address without an account gets one. -/
def add (rules : Rules) (op : Operation) (book : Book) : Option Book := do
  let currency ← op.currency
  let opening ← (rules.opening ⟨op.account, currency⟩).toOption
  pure { book with entries := book.entries.insert (Replay.addressOf op) ⟨opening.currency, .zero⟩ }

/-- An address gets an account, unless it has one. -/
def opening (rules : Rules) (op : Operation) (book : Book) : Option Book :=
  match book.entries[Replay.addressOf op]? with
  | some _ => none
  | none => book.add rules op

/-- The reference of the row, if it has one, is given away. -/
def refer (op : Operation) (remittance? : Option Remittance) (book : Book) : Book :=
  match op.reference with
  | some label => { book with references := book.references.insert label remittance? }
  | none => book

/-- Money takes a route, and the reference of the row stands for that. -/
def move (rules : Rules) (op : Operation) (value : Decimal) (route : Route) (book : Book) :
    Option Book := do
  let amount ← (rules.amount value).toOption
  let entries ← route.follow amount book.entries
  pure (refer op (route.remittance? amount) { book with entries })

/-- The other side of a transfer. -/
def counterpartyOf (op : Operation) : Option Address := do
  let raw ← op.counterparty
  (Address.parse raw).toOption

/-- A transfer of the caller is taken back, and its reference stands for nothing from then on. -/
def takeBack (op : Operation) (label : String) (remittance : Remittance) (book : Book) : Option Book :=
  if op.user = remittance.source.user then do
    let entries ← Entry.pass remittance.amount remittance.destination remittance.source book.entries
    pure { entries, references := book.references.insert label none }
  else none

/-- What a reference stands for is taken back. -/
def rollback (op : Operation) (book : Book) : Option Book := do
  let label ← op.reference
  let remittance ← book.references[label]?.join
  book.takeBack op label remittance

/-- An address loses its account, and what could be taken back from it or to it no longer can. -/
def close (op : Operation) (entry : Entry) (book : Book) : Option Book :=
  if entry.balance.isZero then
    some {
      entries := book.entries.erase (Replay.addressOf op)
      references := book.references.map fun _ remittance? => remittance?.filter fun remittance =>
        remittance.source ≠ Replay.addressOf op ∧ remittance.destination ≠ Replay.addressOf op }
  else none

/-- The work on a row. -/
def apply (rules : Rules) (op : Operation) (book : Book) : Option Book := do
  book.fresh op
  match op.kind with
  | .opening => book.opening rules op
  | .deposit => do
    let _ ← book.entries[Replay.addressOf op]?
    let value ← op.amount
    book.move rules op value (.deposit (Replay.addressOf op))
  | .withdrawal => do
    let _ ← book.entries[Replay.addressOf op]?
    let value ← op.amount
    book.move rules op value (.withdrawal (Replay.addressOf op))
  | .transfer => do
    let _ ← book.entries[Replay.addressOf op]?
    let address ← counterpartyOf op
    let _ ← book.entries[address]?
    let value ← op.amount
    book.move rules op value (.transfer (Replay.addressOf op) address)
  | .rollback => book.rollback op
  | .close => do
    let entry ← book.entries[Replay.addressOf op]?
    book.close op entry

/-- The work on a row that may not have been read. -/
def enter (rules : Rules) (row : Except Csv.Fault Operation) (book : Book) : Option Book :=
  match row with
  | .ok op => book.apply rules op
  | .error _ => none

/-! ### Files -/

/-- The rows that are entered, in their order, and the book after them. -/
def enterAll (rules : Rules) : List (Except Csv.Fault Operation) → Book →
    List (Except Csv.Fault Operation) × Book
  | [], book => ([], book)
  | row :: rest, book =>
    match book.enter rules row with
    | some next =>
      let (entered, last) := enterAll rules rest next
      (row :: entered, last)
    | none => enterAll rules rest book

/-- The rows that are entered are entered again by themselves, and come to the same. -/
theorem enterAll_entered (rules : Rules) (rows : List (Except Csv.Fault Operation)) (book : Book) :
    enterAll rules (enterAll rules rows book).1 book = enterAll rules rows book := by
  induction rows generalizing book with
  | nil => rfl
  | cons row rest ih =>
      rw [enterAll]
      cases hrow : book.enter rules row with
      | none => exact ih book
      | some next =>
          simp only [enterAll, hrow, ih next]

/-- The rows of the report. -/
def rows (book : Book) : List Csv.BalanceRow :=
  book.entries.toList.map fun (address, entry) =>
    ⟨address.user, address.account, entry.currency, entry.balance.value⟩

end Book

end Cashbook
