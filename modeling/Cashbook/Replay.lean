/-
Replays.

A replay works through the rows of a file.  Accounts are found by user and name when
they are first addressed and remembered from then on, each with one of its cards; a
movement may carry a reference by which a later row can have it rolled back.  A row
that fails is reported, and the next one is worked on.
-/
import Cashbook.Csv.Report
import Cashbook.Replay.Address
import Cashbook.Replay.Teller

namespace Cashbook

/-- An account that has been found, and the card it is used with. -/
structure Handle where
  account : AccountId
  card : CardNumber
deriving DecidableEq

/-- A replay that is under way. -/
structure Replay (σ : Type) where
  teller : σ
  /-- The accounts that have been found. -/
  handles : Table Address Handle
  /-- The movements that carry a reference. -/
  references : Table String TransactionId

/-- A part of the work on a row; what it has done stays done when it fails. -/
abbrev Task (σ α : Type) := ExceptT Failure (StateM (Replay σ)) α

namespace Replay

/-- A replay that has yet to begin. -/
def start {σ : Type} (teller : σ) : Replay σ := ⟨teller, ∅, ∅⟩

section

variable {σ α : Type} [Teller σ]

/-- Makes a caller known. -/
def register (identity : String) : Task σ Unit :=
  modify fun r => { r with teller := Teller.register identity r.teller }

/-- Has a plan carried out. -/
def serve (plan : Rules → Plan α) : Task σ α := do
  let r ← get
  let (outcome, teller) := Teller.serve plan r.teller
  set { r with teller }
  liftExcept outcome

/-- Gives up on the row. -/
def refuse (failure : Failure) : Task σ α := throw failure

/-! ### Accounts -/

/-- Remembers an account. -/
def keepHandle (address : Address) (handle : Handle) : Task σ Unit :=
  modify fun r => { r with handles := r.handles.insert address handle }

/-- Forgets an account. -/
def dropHandle (address : Address) : Task σ Unit :=
  modify fun r => { r with handles := r.handles.erase address }

/-- The first card of an account, which gets one if it has none. -/
def cardOf (user : String) (account : AccountId) : Task σ Card := do
  match (← serve fun _ => Plan.cards user account).head? with
  | some card => pure card
  | none => serve fun _ => Plan.issueCard user account

/-- Finds an account among those of its user. -/
def find (address : Address) : Task σ (Option Handle) := do
  register address.user
  let accounts ← serve fun _ => Plan.accounts address.user
  match accounts.find? fun account => account.name == address.account with
  | some account =>
    let card ← cardOf address.user account.id
    keepHandle address ⟨account.id, card.number⟩
    pure (some ⟨account.id, card.number⟩)
  | none => pure none

/-- An account, remembered or found. -/
def lookup (address : Address) : Task σ (Option Handle) := do
  match (← get).handles[address]? with
  | some handle => pure (some handle)
  | none => find address

/-- An account that must be there. -/
def require (address : Address) : Task σ Handle := do
  match ← lookup address with
  | some handle => pure handle
  | none => refuse (.notFound (.address address.user address.account))

/-! ### Rows -/

/-- A value that a row must have. -/
def demand (value : Option α) (objection : Objection) : Task σ α :=
  match value with
  | some value => pure value
  | none => refuse (.invalid objection)

/-- The account that a row is about. -/
def addressOf (op : Operation) : Address := ⟨op.user, op.account⟩

/-- The amount of a row. -/
def amountOf (op : Operation) : Task σ Decimal := demand op.amount (.amountRequired op.kind)

/-- Refuses a row with a reference that stands for a movement already, unless it is about that movement. -/
def ensureFresh (op : Operation) : Task σ Unit := do
  match op.reference with
  | some label =>
    if op.kind ≠ .rollback ∧ (← get).references.contains label then
      refuse (.alreadyExists (.reference label))
  | none => pure ()

/-- Has a movement carried out, which the reference of the row stands for from then on. -/
def move (op : Operation) (request : MovementRequest) : Task σ Unit := do
  let tx ← serve fun rules => Plan.move rules op.user request
  match op.reference with
  | some label => modify fun r => { r with references := r.references.insert label tx.id }
  | none => pure ()

/-- Opens an account with a card. -/
def openAccount (op : Operation) : Task σ Unit := do
  if (← lookup (addressOf op)).isSome then
    refuse (.alreadyExists (.address op.user op.account))
  let currency ← demand op.currency .currencyRequired
  let account ← serve fun rules => Plan.openAccount rules op.user ⟨op.account, currency⟩
  let card ← serve fun _ => Plan.issueCard op.user account.id
  keepHandle (addressOf op) ⟨account.id, card.number⟩

/-- Has money moved from one account to another. -/
def transfer (op : Operation) : Task σ Unit := do
  let source ← require (addressOf op)
  let address ← liftExcept (Address.parse (← demand op.counterparty .counterpartyRequired))
  let destination ← require address
  let amount ← amountOf op
  move op (.transfer amount source.card destination.card)

/-- Has a movement rolled back. -/
def rollback (op : Operation) : Task σ Unit := do
  let label ← demand op.reference .referenceRequired
  match (← get).references[label]? with
  | some id =>
    let _ ← serve fun _ => Plan.reverse op.user ⟨id.toText⟩
    pure ()
  | none => refuse (.notFound (.reference label))

/-- Works on a row. -/
def apply (op : Operation) : Task σ Unit := do
  register op.user
  ensureFresh op
  match op.kind with
  | .opening => openAccount op
  | .deposit =>
    let handle ← require (addressOf op)
    move op (.deposit (← amountOf op) handle.card)
  | .withdrawal =>
    let handle ← require (addressOf op)
    move op (.withdrawal (← amountOf op) handle.card)
  | .transfer => transfer op
  | .rollback => rollback op
  | .close =>
    let handle ← require (addressOf op)
    let _ ← serve fun _ => Plan.closeAccount op.user handle.account
    dropHandle (addressOf op)

/-! ### Files -/

/-- The balances of every account of every caller that is known. -/
def balances : Task σ (List Csv.BalanceRow) := do
  let rows ← (Teller.identities (← get).teller).mapM fun user => do
    let accounts ← serve fun _ => Plan.accounts user
    pure (accounts.map fun a => (⟨user, a.name, a.currency, a.balance.value⟩ : Csv.BalanceRow))
  pure rows.flatten

/-- What became of a row. -/
inductive RowResult where
  | done
  | failed (failure : Failure)
  /-- It could not be read. -/
  | unreadable (fault : Csv.Fault)
deriving DecidableEq

/-- Works on a row that may not have been read. -/
def applyRow (row : Except Csv.Fault Operation) (r : Replay σ) : RowResult × Replay σ :=
  match row with
  | .ok op =>
    match (apply op).run.run r with
    | (.ok (), r) => (.done, r)
    | (.error failure, r) => (.failed failure, r)
  | .error fault => (.unreadable fault, r)

/-- Works through rows. -/
def applyRows : List (Except Csv.Fault Operation) → Replay σ → List RowResult × Replay σ
  | [], r => ([], r)
  | row :: rows, r =>
    let (result, r) := applyRow row r
    let (results, r) := applyRows rows r
    (result :: results, r)

/-- The report of balances at this point. -/
def report (r : Replay σ) : Outcome String × Replay σ :=
  let (rows, r) := balances.run.run r
  (rows.map Csv.report, r)

end

end Replay

end Cashbook
