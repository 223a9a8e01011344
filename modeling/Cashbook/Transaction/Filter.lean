/-
Choosing among transactions.

A filter states criteria, each of which may be left open.  Applied to rows it keeps
those that meet all of them, puts the newest first without disturbing rows of the same
instant, and cuts the result off at a limit.
-/
import Cashbook.Transaction

namespace Cashbook

/-- Criteria for transactions; what is absent is met by every row. -/
structure Filter where
  /-- The transaction touches this account. -/
  account : Option AccountId
  /-- It is of this kind. -/
  type : Option TransactionType
  /-- It is rolled back, or is not. -/
  rolledBack : Option Bool
  /-- It was made at this instant or later. -/
  since : Option Instant
  /-- It was made before this instant. -/
  before : Option Instant
  /-- At most so many rows are wanted. -/
  limit : Option Nat
deriving DecidableEq

namespace Filter

/-- No criteria. -/
def everything : Filter := ⟨none, none, none, none, none, none⟩

/-- Whether a criterion is open or met. -/
def meets {α : Type} (criterion : Option α) (test : α → Bool) : Bool :=
  match criterion with
  | some value => test value
  | none => true

/-- Whether a row meets every criterion; the limit is not one of them. -/
def accepts (f : Filter) (tx : Transaction) : Bool :=
  meets f.account (fun account => decide (tx.kind.Involves account)) &&
    meets f.type (fun type => tx.kind.type == type) &&
    meets f.rolledBack (fun flag => tx.rolledBack == flag) &&
    meets f.since (fun since => decide (since ≤ tx.createdAt)) &&
    meets f.before (fun before => decide (tx.createdAt < before))

/-- Rows with the newest first; rows of the same instant keep their order. -/
def newestFirst (rows : List Transaction) : List Transaction :=
  rows.mergeSort fun a b => decide (b.createdAt ≤ a.createdAt)

/-- The first rows up to a limit. -/
def cut (limit : Option Nat) (rows : List Transaction) : List Transaction :=
  match limit with
  | some n => rows.take n
  | none => rows

/-- The rows that meet the criteria, newest first, up to the limit. -/
def select (f : Filter) (rows : List Transaction) : List Transaction :=
  cut f.limit (newestFirst (rows.filter f.accepts))

end Filter

end Cashbook
