/-
The report of balances.

The report is a table with a row for each account, in the order of its user and then of
its name.  A cell is put between quotes when it holds something that would otherwise
divide it; the balance has no zeros at the end of its places.

The names of the columns come with the first row of values, or by themselves where there is none.
-/
import Cashbook.Currency
import Cashbook.Decimal.Numeral

namespace Cashbook.Csv

/-- The balance of one account. -/
structure BalanceRow where
  user : String
  account : String
  currency : Currency
  balance : Decimal
deriving DecidableEq

namespace BalanceRow

/-- Rows are ordered by user, then by the name of the account. -/
def Precedes (a b : BalanceRow) : Prop :=
  a.user < b.user ∨ (a.user = b.user ∧ ¬ b.account < a.account)

instance (a b : BalanceRow) : Decidable (a.Precedes b) := inferInstanceAs (Decidable (_ ∨ _))

/-- The rows in order; those of the same account stay as they were. -/
def sorted (rows : List BalanceRow) : List BalanceRow :=
  rows.mergeSort fun a b => decide (a.Precedes b)

/-- The cells of a row, each with the name of its column. -/
def members (row : BalanceRow) : List (String × String) :=
  [("user", row.user), ("account", row.account), ("currency", row.currency.code),
   ("balance", row.balance.toText)]

/-- The row with no zeros at the end of the places of its balance. -/
def normalized (row : BalanceRow) : BalanceRow := { row with balance := row.balance.normalize }

end BalanceRow

/-! ### Writing -/

/-- Whether a character would divide a cell that stands without quotes. -/
def divides (c : Char) : Bool :=
  c == ',' || c == '"' || c == '\n' || c == '\x0d'

/-- A cell, between quotes if it needs them; a quote inside them is doubled. -/
def showCell (cell : String) : List Char :=
  if cell.toList.any divides then
    '"' :: cell.toList.flatMap (fun c => if c = '"' then ['"', '"'] else [c]) ++ ['"']
  else cell.toList

/-- A row, with the line feed that ends it. -/
def showRow (cells : List String) : List Char :=
  [','].intercalate (cells.map showCell) ++ ['\n']

/-- The names of the columns of a report. -/
def reportColumns : List String := ["user", "account", "currency", "balance"]

/-- What has been written, and whether the names of the columns go before the next row of values. -/
structure Writer where
  written : String
  namesDue : Bool

namespace Writer

/-- Nothing has been written. -/
def fresh : Writer := ⟨"", true⟩

/-- Writes the cells as they are; they may be names or values. -/
def cells (w : Writer) (cells : List String) : Writer :=
  { w with written := w.written ++ String.ofList (showRow cells) }

/-- Writes the values of a row, and before the first of all rows the names of their columns. -/
def row (w : Writer) (row : BalanceRow) : Writer :=
  let named := if w.namesDue then { w.cells (row.members.map Prod.fst) with namesDue := false } else w
  named.cells (row.members.map Prod.snd)

/-- Writes the rows in order; where there are none, only the names of the columns. -/
def balances (w : Writer) (rows : List BalanceRow) : Writer :=
  let rows := BalanceRow.sorted rows
  let named := if rows.isEmpty then w.cells reportColumns else w
  rows.foldl (fun w r => w.row r.normalized) named

end Writer

/-- The report of balances. -/
def report (rows : List BalanceRow) : String :=
  (Writer.fresh.balances rows).written

end Cashbook.Csv
