/-
Operations in a table.

The first row names the columns, in any order and among columns that mean nothing
here; if it is not text the columns come in their usual order.  White space around a
cell counts for nothing.  A row is worked through column by column, and the first
thing that is wrong with it is reported.
-/
import Cashbook.Csv.Records
import Cashbook.Numeral
import Cashbook.Text.Blank
import Cashbook.Text.Utf8

namespace Cashbook.Csv

open Cashbook.Text

/-! ### Amounts -/

/-- The words for numbers that are none, in lower case. -/
def strangeWord? (chars : List Char) : Option String :=
  let (negative, body) := Decimal.splitSign chars
  match String.ofList (body.map Char.toLower) with
  | "inf" | "infinity" => some (if negative then "-inf" else "inf")
  | "nan" => some "NaN"
  | _ => none

/-- The decimal of a floating-point number. -/
def ofFloat (negative : Bool) (x : Binary64) : Except Detail Decimal :=
  match Numeral.decimalOfDouble? negative x with
  | some value => .ok value
  | none =>
    let chars := if negative then '-' :: x.toChars else x.toChars
    let shown := if chars.contains '.' then chars else chars ++ ['.', '0']
    .error (.notDecimal (.float (String.ofList shown)))

/-- The decimal of a number that is written with digits; whole ones are exact up to sixty-four bits. -/
def ofNumeral (n : Numeral) : Except Detail Decimal :=
  let value : Int := ofDigits 10 n.whole
  let float : Except Detail Decimal :=
    match n.nearest? with
    | some x => ofFloat n.negative x
    | none => .error (.notDecimal (.float (if n.negative then "-inf" else "inf")))
  if n.isWhole = false then float
  else if n.negative then
    if value ≤ wordLimit / 2 then
      match Decimal.ofInt? (-value) with
      | some d => .ok d
      | none => float
    else if value ≤ wordLimit * wordLimit / 2 then .error (.notDecimal (.wide (-value)))
    else float
  else if value < wordLimit then
    match Decimal.ofInt? value with
    | some d => .ok d
    | none => float
  else if value < wordLimit * wordLimit then .error (.notDecimal (.wide value))
  else float

/-- The decimal in a cell: what looks like a truth value or a number is taken as such, the rest as text. -/
def decimalOf (cell : String) : Except Detail Decimal :=
  if cell = "true" then .error (.notDecimal (.bool true))
  else if cell = "false" then .error (.notDecimal (.bool false))
  else
    match Numeral.ofChars? cell.toList, strangeWord? cell.toList with
    | some n, _ => ofNumeral n
    | none, some word => .error (.notDecimal (.float word))
    | none, none =>
      match Decimal.read? cell with
      | some value => .ok value
      | none => .error (.notDecimal (.text cell))

/-! ### Columns -/

/-- The columns that mean something. -/
inductive Column where
  | op
  | user
  | account
  | currency
  | amount
  | counterparty
  | reference
deriving DecidableEq

namespace Column

/-- Every column, in the usual order. -/
def all : List Column := [.op, .user, .account, .currency, .amount, .counterparty, .reference]

/-- The name of a column. -/
def name : Column → String
  | .op => "op"
  | .user => "user"
  | .account => "account"
  | .currency => "currency"
  | .amount => "amount"
  | .counterparty => "counterparty"
  | .reference => "reference"

/-- The column with exactly this name. -/
def ofName? (name : String) : Option Column := all.find? fun c => c.name == name

end Column

/-- The columns of a row that have been read. -/
structure Draft where
  op : Option OperationKind
  user : Option String
  account : Option String
  currency : Option (Option String)
  amount : Option (Option Decimal)
  counterparty : Option (Option String)
  reference : Option (Option String)

namespace Draft

/-- Nothing has been read. -/
def blank : Draft := ⟨none, none, none, none, none, none, none⟩

/-- Whether a column has been read. -/
def has (d : Draft) : Column → Bool
  | .op => d.op.isSome
  | .user => d.user.isSome
  | .account => d.account.isSome
  | .currency => d.currency.isSome
  | .amount => d.amount.isSome
  | .counterparty => d.counterparty.isSome
  | .reference => d.reference.isSome

end Draft

/-- A cell that must be there. -/
def required (cell : Option String) : Except Detail String :=
  match cell with
  | some text => .ok text
  | none => .error .endOfRow

/-- A cell that may be empty or beyond the end of the row. -/
def optional (cell : Option String) : Option String :=
  cell.bind fun text => if text.isEmpty then none else some text

/-- The kind of operation that a cell names. -/
def kindOf (cell : String) : Except Detail OperationKind :=
  match OperationKind.ofWord? cell with
  | some kind => .ok kind
  | none => .error (.unknownKind cell)

/-- Reads the cell of a column. -/
def Draft.read (d : Draft) (column : Column) (cell : Option String) : Except Detail Draft :=
  match column with
  | .op => do
    let kind ← kindOf (← required cell)
    pure { d with op := some kind }
  | .user => (required cell).map fun text => { d with user := some text }
  | .account => (required cell).map fun text => { d with account := some text }
  | .currency => .ok { d with currency := some (optional cell) }
  | .amount => ((optional cell).mapM decimalOf).map fun value => { d with amount := some value }
  | .counterparty => .ok { d with counterparty := some (optional cell) }
  | .reference => .ok { d with reference := some (optional cell) }

/-- The operation, if no column is missing that it needs. -/
def Draft.finish (d : Draft) : Except Detail Operation :=
  match d.op, d.user, d.account with
  | none, _, _ => .error (.missingColumn "op")
  | _, none, _ => .error (.missingColumn "user")
  | _, _, none => .error (.missingColumn "account")
  | some kind, some user, some account =>
    .ok { kind, user, account, currency := d.currency.join, amount := d.amount.join,
          counterparty := d.counterparty.join, reference := d.reference.join }

/-- Works through the columns by their names. -/
def readNamed (d : Draft) : (names cells : List String) → Except Detail Operation
  | [], _ => d.finish
  | name :: names, cells =>
    match Column.ofName? name with
    | some column =>
      if d.has column then .error (.repeatedColumn name)
      else do
        let d ← d.read column cells.head?
        readNamed d names cells.tail
    | none =>
      match cells with
      | [] => .error .endOfRow
      | _ :: rest => readNamed d names rest

/-- Works through the columns in their usual order; the first three must be there. -/
def readInOrder (d : Draft) (count : Nat) : (columns : List Column) → (cells : List String) →
    Except Detail Operation
  | [], _ => d.finish
  | column :: columns, cells =>
    if cells.isEmpty ∧ column ∈ [Column.op, .user, .account] then .error (.tooShort count)
    else do
      let d ← d.read column cells.head?
      readInOrder d count columns cells.tail

/-! ### Rows -/

/-- The cells of a row as text, without white space around them; or the first that is not text. -/
def textCells (index : Nat) : List Cell → Except (Nat × Nat) (List String)
  | [] => .ok []
  | cell :: rest =>
    match Utf8.decode (stripWith isBlankByte cell) with
    | .ok chars => (textCells (index + 1) rest).map (String.ofList (stripWith isBlank chars) :: ·)
    | .error valid => .error (index, valid)

/-- The names of the columns, if the row that holds them is text. -/
def columnNames (header : Record) : Option (List String) :=
  header.cells.mapM fun cell =>
    (Utf8.decode cell).toOption.map fun chars => String.ofList (stripWith isBlank chars)

/-- The operation of a row. -/
def readRow (names : Option (List String)) (row : Record) : Except Fault Operation :=
  match textCells 0 row.cells with
  | .error (cell, valid) => .error (.notText row.position cell valid)
  | .ok cells =>
    let operation := match names with
      | some names => readNamed .blank names cells
      | none => readInOrder .blank cells.length Column.all cells
    operation.mapError (.unusable row.position ·)

/-- The operations of a table, each or what is wrong with its row. -/
def operations (bytes : List UInt8) : List (Except Fault Operation) :=
  match records bytes with
  | [] => []
  | header :: rows => rows.map (readRow (columnNames header))

end Cashbook.Csv
