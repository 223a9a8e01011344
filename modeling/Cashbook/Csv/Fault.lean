/-
What may be wrong with a row of a table.

A row that cannot be used is reported with its place: its number, the line it starts
on, and the byte where reading of it began.
-/
import Cashbook.Operation
import Cashbook.Text.Quoted

namespace Cashbook.Csv

/-- Where a row stands. -/
structure Position where
  /-- The number of the row, the header being row zero. -/
  record : Nat
  /-- The line on which the row starts, from one. -/
  line : Nat
  /-- The byte where reading of the row began. -/
  byte : Nat
deriving DecidableEq

/-- A cell that was to hold a decimal and does not. -/
inductive Misfit where
  | bool (value : Bool)
  /-- A whole number too large for sixty-four bits. -/
  | wide (value : Int)
  /-- A floating-point number with this text. -/
  | float (text : String)
  | text (value : String)
deriving DecidableEq

/-- Why a row is not an operation. -/
inductive Detail where
  | unknownKind (word : String)
  | missingColumn (name : String)
  | repeatedColumn (name : String)
  | endOfRow
  /-- Fewer cells than a row without column names needs. -/
  | tooShort (cells : Nat)
  | notDecimal (found : Misfit)
deriving DecidableEq

/-- What is wrong with a row. -/
inductive Fault where
  | unusable (position : Position) (detail : Detail)
  /-- A cell is not text from this byte on. -/
  | notText (position : Position) (cell validBytes : Nat)
deriving DecidableEq

/-- What was found in place of a decimal. -/
def Misfit.message : Misfit → String
  | .bool value => s!"invalid type: boolean `{value}`"
  | .wide value =>
    if value < 0 then s!"invalid type: integer `{value}` as i128"
    else s!"invalid type: integer `{value}` as u128"
  | .float shown => s!"invalid value: floating point `{shown}`"
  | .text value => "invalid value: string " ++ Text.showQuoted value

/-- The words for why a row is not an operation. -/
def Detail.message : Detail → String
  | .unknownKind word =>
    let words := OperationKind.all.map fun k => "`" ++ k.word ++ "`"
    s!"unknown variant `{word}`, expected one of " ++ ", ".intercalate words
  | .missingColumn name => s!"missing field `{name}`"
  | .repeatedColumn name => s!"duplicate field `{name}`"
  | .endOfRow => "expected field, but got end of row"
  | .tooShort cells =>
    s!"invalid length {cells}, expected struct WalletOperation with 7 elements"
  | .notDecimal found =>
    found.message ++ ", expected a Decimal type representing a fixed-point number"

/-- The words for what is wrong with a row. -/
def Fault.message : Fault → String
  | .unusable p detail =>
    s!"CSV deserialize error: record {p.record} (line: {p.line}, byte: {p.byte}): " ++
      detail.message
  | .notText p cell validBytes =>
    s!"CSV parse error: record {p.record} (line {p.line}, field: {cell}, byte: {p.byte}): " ++
      s!"invalid utf-8: invalid UTF-8 in field {cell} near byte index {validBytes}"

end Cashbook.Csv
