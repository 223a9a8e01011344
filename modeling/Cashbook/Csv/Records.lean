/-
Rows and cells of a table.

Cells are divided by commas and rows end at a line feed or a carriage return, either
of which also ends empty lines that count for nothing.  A cell that begins with a
double quote goes on to the next double quote that is not doubled, whatever stands in
between; what follows that quote is added to the cell as it stands.

The table is read byte by byte.  Where a row begins is where reading of it begins:
right behind the byte that ended the row before, so that the line feed of a pair and
any empty lines belong to the row that comes after them.
-/
import Cashbook.Csv.Fault

namespace Cashbook.Csv

/-- A cell as it stands in the file. -/
abbrev Cell := List UInt8

/-- A row as it stands in the file, and where it begins. -/
structure Record where
  position : Position
  cells : List Cell
deriving DecidableEq

/-- Where the reader is. -/
inductive Place where
  /-- Before a row. -/
  | rowStart
  /-- Before a row, and behind the carriage return that ended the last one. -/
  | afterReturn
  /-- Before a cell. -/
  | cellStart
  /-- In a cell without quotes, or behind the closing quote of one with. -/
  | inCell
  /-- Between quotes. -/
  | inQuotes
  /-- Behind a quote that closes the cell unless another follows. -/
  | atQuote
deriving DecidableEq

/-- What a byte does. -/
inductive Effect where
  /-- Nothing. -/
  | skip
  /-- It belongs to the cell. -/
  | keep
  /-- It ends the cell. -/
  | endCell
  /-- It ends the cell and the row. -/
  | endRow
deriving DecidableEq

def quote : UInt8 := 34
def comma : UInt8 := 44
def lineFeed : UInt8 := 10
def carriageReturn : UInt8 := 13

/-- What a byte does in a cell, behind its quotes if it has any. -/
def Place.plain (b : UInt8) : Effect × Place :=
  if b = comma then (.endCell, .cellStart)
  else if b = lineFeed then (.endRow, .rowStart)
  else if b = carriageReturn then (.endRow, .afterReturn)
  else (.keep, .inCell)

/-- What a byte does at the start of a cell. -/
def Place.first (b : UInt8) : Effect × Place :=
  if b = quote then (.skip, .inQuotes) else plain b

/-- What a byte does, and where the reader is then. -/
def Place.step (place : Place) (b : UInt8) : Effect × Place :=
  match place with
  | .rowStart =>
    if b = lineFeed ∨ b = carriageReturn then (.skip, .rowStart) else first b
  | .afterReturn =>
    if b = lineFeed ∨ b = carriageReturn then (.skip, .rowStart) else first b
  | .cellStart => first b
  | .inCell => plain b
  | .inQuotes => if b = quote then (.skip, .atQuote) else (.keep, .inQuotes)
  | .atQuote => if b = quote then (.keep, .inQuotes) else plain b

/-- The position behind a byte. -/
def Position.after (p : Position) (b : UInt8) : Position :=
  { p with byte := p.byte + 1, line := if b = lineFeed then p.line + 1 else p.line }

/-- The position with one row more behind it. -/
def Position.nextRecord (p : Position) : Position :=
  { p with record := p.record + 1 }

/--
Reads on: `start` is where the present row begins, `here` where the reader is; of the present
row the cells are finished but for `cell`, and both are kept latest first.
-/
def scan (start here : Position) (place : Place) (cells : List Cell) (cell : Cell) :
    List UInt8 → List Record
  | [] =>
    match place with
    | .rowStart | .afterReturn => []
    | .cellStart | .inCell | .inQuotes | .atQuote => [⟨start, (cell.reverse :: cells).reverse⟩]
  | b :: rest =>
    let behind := here.after b
    match place.step b with
    | (.skip, next) => scan start behind next cells cell rest
    | (.keep, next) => scan start behind next cells (b :: cell) rest
    | (.endCell, next) => scan start behind next (cell.reverse :: cells) [] rest
    | (.endRow, next) =>
      let fresh := behind.nextRecord
      ⟨start, (cell.reverse :: cells).reverse⟩ :: scan fresh fresh next [] [] rest

/-- The mark that may stand before a text in this encoding. -/
def byteOrderMark : List UInt8 := [0xEF, 0xBB, 0xBF]

/-- The rows of a table; a mark before the text counts for nothing but its three bytes. -/
def records (bytes : List UInt8) : List Record :=
  let start : Position := ⟨0, 1, 0⟩
  if bytes.take 3 = byteOrderMark then
    scan start { start with byte := 3 } .rowStart [] [] (bytes.drop 3)
  else scan start start .rowStart [] [] bytes

end Cashbook.Csv
