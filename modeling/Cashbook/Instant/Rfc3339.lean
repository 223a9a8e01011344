/-
Instants as text.

An instant is written as a date, `T`, a time of day and `Z`, with as many places
after the second as milliseconds, microseconds or nanoseconds need.  Years outside
four digits carry a sign.

Reading is lenient: numbers may be shorter, white space may stand before them and
before the separators, a blank or a small letter may stand for `T`, and the offset may
be `Z`, `UTC`, or hours and minutes with any mixture of colons and white space between
them.
-/
import Cashbook.Instant
import Cashbook.Text.Blank
import Cashbook.Text.Digits

namespace Cashbook.Instant

open Cashbook.Text

/-! ### Writing -/

/-- A year, with a sign where it does not have four digits. -/
def showYear (year : Int) : List Char :=
  if 0 ≤ year ∧ year ≤ 9999 then fixedDigits 10 4 year.toNat
  else (if year < 0 then '-' else '+') :: paddedDigits 4 year.natAbs

/-- The places after the second: none, three, six or nine. -/
def showFraction (nanos : Nat) : List Char :=
  if nanos = 0 then []
  else if nanos % 1000000 = 0 then '.' :: fixedDigits 10 3 (nanos / 1000000)
  else if nanos % 1000 = 0 then '.' :: fixedDigits 10 6 (nanos / 1000)
  else '.' :: fixedDigits 10 9 nanos

/-- The characters of an instant, in universal time. -/
def toChars (t : Instant) : List Char :=
  let date := t.date
  let ofDay := (t.seconds % 86400).toNat
  let leap := 1000000000 ≤ t.nanos
  showYear date.year ++ '-' :: fixedDigits 10 2 date.month ++ '-' :: fixedDigits 10 2 date.day ++
    'T' :: fixedDigits 10 2 (ofDay / 3600) ++ ':' :: fixedDigits 10 2 (ofDay / 60 % 60) ++
    ':' :: fixedDigits 10 2 (ofDay % 60 + (if leap then 1 else 0)) ++
    showFraction (if leap then t.nanos - 1000000000 else t.nanos) ++ ['Z']

/-- The text of an instant, in universal time. -/
def toText (t : Instant) : String :=
  String.ofList t.toChars

/-! ### Reading -/

/-- The text without the white space at its start. -/
def skipBlanks (chars : List Char) : List Char :=
  chars.dropWhile isBlank

/-- A number of at most `width` digits, and what follows it. -/
def readNat? (width : Nat) (chars : List Char) : Option (Nat × List Char) :=
  let digits := (spanDigits (chars.take width)).1
  if digits.isEmpty then none
  else some (ofDigits 10 digits, chars.drop digits.length)

/-- A number of any length, and what follows it. -/
def readLong? (chars : List Char) : Option (Nat × List Char) :=
  match spanDigits chars with
  | ([], _) => none
  | (digits, rest) => some (ofDigits 10 digits, rest)

/-- A year of at most four digits, or of any length behind a sign. -/
def readYear? (chars : List Char) : Option (Int × List Char) :=
  match skipBlanks chars with
  | '-' :: rest => (readLong? rest).map fun (n, rest) => (-(n : Int), rest)
  | '+' :: rest => (readLong? rest).map fun (n, rest) => ((n : Int), rest)
  | rest => (readNat? 4 rest).map fun (n, rest) => ((n : Int), rest)

/-- A separator behind white space, then a number of at most two digits behind white space. -/
def readPart? (separator : Char) (chars : List Char) : Option (Nat × List Char) :=
  match skipBlanks chars with
  | c :: rest => if c = separator then readNat? 2 (skipBlanks rest) else none
  | [] => none

/-- The nanoseconds after a point; digits beyond the ninth are passed over. -/
def readFraction? : List Char → Option (Nat × List Char)
  | '.' :: rest =>
    match spanDigits rest with
    | ([], _) => none
    | (digits, rest) =>
      let kept := digits.take 9
      some (ofDigits 10 (kept ++ List.replicate (9 - kept.length) 0), rest)
  | rest => some (0, rest)

/-- The minutes of an offset behind its sign. -/
def readOffsetMinutes? (chars : List Char) : Option (Nat × List Char) :=
  match chars with
  | h1 :: h2 :: rest =>
    match digit? h1, digit? h2 with
    | some h1, some h2 =>
      match rest.dropWhile fun c => c == ':' || isBlank c with
      | m1 :: m2 :: rest =>
        match digit? m1, digit? m2 with
        | some m1, some m2 =>
          if m1 < 6 then some ((h1 * 10 + h2) * 60 + (m1 * 10 + m2), rest) else none
        | _, _ => none
      | _ => none
    | _, _ => none
  | _ => none

/-- The offset from universal time in minutes, and what follows it. -/
def readOffset? (chars : List Char) : Option (Int × List Char) :=
  if (chars.take 3).map Char.toLower = ['u', 't', 'c'] then some (0, chars.drop 3)
  else
    match chars with
    | c :: rest =>
      if c = 'Z' ∨ c = 'z' then some (0, rest)
      else if c = '+' then (readOffsetMinutes? rest).map fun (n, rest) => ((n : Int), rest)
      else if c = '-' ∨ c = '\u2212' then
        (readOffsetMinutes? rest).map fun (n, rest) => (-(n : Int), rest)
      else none
    | [] => none

/-- What may stand between a date and a time. -/
def isDateMark (c : Char) : Bool :=
  c == 'T' || c == 't' || c == ' '

/-- The instant that the characters write, if the calendar in use reaches it. -/
def ofChars? (chars : List Char) : Option Instant := do
  let (year, rest) ← readYear? chars
  let (month, rest) ← readPart? '-' rest
  let (day, rest) ← readPart? '-' rest
  match rest with
  | mark :: rest =>
    if isDateMark mark then
      let (hour, rest) ← readNat? 2 (skipBlanks rest)
      let (minute, rest) ← readPart? ':' rest
      let (second, rest) ← readPart? ':' rest
      let (nanos, rest) ← readFraction? rest
      let (offset, rest) ← readOffset? (skipBlanks rest)
      let date : Date := ⟨year, month, day⟩
      if date.IsValid ∧ firstYear ≤ year ∧ year ≤ lastYear ∧ hour ≤ 23 ∧ minute ≤ 59 ∧
          second ≤ 60 ∧ offset.natAbs < 1440 ∧ (skipBlanks rest).isEmpty then
        let leap := second = 60
        let ofDay : Nat := hour * 3600 + minute * 60 + (if leap then 59 else second)
        let instant : Instant :=
          ⟨date.toDays * 86400 + ofDay - offset * 60, if leap then nanos + 1000000000 else nanos⟩
        if instant.InCalendar then some instant else none
      else none
    else none
  | [] => none

/-- The instant that a text writes. -/
def ofText? (text : String) : Option Instant :=
  ofChars? text.toList

end Cashbook.Instant
