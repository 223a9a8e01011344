/-
Reading JSON text.

The reader descends through the document.  Each step down spends one unit of fuel and
at least every second one consumes a character, so twice as much fuel as there are
characters is always enough.  Only blanks may follow the document.
-/
import Cashbook.Json
import Cashbook.Text.Digits

namespace Cashbook.Json

open Cashbook.Text

/-- The four characters that may stand between the parts of a document. -/
def isGap (c : Char) : Bool :=
  c == ' ' || c == '\t' || c == '\n' || c == '\x0d'

/-- The text without the blanks at its start. -/
def skipGaps (chars : List Char) : List Char :=
  chars.dropWhile isGap

/-! ### Strings -/

/-- One unit of a string: a character as it stands, or a code unit given by its number. -/
inductive Unit16 where
  | plain (c : Char)
  | escaped (code : Nat)

/-- The number given by four hexadecimal digits, and what follows them. -/
def hexCode? : List Char → Option (Nat × List Char)
  | a :: b :: c :: d :: rest => do
    let a ← hexDigit? a
    let b ← hexDigit? b
    let c ← hexDigit? c
    let d ← hexDigit? d
    some (ofDigits 16 [a, b, c, d], rest)
  | _ => none

/-- The character that an escape letter stands for. -/
def escapeLetter? (c : Char) : Option Char :=
  if c = '"' ∨ c = '\\' ∨ c = '/' then some c
  else if c = 'b' then some '\x08'
  else if c = 'f' then some '\x0c'
  else if c = 'n' then some '\n'
  else if c = 'r' then some '\x0d'
  else if c = 't' then some '\t'
  else none

/-- The units of a string up to its closing quote, and what follows the quote. -/
def readUnits : (fuel : Nat) → List Char → Option (List Unit16 × List Char)
  | 0, _ => none
  | _, [] => none
  | _ + 1, '"' :: rest => some ([], rest)
  | fuel + 1, '\\' :: 'u' :: rest => do
    let (code, rest) ← hexCode? rest
    let (units, rest) ← readUnits fuel rest
    some (.escaped code :: units, rest)
  | fuel + 1, '\\' :: letter :: rest => do
    let c ← escapeLetter? letter
    let (units, rest) ← readUnits fuel rest
    some (.plain c :: units, rest)
  | _, '\\' :: [] => none
  | fuel + 1, c :: rest =>
    if c.toNat < 0x20 then none
    else do
      let (units, rest) ← readUnits fuel rest
      some (.plain c :: units, rest)

/-- Whether a code unit is the first half of a pair. -/
def isHighHalf (code : Nat) : Bool := 0xD800 ≤ code && code < 0xDC00

/-- Whether a code unit is the second half of a pair. -/
def isLowHalf (code : Nat) : Bool := 0xDC00 ≤ code && code < 0xE000

/-- The characters that the units stand for, unless half of a pair stands alone. -/
def joinUnits : List Unit16 → Option (List Char)
  | [] => some []
  | .plain c :: rest => (joinUnits rest).map (c :: ·)
  | .escaped high :: .escaped low :: rest =>
    if isHighHalf high then
      if isLowHalf low then
        (joinUnits rest).map
          (Char.ofNat (0x10000 + (high - 0xD800) * 0x400 + (low - 0xDC00)) :: ·)
      else none
    else if isLowHalf high then none
    else (joinUnits (.escaped low :: rest)).map (Char.ofNat high :: ·)
  | .escaped code :: rest =>
    if isHighHalf code || isLowHalf code then none
    else (joinUnits rest).map (Char.ofNat code :: ·)

/-- A string whose opening quote has been read. -/
def readString? (fuel : Nat) (chars : List Char) : Option (Option String × List Char) :=
  (readUnits fuel chars).map fun (units, rest) => ((joinUnits units).map String.ofList, rest)

/-! ### Numbers -/

/-- The whole part of a number: one zero, or digits that do not begin with zero. -/
def readWhole? (chars : List Char) : Option (List Nat × List Char) :=
  match spanDigits chars with
  | ([], _) => none
  | ([0], rest) => some ([0], rest)
  | (0 :: _, _) => none
  | (digits, rest) => some (digits, rest)

/-- The places after the point, at least one where there is a point. -/
def readPlaces? : List Char → Option (List Nat × List Char)
  | '.' :: rest =>
    match spanDigits rest with
    | ([], _) => none
    | (digits, rest) => some (digits, rest)
  | chars => some ([], chars)

/-- The digits of an exponent after its sign, at least one. -/
def readExponentDigits? (negative : Bool) (chars : List Char) : Option (Option Int × List Char) :=
  match spanDigits chars with
  | ([], _) => none
  | (digits, rest) =>
    let k : Int := ofDigits 10 digits
    some (some (if negative then -k else k), rest)

/-- The exponent of a number, where there is one. -/
def readExponent? : List Char → Option (Option Int × List Char)
  | mark :: rest =>
    if mark = 'e' ∨ mark = 'E' then
      match rest with
      | '+' :: rest => readExponentDigits? false rest
      | '-' :: rest => readExponentDigits? true rest
      | rest => readExponentDigits? false rest
    else some (none, mark :: rest)
  | [] => some (none, [])

/-- A number. -/
def readNumber? (chars : List Char) : Option (Numeral × List Char) := do
  let (negative, body) := match chars with
    | '-' :: rest => (true, rest)
    | _ => (false, chars)
  let (whole, rest) ← readWhole? body
  let (places, rest) ← readPlaces? rest
  let (exponent, rest) ← readExponent? rest
  some (⟨negative, whole, places, exponent⟩, rest)

/-! ### Documents -/

mutual

/-- A document at the start of the text, and what follows it. -/
def readValue : (fuel : Nat) → List Char → Option (Json × List Char)
  | 0, _ => none
  | fuel + 1, chars =>
    match skipGaps chars with
    | 'n' :: 'u' :: 'l' :: 'l' :: rest => some (.null, rest)
    | 't' :: 'r' :: 'u' :: 'e' :: rest => some (.bool true, rest)
    | 'f' :: 'a' :: 'l' :: 's' :: 'e' :: rest => some (.bool false, rest)
    | '"' :: rest => (readString? (rest.length + 1) rest).map fun (s, rest) => (.text s, rest)
    | '[' :: rest =>
      match skipGaps rest with
      | ']' :: rest => some (.array [], rest)
      | rest => (readItems fuel rest).map fun (items, rest) => (.array items, rest)
    | '\x7b' :: rest =>
      match skipGaps rest with
      | '\x7d' :: rest => some (.object [], rest)
      | rest => (readMembers fuel rest).map fun (members, rest) => (.object members, rest)
    | rest => (readNumber? rest).map fun (n, rest) => (.number n, rest)

/-- The items of an array up to its closing bracket. -/
def readItems : (fuel : Nat) → List Char → Option (List Json × List Char)
  | 0, _ => none
  | fuel + 1, chars => do
    let (item, rest) ← readValue fuel chars
    match skipGaps rest with
    | ',' :: rest =>
      let (items, rest) ← readItems fuel rest
      some (item :: items, rest)
    | ']' :: rest => some ([item], rest)
    | _ => none

/-- The members of an object up to its closing brace. -/
def readMembers : (fuel : Nat) → List Char → Option (List (Option String × Json) × List Char)
  | 0, _ => none
  | fuel + 1, chars =>
    match skipGaps chars with
    | '"' :: rest => do
      let (name, rest) ← readString? (rest.length + 1) rest
      match skipGaps rest with
      | ':' :: rest =>
        let (value, rest) ← readValue fuel rest
        match skipGaps rest with
        | ',' :: rest =>
          let (members, rest) ← readMembers fuel rest
          some ((name, value) :: members, rest)
        | '\x7d' :: rest => some ([(name, value)], rest)
        | _ => none
      | _ => none
    | _ => none

end

/-- The document that a text holds, if it holds one and nothing else. -/
def read? (chars : List Char) : Option Json := do
  let (value, rest) ← readValue (2 * chars.length + 2) chars
  if (skipGaps rest).isEmpty then some value else none

end Cashbook.Json
