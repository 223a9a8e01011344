/-
White space.

A caller may surround what they write with white space, and may put it inside a
card number.  The characters that count are those of the Unicode property
`White_Space`, twenty-five in all, of which core's own test knows four.
-/
namespace Cashbook.Text

/-- The characters of the Unicode property `White_Space`. -/
def isBlank (c : Char) : Bool :=
  let n := c.toNat
  (9 ≤ n && n ≤ 13) || n == 0x20 || n == 0x85 || n == 0xA0 || n == 0x1680 ||
    (0x2000 ≤ n && n ≤ 0x200A) || n == 0x2028 || n == 0x2029 || n == 0x202F ||
    n == 0x205F || n == 0x3000

/-- The six bytes that ASCII calls white space; the vertical tab is not among them. -/
def isBlankByte (b : UInt8) : Bool :=
  b == 9 || b == 10 || b == 12 || b == 13 || b == 32

/-- A list without the leading and trailing members that satisfy `p`. -/
def stripWith {α : Type} (p : α → Bool) (xs : List α) : List α :=
  ((xs.dropWhile p).reverse.dropWhile p).reverse

/-- A text without the white space around it. -/
def trim (text : String) : String :=
  String.ofList (stripWith isBlank text.toList)

end Cashbook.Text
