/-
Text as bytes.

Reading goes byte by byte with at most one character begun: what is known of it so
far, how many bytes it still needs, and the range the next byte must lie in, which
is where overlong forms, surrogates and code points out of range are refused.
-/
namespace Cashbook.Text.Utf8

/-- A character of which some bytes have been read. -/
structure Begun where
  /-- How many bytes are still to come. -/
  missing : Nat
  /-- The bits read so far. -/
  code : Nat
  /-- The least next byte. -/
  least : Nat
  /-- The greatest next byte. -/
  greatest : Nat

/-- What a byte that is not ASCII begins, if it may begin a character. -/
def begin? (b : Nat) : Option Begun :=
  if 0xC2 ≤ b ∧ b ≤ 0xDF then some ⟨1, b - 0xC0, 0x80, 0xBF⟩
  else if b = 0xE0 then some ⟨2, 0, 0xA0, 0xBF⟩
  else if b = 0xED then some ⟨2, 0xD, 0x80, 0x9F⟩
  else if 0xE1 ≤ b ∧ b ≤ 0xEF then some ⟨2, b - 0xE0, 0x80, 0xBF⟩
  else if b = 0xF0 then some ⟨3, 0, 0x90, 0xBF⟩
  else if 0xF1 ≤ b ∧ b ≤ 0xF3 then some ⟨3, b - 0xF0, 0x80, 0xBF⟩
  else if b = 0xF4 then some ⟨3, 4, 0x80, 0x8F⟩
  else none

/-- Reads on from byte `at`, the current character having begun at byte `start`. -/
def decodeFrom (start here : Nat) : Option Begun → List UInt8 → Except Nat (List Char)
  | none, [] => .ok []
  | some _, [] => .error start
  | none, b :: rest =>
    let b := b.toNat
    if b < 0x80 then
      (decodeFrom (here + 1) (here + 1) none rest).map (Char.ofNat b :: ·)
    else
      match begin? b with
      | some begun => decodeFrom here (here + 1) (some begun) rest
      | none => .error here
  | some begun, b :: rest =>
    let b := b.toNat
    if begun.least ≤ b ∧ b ≤ begun.greatest then
      let code := begun.code * 64 + b % 64
      if begun.missing ≤ 1 then
        (decodeFrom (here + 1) (here + 1) none rest).map (Char.ofNat code :: ·)
      else decodeFrom start (here + 1) (some ⟨begun.missing - 1, code, 0x80, 0xBF⟩) rest
    else .error start

/-- The characters of a sequence of bytes, or the length of the longest part at its start that is text. -/
def decode (bytes : List UInt8) : Except Nat (List Char) :=
  decodeFrom 0 0 none bytes

/-- The bytes of a sequence of characters. -/
def encode (chars : List Char) : List UInt8 :=
  chars.flatMap String.utf8EncodeChar

end Cashbook.Text.Utf8
