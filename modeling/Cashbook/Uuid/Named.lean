/-
Identifiers derived from names.

The identifier of a name is the start of a 160-bit digest of a namespace and the name,
with six bits overwritten to say how it was made.  The digest works through the
message in blocks of sixteen words; the words of a block are followed by sixty-four
more, each made of four of the sixteen before it, and every word takes part in one
round.
-/
import Cashbook.Uuid
import Cashbook.Text.Utf8

namespace Cashbook.Uuid

/-! ### The digest -/

/-- The five words that the digest carries from block to block. -/
structure Chain where
  a : UInt32
  b : UInt32
  c : UInt32
  d : UInt32
  e : UInt32

/-- The chain before the first block. -/
def Chain.start : Chain :=
  ⟨0x67452301, 0xEFCDAB89, 0x98BADCFE, 0x10325476, 0xC3D2E1F0⟩

/-- A word turned to the left. -/
def turnLeft (w : UInt32) (k : UInt32) : UInt32 :=
  (w <<< k) ||| (w >>> (32 - k))

/-- How a round mixes three words, and its constant. -/
def mixing (round : Nat) (b c d : UInt32) : UInt32 × UInt32 :=
  if round < 20 then ((b &&& c) ||| (~~~b &&& d), 0x5A827999)
  else if round < 40 then (b ^^^ c ^^^ d, 0x6ED9EBA1)
  else if round < 60 then ((b &&& c) ||| (b &&& d) ||| (c &&& d), 0x8F1BBCDC)
  else (b ^^^ c ^^^ d, 0xCA62C1D6)

/-- The word that follows sixteen words. -/
def nextWord : List UInt32 → UInt32
  | [w0, _, w2, _, _, _, _, _, w8, _, _, _, _, w13, _, _] =>
    turnLeft (w13 ^^^ w8 ^^^ w2 ^^^ w0) 1
  | _ => 0

/-- One round with the first of the sixteen words at hand. -/
def step (state : Chain × List UInt32) (round : Nat) : Chain × List UInt32 :=
  let (s, words) := state
  let (mixed, constant) := mixing round s.b s.c s.d
  let a := turnLeft s.a 5 + mixed + s.e + constant + words.headD 0
  (⟨a, s.a, turnLeft s.b 30, s.c, s.d⟩, words.tail ++ [nextWord words])

/-- The chain after one more block of sixteen words. -/
def Chain.absorb (s : Chain) (block : List UInt32) : Chain :=
  let (t, _) := (List.range 80).foldl step (s, block)
  ⟨s.a + t.a, s.b + t.b, s.c + t.c, s.d + t.d, s.e + t.e⟩

/-- The big-endian words of a row of bytes. -/
def wordsOf : List UInt8 → List UInt32
  | a :: b :: c :: d :: rest =>
    (a.toUInt32 <<< 24 ||| b.toUInt32 <<< 16 ||| c.toUInt32 <<< 8 ||| d.toUInt32) :: wordsOf rest
  | _ => []

/-- The message, a one bit, zeros up to eight bytes short of a whole block, and its length in bits. -/
def padded (message : List UInt8) : List UInt8 :=
  let zeros := (119 - message.length % 64) % 64
  let bits := message.length * 8
  message ++ [(0x80 : UInt8)] ++ List.replicate zeros (0 : UInt8) ++
    (List.range 8).map fun i => UInt8.ofNat (bits >>> (8 * (7 - i)))

/-- Blocks of sixteen words. -/
def blocksOf (words : List UInt32) : List (List UInt32) :=
  (List.range (words.length / 16)).map fun i => (words.drop (16 * i)).take 16

/-- The 160-bit digest of a message. -/
def digest (message : List UInt8) : Nat :=
  let s := (blocksOf (wordsOf (padded message))).foldl Chain.absorb .start
  Text.ofDigits 0x100000000 [s.a.toNat, s.b.toNat, s.c.toNat, s.d.toNat, s.e.toNat]

/-! ### Names -/

/-- The sixteen bytes of an identifier. -/
def bytes (id : Uuid) : List UInt8 :=
  (List.range 16).map fun i => UInt8.ofNat (id.bits.toNat >>> (8 * (15 - i)))

/-- The identifier of a name within a namespace. -/
def named (space : Uuid) (name : String) : Uuid :=
  versioned 5 (digest (space.bytes ++ Text.Utf8.encode name.toList) >>> 32)

/-- The namespace of names that are object identifiers. -/
def oidSpace : Uuid := ofNat 0x6ba7b8129dad11d180b400c04fd430c8

end Cashbook.Uuid
