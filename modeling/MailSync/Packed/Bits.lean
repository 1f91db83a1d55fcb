/-!
# Bit streams

Bytes as sequences of bits and as numbers. A forward stream starts at the least significant bit of
the first byte. A backward stream starts at the most significant bit of the last byte, behind the
highest bit that is set there.
-/

namespace MailSync

namespace Packed

/-- The number that bytes write, least significant first. -/
def natOfBytes (s : List UInt8) : Nat :=
  s.foldr (fun b n => b.toNat + 256 * n) 0

/-- The first bytes of a sequence, and those behind them, if it has so many. -/
def splitAt? (n : Nat) (s : List UInt8) : Option (List UInt8 × List UInt8) :=
  let front := s.take n
  if front.length = n then some (front, s.drop n) else none

/-- The bits of a byte, least significant first. -/
def bitsOf (b : UInt8) : List Bool :=
  (List.range 8).map b.toNat.testBit

/-- The forward stream of a byte sequence. -/
def forwardBits (s : List UInt8) : List Bool :=
  s.flatMap bitsOf

/-- The backward stream of a byte sequence, if its last byte has a bit set. -/
def backwardBits? (s : List UInt8) : Option (List Bool) :=
  match s.getLast? with
  | some last =>
    if last = 0 then none else some ((forwardBits s).reverse.dropWhile (!·)).tail
  | none => none

/-- The number that bits write, least significant first. -/
def natOfBits (bits : List Bool) : Nat :=
  bits.foldr (fun b n => b.toNat + 2 * n) 0

/-- The number that the first bits of a stream write, most significant first. Bits that are missing
count as zeros. -/
def peekBits (n : Nat) (bits : List Bool) : Nat :=
  let front := bits.take n
  front.foldl (fun m b => 2 * m + b.toNat) 0 <<< (n - front.length)

/-- A stream without its first bits, if it has so many. -/
def dropBits? (n : Nat) (bits : List Bool) : Option (List Bool) :=
  if (bits.take n).length = n then some (bits.drop n) else none

/-- The number that the first bits of a stream write, most significant first, and the bits behind
them, if there are so many. -/
def takeBits? (n : Nat) (bits : List Bool) : Option (Nat × List Bool) :=
  (dropBits? n bits).map (peekBits n bits, ·)

end Packed

end MailSync
