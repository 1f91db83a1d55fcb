/-!
# Checksums

A hash of 64 bits of a byte sequence. Four lanes take the sequence in stripes of four words of eight
bytes; their values are merged, and what is left is added word by word and byte by byte. This is the
hash XXH64 with seed 0.
-/

namespace MailSync

namespace Packed

namespace Checksum

/-- The first multiplier. -/
def prime1 : UInt64 := 0x9E3779B185EBCA87

/-- The second multiplier. -/
def prime2 : UInt64 := 0xC2B2AE3D27D4EB4F

/-- The third multiplier. -/
def prime3 : UInt64 := 0x165667B19E3779F9

/-- The fourth multiplier. -/
def prime4 : UInt64 := 0x85EBCA77C2B2AE63

/-- The fifth multiplier. -/
def prime5 : UInt64 := 0x27D4EB2F165667C5

/-- A word turned left by fewer than 64 bits. -/
def turn (w : UInt64) (n : UInt64) : UInt64 :=
  w <<< n ||| w >>> (64 - n)

/-- The word that bytes write, least significant first. -/
def wordOf (s : List UInt8) : UInt64 :=
  s.foldr (fun b w => b.toUInt64 ||| w <<< 8) 0

/-- The whole words of a byte sequence. -/
def words : List UInt8 → List UInt64
  | a :: b :: c :: d :: e :: f :: g :: h :: rest => wordOf [a, b, c, d, e, f, g, h] :: words rest
  | _ => []

/-- The value of a lane after a word. -/
def round (lane w : UInt64) : UInt64 :=
  turn (lane + w * prime2) 31 * prime1

/-- The four lanes. -/
structure Lanes where
  a : UInt64
  b : UInt64
  c : UInt64
  d : UInt64

/-- The lanes before the first stripe. -/
def Lanes.start : Lanes :=
  ⟨prime1 + prime2, prime2, 0, 0 - prime1⟩

/-- The lanes after all whole stripes of a sequence of words. -/
def Lanes.take (l : Lanes) : List UInt64 → Lanes
  | a :: b :: c :: d :: rest => take ⟨round l.a a, round l.b b, round l.c c, round l.d d⟩ rest
  | _ => l

/-- A hash into which a lane has been merged. -/
def merge (hash lane : UInt64) : UInt64 :=
  (hash ^^^ round 0 lane) * prime1 + prime4

/-- The value of the lanes. -/
def Lanes.value (l : Lanes) : UInt64 :=
  [l.a, l.b, l.c, l.d].foldl merge (turn l.a 1 + turn l.b 7 + turn l.c 12 + turn l.d 18)

/-- A hash after a word of eight bytes. -/
def addWord (hash w : UInt64) : UInt64 :=
  turn (hash ^^^ round 0 w) 27 * prime1 + prime4

/-- A hash after a word of four bytes. -/
def addHalf (hash w : UInt64) : UInt64 :=
  turn (hash ^^^ w * prime1) 23 * prime2 + prime3

/-- A hash after a byte. -/
def addByte (hash : UInt64) (b : UInt8) : UInt64 :=
  turn (hash ^^^ b.toUInt64 * prime5) 11 * prime1

/-- A hash after fewer than eight bytes. -/
def addBytes (hash : UInt64) : List UInt8 → UInt64
  | a :: b :: c :: d :: rest => rest.foldl addByte (addHalf hash (wordOf [a, b, c, d]))
  | rest => rest.foldl addByte hash

/-- A hash with its bits mixed. -/
def mix (hash : UInt64) : UInt64 :=
  let hash := (hash ^^^ hash >>> 33) * prime2
  let hash := (hash ^^^ hash >>> 29) * prime3
  hash ^^^ hash >>> 32

/-- The checksum of a byte sequence. -/
def ofBytes (s : List UInt8) : UInt64 :=
  let tail := s.drop (s.length / 32 * 32)
  let hash := if s.length < 32 then prime5 else (Lanes.start.take (words s)).value
  let hash := hash + UInt64.ofNat s.length
  let hash := (words tail).foldl addWord hash
  mix (addBytes hash (tail.drop (tail.length / 8 * 8)))

end Checksum

end Packed

end MailSync
