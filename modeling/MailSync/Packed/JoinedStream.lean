import MailSync.Packed.PrefixCode

/-!
# Joined streams

Backward streams of a prefix code that stand one behind the other. They are read side by side, five
bytes of each in a round, and then one by one. A stream may leave bits over. One that has too few
goes on with those in front of it, as long as it has not got there before the end of the rounds.
-/

namespace MailSync

namespace Packed

/-- A stream with the bytes in front of it. -/
structure JoinedStream where
  /-- How many bits are in front of the stream. -/
  start : Nat
  /-- How many bytes it holds. -/
  size : Nat
  /-- The bytes that have been read. -/
  bytes : Array UInt8
  /-- The bits that have not been read, with those in front of the stream. -/
  bits : List Bool

namespace JoinedStream

/-- Streams of given sizes, each behind the parts before it, that stand behind other bytes. A part
whose last byte is zero is a stream from its last bit on. -/
def ofParts (front : List UInt8) : List (Nat × List UInt8) → List JoinedStream
  | [] => []
  | (size, part) :: rest =>
    let whole := front ++ part
    let bits := (backwardBits? whole).getD (forwardBits whole).reverse
    ⟨8 * front.length, size, #[], bits⟩ :: ofParts whole rest

/-- The stream after a number of bytes have been read, with the bits that it goes on with behind its
end. -/
def read (c : PrefixCode) (again : List Bool) (n : Nat) (s : JoinedStream) : JoinedStream :=
  let (bytes, bits) := c.readBytes again n s.bytes s.bits
  { s with bytes, bits }

/-- The streams after at most `n` rounds. There is no round unless the first stream has more than 14
bytes left, with those in front of it. -/
def rounds (c : PrefixCode) : (n : Nat) → List JoinedStream → List JoinedStream
  | 0, streams => streams
  | n + 1, streams =>
    if streams.head?.any fun s => (s.bits.drop 112).isEmpty then streams
    else rounds c n (streams.map (·.read c [] 5))

/-- The stream has not gone back further than into the byte in front of it. -/
def isWithin (s : JoinedStream) : Bool :=
  s.start < s.bits.length + 8

/-- The bytes of streams, the last of which holds the fewest, given the bytes in front of the first
one. A stream that has come to the front of these goes through the first eight bytes again. -/
def unpack? (c : PrefixCode) (front : List UInt8) (parts : List (Nat × List UInt8)) :
    Option (Array UInt8) :=
  let least := (parts.getLast?.map (·.1)).getD 0
  let streams := rounds c (least / 5) (ofParts front parts)
  let whole := parts.foldl (fun s (_, part) => s ++ part) front
  let again := (forwardBits (whole.take 8)).reverse
  if streams.all isWithin then
    some (streams.foldl (fun out s => out ++ (s.read c again (s.size - s.bytes.size)).bytes) #[])
  else none

end JoinedStream

end Packed

end MailSync
