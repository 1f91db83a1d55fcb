import MailSync.Packed.Block
import MailSync.Packed.Checksum

/-!
# Frames

Packed bytes in the Zstandard format: frames one behind the other, each with a header, blocks and
sometimes a checksum. A frame of another kind holds bytes that are passed over.
-/

namespace MailSync

namespace Packed

/-- Reads blocks up to the last one of a frame: what has been unpacked, and the bytes behind. In the
end it has the size that the header says, unless the frame is a long one and the last block is
empty. -/
def blocksFrom? (h : FrameHeader) : (fuel : Nat) → Unpacked → List UInt8 →
    Option (Unpacked × List UInt8)
  | 0, _, _ => none
  | fuel + 1, u, s => do
    let (b, s) ← BlockHeader.read? s
    let (u, s) ← u.addBlock? h b s
    if !b.last then blocksFrom? h fuel u s
    else if h.size?.any (· ≠ u.bytes.size) && (h.isShort || !b.isEmpty) then none
    else return (u, s)

/-- Reads a frame behind its mark: the bytes in it, and those behind it. -/
def frame? (s : List UInt8) : Option (List UInt8 × List UInt8) := do
  let (header, s) ← FrameHeader.read? s
  let (u, s) ← blocksFrom? header s.length .start s
  let bytes := u.bytes.toList
  let (check, s) ← splitAt? (if header.checked then 4 else 0) s
  let checksum := (Checksum.ofBytes bytes).toNat % UInt32.size
  if header.checked ∧ natOfBytes check ≠ checksum then none else return (bytes, s)

/-- Passes over a frame behind its mark whose bytes do not count. -/
def passed? (s : List UInt8) : Option (List UInt8) := do
  let (size, s) ← splitAt? 4 s
  let (_, s) ← splitAt? (natOfBytes size) s
  return s

/-- The bytes in frames, each of which takes some of the fuel. -/
def framesFrom? : (fuel : Nat) → List UInt8 → Option (List UInt8)
  | 0, s => if s.isEmpty then some [] else none
  | fuel + 1, s =>
    if s.isEmpty then some []
    else do
      let (head, s) ← splitAt? 4 s
      if head = FrameHeader.mark then
        let (bytes, s) ← frame? s
        return bytes ++ (← framesFrom? fuel s)
      else if natOfBytes head / 16 = 0x184D2A5 then framesFrom? fuel (← passed? s)
      else none

/-- The bytes that a byte sequence unpacks to. There has to be at least one frame. -/
def unpack? (s : List UInt8) : Option (List UInt8) :=
  if s.isEmpty then none else framesFrom? s.length s

end Packed

end MailSync
