import MailSync.Packed.Bits

/-!
# Frame headers

What a frame says about itself before its blocks, and what this allows them. A short frame is
unpacked at once, and has to be what it says. A long one is unpacked block by block through a
buffer, which has to hold its window.
-/

namespace MailSync

namespace Packed

/-- The header of a frame. -/
structure FrameHeader where
  /-- How far back a sequence may copy from. -/
  window : Nat
  /-- The number of bytes in the frame. -/
  size? : Option Nat
  /-- There is a checksum behind the blocks. -/
  checked : Bool
  deriving DecidableEq, Repr

namespace FrameHeader

/-- The mark in front of a frame. -/
def mark : List UInt8 :=
  [0x28, 0xB5, 0x2F, 0xFD]

/-- The window that a byte writes: a power of two from 1024 on, and eighths of it. -/
def windowOf (b : UInt8) : Nat :=
  let base := 1 <<< (b.toNat / 8 + 10)
  base + base / 8 * (b.toNat % 8)

/-- The size of the longest short frames. -/
def shortSize : Nat :=
  8192

/-- The widest window that can be written. -/
def widestWindow : Nat :=
  0xFFFFFFFF

/-- The widest window of a long frame. -/
def widestLongWindow : Nat :=
  0x8000001

/-- The frame is short: it says so. -/
def isShort (h : FrameHeader) : Bool :=
  h.size?.any (· ≤ shortSize)

/-- Reads a header behind its mark: the header, and the bytes behind it. A frame that needs a
dictionary or a window that is too wide is refused. Where no window is written, it is the whole
frame. The greatest size of 64 bits stands for an unknown one. -/
def read? (s : List UInt8) : Option (FrameHeader × List UInt8) := do
  let (head, s) ← splitAt? 1 s
  let flags := natOfBytes head
  let whole := flags / 32 % 2 = 1
  let (window, s) ← splitAt? (if whole then 0 else 1) s
  let (dictionary, s) ← splitAt? ((1 <<< (flags % 4)) / 2) s
  let form := flags / 64
  let (size, s) ← splitAt? (if form = 0 then (if whole then 1 else 0) else 1 <<< form) s
  let number := natOfBytes size + (if form = 1 then 256 else 0)
  let size? := if size.isEmpty ∨ number = 0xFFFFFFFFFFFFFFFF then none else some number
  let header := ⟨(window.head?.map windowOf).getD number, size?, flags / 4 % 2 = 1⟩
  let widest := if header.isShort then widestWindow else widestLongWindow
  if flags / 8 % 2 = 1 ∨ natOfBytes dictionary ≠ 0 ∨ widest < header.window then none
  else return (header, s)

/-- The most bytes that a packed block or its literals take. -/
def maxBlock (h : FrameHeader) : Nat :=
  min h.window (1 <<< 17)

/-- The size of the buffer for a long frame that is not smaller itself. -/
def bufferSize (h : FrameHeader) : Nat :=
  h.window + 2 * h.maxBlock + 64

/-- The most bytes that a block adds to those that have been unpacked. In a long frame that fits
into the buffer, the size that it says bounds them too. -/
def room (h : FrameHeader) (done : Nat) : Nat :=
  if h.isShort then shortSize - done
  else
    match h.size? with
    | some size => if size ≤ h.bufferSize then min h.maxBlock (size - done) else h.maxBlock
    | none => h.maxBlock

end FrameHeader

end Packed

end MailSync
