import MailSync.Packed.Header
import MailSync.Packed.Literals
import MailSync.Packed.Sequences

/-!
# Blocks

A block adds to the bytes that have been unpacked. A plain block holds them, a repeated block holds
one byte that stands for many, and a packed block holds literals and the sequences that copy earlier
bytes between them.
-/

namespace MailSync

namespace Packed

/-- How a block holds its bytes. -/
inductive BlockKind where
  /-- As they are. -/
  | plain
  /-- As one byte that stands for many. -/
  | repeated
  /-- As literals and sequences. -/
  | packed
  deriving DecidableEq, Repr

/-- The header of a block. -/
structure BlockHeader where
  kind : BlockKind
  /-- How many bytes the block takes, or how many one byte stands for. -/
  size : Nat
  /-- The block is the last one of its frame. -/
  last : Bool
  deriving DecidableEq, Repr

namespace BlockHeader

/-- Reads a header: the header, and the bytes behind it. -/
def read? (s : List UInt8) : Option (BlockHeader × List UInt8) := do
  let (head, s) ← splitAt? 3 s
  let flags := natOfBytes head
  let kind ←
    match flags / 2 % 4 with
    | 0 => some .plain
    | 1 => some .repeated
    | 2 => some .packed
    | _ => none
  return (⟨kind, flags / 8, flags % 2 = 1⟩, s)

/-- The block takes no bytes behind its header. -/
def isEmpty (b : BlockHeader) : Bool :=
  b.kind ≠ .repeated ∧ b.size = 0

end BlockHeader

/-- The last three different distances, the latest first. -/
structure RecentDistances where
  first : Nat
  second : Nat
  third : Nat

/-- What the blocks of a frame hand on. -/
structure Unpacked where
  /-- The bytes so far. -/
  bytes : Array UInt8
  /-- The last distances that bytes were copied from. -/
  recent : RecentDistances
  /-- The last prefix code. -/
  code? : Option PrefixCode
  /-- The last tables for sequences. -/
  tables? : Option SequenceTables

/-- Nothing has been unpacked. -/
def Unpacked.start : Unpacked :=
  ⟨#[], ⟨1, 4, 8⟩, none, none⟩

namespace RecentDistances

/-- The distances after one has been used that is not among them. -/
def push (r : RecentDistances) (distance : Nat) : RecentDistances :=
  ⟨distance, r.first, r.second⟩

/-- The distance of a sequence, and the distances after it. The numbers up to three are those of
recent distances; behind no literals each stands for the next one, and the last for one less than
the latest distance. -/
def use? (r : RecentDistances) (s : Sequence) : Option (Nat × RecentDistances) :=
  if 3 < s.distance then some (s.distance - 3, r.push (s.distance - 3))
  else
    match if s.literals = 0 then s.distance + 1 else s.distance with
    | 1 => some (r.first, r)
    | 2 => some (r.second, ⟨r.second, r.first, r.third⟩)
    | 3 => some (r.third, r.push r.third)
    | _ => if r.first ≤ 1 then none else some (r.first - 1, r.push (r.first - 1))

end RecentDistances

/-- Bytes to which some have been added that stand at a distance before each. -/
def copyBack (distance : Nat) : (n : Nat) → Array UInt8 → Array UInt8
  | 0, bytes => bytes
  | n + 1, bytes => copyBack distance n (bytes.push (bytes.getD (bytes.size - distance) 0))

/-- Runs sequences that take literals in order, up to a number of bytes: the bytes, the recent
distances, and the literals that are left. -/
def runSequences? (limit : Nat) : List Sequence → Array UInt8 → RecentDistances → List UInt8 →
    Option (Array UInt8 × RecentDistances × List UInt8)
  | [], bytes, recent, literals => some (bytes, recent, literals)
  | s :: rest, bytes, recent, literals => do
    let (front, literals) ← splitAt? s.literals literals
    let bytes := bytes.append front.toArray
    let (distance, recent) ← recent.use? s
    if bytes.size < distance ∨ limit < bytes.size + s.copy then none
    else runSequences? limit rest (copyBack distance s.copy bytes) recent literals

namespace Unpacked

/-- Adds a packed block of at most `room` bytes, with at most `maxLiterals` literals. -/
def addPacked? (u : Unpacked) (maxLiterals room : Nat) (s : List UInt8) : Option Unpacked := do
  let literals ← Literals.read? u.code? s
  let (sequences, tables?) ← readSequences? u.tables? literals.rest
  let (bytes, recent, left) ←
    runSequences? (u.bytes.size + room) sequences u.bytes u.recent literals.bytes.toList
  let bytes := bytes.append left.toArray
  if maxLiterals < literals.bytes.size ∨ room < bytes.size - u.bytes.size then none
  else return ⟨bytes, recent, literals.code?, tables?⟩

/-- Adds a block of a frame, given its header, from the front of a byte sequence: what has been
unpacked then, and the bytes behind the block. An empty block adds nothing to a long frame, even
where it should be packed. -/
def addBlock? (u : Unpacked) (h : FrameHeader) (b : BlockHeader) (s : List UInt8) :
    Option (Unpacked × List UInt8) := do
  let room := h.room u.bytes.size
  match b.kind with
  | .plain =>
    let (data, rest) ← splitAt? b.size s
    if room < b.size then none
    else return ({ u with bytes := u.bytes.append data.toArray }, rest)
  | .repeated =>
    match s with
    | byte :: rest =>
      if room < b.size then none
      else return ({ u with bytes := u.bytes.append (Array.replicate b.size byte) }, rest)
    | [] => none
  | .packed =>
    let (data, rest) ← splitAt? b.size s
    if b.isEmpty && !h.isShort then return (u, rest)
    else if h.maxBlock < b.size then none
    else return (← u.addPacked? h.maxBlock room data, rest)

end Unpacked

end Packed

end MailSync
