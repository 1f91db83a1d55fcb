import MailSync.Packed.StateTable

/-!
# Prefix codes

A code in which every byte has a sequence of bits that starts no other one's. A code is written as a
list of weights: a byte of weight `w` fills `2 ^ (w - 1)` places of a table that is indexed by as
many bits as the longest sequence has, so heavier bytes have shorter sequences, and weight 0 is that
of a byte without any.
-/

namespace MailSync

namespace Packed

/-- A prefix code. -/
structure PrefixCode where
  /-- The length of the longest sequence. -/
  width : Nat
  /-- For all bits of this number: the byte whose sequence they start with, and its length. -/
  entries : Array (UInt8 × Nat)
  deriving DecidableEq, Repr

namespace PrefixCode

/-- The code for weights of bytes 0, 1 and so on. The last byte is not among them: its weight is the
one that fills the table. No sequence may have more than 12 bits, and at least two of the longest
have to be there. -/
def ofWeights? (weights : List Nat) : Option PrefixCode :=
  let filled := weights.foldl (fun n w => n + (1 <<< w) / 2) 0
  let width := filled.log2 + 1
  let left := (1 <<< width) - filled
  let all := weights ++ [left.log2 + 1]
  if filled = 0 ∨ 12 < width ∨ left ≠ 1 <<< left.log2 ∨ all.count 1 < 2 then none
  else
    let places (n : Nat) : List (UInt8 × Nat) :=
      all.zipIdx.flatMap fun (w, symbol) =>
        if w = n + 1 then List.replicate (1 <<< n) (UInt8.ofNat symbol, width - n) else []
    some ⟨width, ((List.range width).flatMap places).toArray⟩

/-- Reads as many bytes as a number says from a backward stream that holds no others. Those read
before are `out`. -/
def bytesFrom? (c : PrefixCode) : (n : Nat) → (out : Array UInt8) → List Bool → Option (Array UInt8)
  | 0, out, bits => if bits.isEmpty then some out else none
  | n + 1, out, bits =>
    match c.entries[peekBits c.width bits]? with
    | some (b, length) =>
      match dropBits? length bits with
      | some rest => c.bytesFrom? n (out.push b) rest
      | none => none
    | none => none

/-- The bytes that a number of them is packed to. -/
def unpack? (c : PrefixCode) (n : Nat) (s : List UInt8) : Option (Array UInt8) :=
  (backwardBits? s).bind (c.bytesFrom? n #[])

/-- Reads as many bytes as a number says from a stream that may hold others: the bytes, behind those
read before, and the bits behind them. Bits that are missing count as zeros, and a stream that has
come to its end goes on with the bits of `again`. -/
def readBytes (c : PrefixCode) (again : List Bool) : (n : Nat) → (out : Array UInt8) →
    List Bool → Array UInt8 × List Bool
  | 0, out, bits => (out, bits)
  | n + 1, out, bits =>
    let (b, length) := c.entries.getD (peekBits c.width bits) (0, 1)
    let rest := bits.drop length
    let rest := if rest.isEmpty then again.drop (length - bits.length) else rest
    c.readBytes again n (out.push b) rest

/-! ### Written codes -/

/-- Reads weights by turns from two states of a table, until the stream has too few bits for a next
state; the other state stands for the last weight. -/
def weightsFrom? (t : StateTable) : (fuel : Nat) → (state other : Nat) → List Bool →
    Option (List Nat)
  | 0, _, _, _ => none
  | fuel + 1, state, other, bits =>
    match t.states[state]?, t.states[other]? with
    | some s, some o =>
      match takeBits? s.width bits with
      | some (m, rest) => (weightsFrom? t fuel other (s.base + m) rest).map (s.symbol :: ·)
      | none => some [s.symbol, o.symbol]
    | _, _ => none

/-- The weights that are packed with a table in front of them, at most 255. -/
def packedWeights? (s : List UInt8) : Option (List Nat) := do
  let (t, rest) ← StateTable.read? 6 256 s
  let bits ← backwardBits? rest
  let (state, bits) ← takeBits? t.width bits
  let (other, bits) ← takeBits? t.width bits
  weightsFrom? t 254 state other bits

/-- Reads a code: the code, and the bytes behind it. The weights are packed, or take half a byte
each. -/
def read? (s : List UInt8) : Option (PrefixCode × List UInt8) :=
  match s with
  | [] => none
  | head :: rest =>
    if head < 128 then do
      let (front, rest) ← splitAt? head.toNat rest
      return (← ofWeights? (← packedWeights? front), rest)
    else do
      let count := head.toNat - 127
      let (front, rest) ← splitAt? ((count + 1) / 2) rest
      let weights := front.flatMap fun b => [b.toNat / 16, b.toNat % 16]
      return (← ofWeights? (weights.take count), rest)

end PrefixCode

end Packed

end MailSync
