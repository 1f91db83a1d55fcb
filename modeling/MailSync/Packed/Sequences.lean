import MailSync.Packed.StateTable

/-!
# Sequences

The second section of a packed block. A sequence takes some literals and then copies bytes from
earlier ones. Its three numbers are coded separately: a symbol, which gives a least value, and bits
that are added to it.
-/

namespace MailSync

namespace Packed

/-- The states that code one of the three numbers, where symbols differ only in their number. -/
structure Alphabet where
  /-- How many symbols there are. -/
  symbols : Nat
  /-- The most bits that may choose the first state. -/
  maxWidth : Nat
  /-- The table of sections that have none of their own. -/
  common : StateTable

/-- The numbers of literals. -/
def literalAlphabet : Alphabet :=
  ⟨36, 9, .ofFrequencies 6
    ([4, 3, 2, 2, 2, 2, 2, 2, 2, 2, 2, 2, 2, 1, 1, 1, 2, 2, 2, 2, 2, 2, 2, 2, 2, 3, 2, 1, 1, 1, 1,
      1, -1, -1, -1, -1])⟩

/-- The distances to copy from. -/
def distanceAlphabet : Alphabet :=
  ⟨32, 8, .ofFrequencies 5
    [1, 1, 1, 1, 1, 1, 2, 2, 2, 1, 1, 1, 1, 1, 1, 1, 1, 1, 1, 1, 1, 1, 1, 1, -1, -1, -1, -1, -1]⟩

/-- The numbers of bytes to copy. -/
def copyAlphabet : Alphabet :=
  ⟨53, 9, .ofFrequencies 6
    ([1, 4, 3, 2, 2, 2, 2, 2, 2, 1, 1, 1, 1, 1, 1, 1, 1, 1, 1, 1, 1, 1, 1, 1, 1, 1, 1, 1, 1, 1, 1,
      1, 1, 1, 1, 1, 1, 1, 1, 1, 1, 1, 1, 1, 1, 1, -1, -1, -1, -1, -1, -1, -1])⟩

/-- How many bits are added to the least value of a symbol for literals, from symbol 16 on. -/
def literalBits : List Nat :=
  [1, 1, 1, 1, 2, 2, 3, 3, 4, 6, 7, 8, 9, 10, 11, 12, 13, 14, 15, 16]

/-- How many bits are added to the least value of a symbol for copies, from symbol 32 on. -/
def copyBits : List Nat :=
  [1, 1, 1, 1, 2, 2, 3, 3, 4, 4, 5, 7, 8, 9, 10, 11, 12, 13, 14, 15, 16]

/-- The least values and the bits of consecutive symbols, where the values go on without a gap. -/
def ranges : (least : Nat) → (bits : List Nat) → List (Nat × Nat)
  | _, [] => []
  | least, n :: rest => (least, n) :: ranges (least + 1 <<< n) rest

/-- The least value and the bits of each symbol for literals. The first 16 stand for themselves. -/
def literalRanges : Array (Nat × Nat) :=
  (ranges 0 (List.replicate 16 0 ++ literalBits)).toArray

/-- The least value and the bits of each symbol for copies. A copy has at least three bytes. -/
def copyRanges : Array (Nat × Nat) :=
  (ranges 3 (List.replicate 32 0 ++ copyBits)).toArray

/-- The tables for the three numbers. -/
structure SequenceTables where
  literals : StateTable
  distance : StateTable
  copy : StateTable

/-- A sequence. -/
structure Sequence where
  /-- How many literals it takes. -/
  literals : Nat
  /-- The distance to copy from, plus three, or the number of a recent distance. -/
  distance : Nat
  /-- How many bytes it copies. -/
  copy : Nat
  deriving DecidableEq, Repr

/-- The states of the three numbers. -/
structure SequenceStates where
  literals : Nat
  distance : Nat
  copy : Nat

namespace Sequence

/-- Reads as many sequences as a number says from a backward stream that holds no others. Those read
before are `out`, last first. Between two sequences the stream chooses the next states. -/
def readFrom? (t : SequenceTables) : (n : Nat) → SequenceStates → (out : List Sequence) →
    List Bool → Option (List Sequence)
  | 0, _, out, bits => if bits.isEmpty then some out.reverse else none
  | n + 1, states, out, bits => do
    let l ← t.literals.states[states.literals]?
    let d ← t.distance.states[states.distance]?
    let c ← t.copy.states[states.copy]?
    let (leastLiterals, literalBits) ← literalRanges[l.symbol]?
    let (leastCopy, copyBits) ← copyRanges[c.symbol]?
    let (distance, bits) ← takeBits? d.symbol bits
    let (copy, bits) ← takeBits? copyBits bits
    let (literals, bits) ← takeBits? literalBits bits
    let out := ⟨leastLiterals + literals, 1 <<< d.symbol + distance, leastCopy + copy⟩ :: out
    if n = 0 then readFrom? t n states out bits
    else
      let (literals, bits) ← takeBits? l.width bits
      let (copy, bits) ← takeBits? c.width bits
      let (distance, bits) ← takeBits? d.width bits
      readFrom? t n ⟨l.base + literals, d.base + distance, c.base + copy⟩ out bits

/-- Reads the first states and then the sequences of a stream. -/
def readStream? (t : SequenceTables) (n : Nat) (s : List UInt8) : Option (List Sequence) := do
  let bits ← backwardBits? s
  let (literals, bits) ← takeBits? t.literals.width bits
  let (distance, bits) ← takeBits? t.distance.width bits
  let (copy, bits) ← takeBits? t.copy.width bits
  readFrom? t n ⟨literals, distance, copy⟩ [] bits

end Sequence

/-- Reads a table by its mode: that of all sections without their own, a constant one, one written
here, or that of the last block that had sequences. -/
def Alphabet.read? (a : Alphabet) (mode : Nat) (last? : Option StateTable) (s : List UInt8) :
    Option (StateTable × List UInt8) :=
  match mode with
  | 0 => some (a.common, s)
  | 1 =>
    match s with
    | b :: rest => if b.toNat < a.symbols then some (.constant b.toNat, rest) else none
    | [] => none
  | 2 => StateTable.read? a.maxWidth a.symbols s
  | _ => last?.map (·, s)

/-- Reads the number of sequences: the number, and the bytes behind it. -/
def readCount? (s : List UInt8) : Option (Nat × List UInt8) :=
  match s with
  | [] => none
  | a :: rest =>
    if a < 128 then some (a.toNat, rest)
    else if a < 255 then (splitAt? 1 rest).map fun (b, rest) =>
      ((a.toNat - 128) * 256 + natOfBytes b, rest)
    else (splitAt? 2 rest).map fun (b, rest) => (natOfBytes b + 0x7F00, rest)

/-- Reads a section of sequences, given the tables of earlier blocks: the sequences, and the tables
that later blocks may use. A section without sequences has nothing but their number. -/
def readSequences? (last? : Option SequenceTables) (s : List UInt8) :
    Option (List Sequence × Option SequenceTables) := do
  let (n, s) ← readCount? s
  if n = 0 then (if s.isEmpty then some ([], last?) else none)
  else
    let (mode, s) ← splitAt? 1 s
    let modes := natOfBytes mode
    let (literals, s) ← literalAlphabet.read? (modes / 64) (last?.map (·.literals)) s
    let (distance, s) ← distanceAlphabet.read? (modes / 16 % 4) (last?.map (·.distance)) s
    let (copy, s) ← copyAlphabet.read? (modes / 4 % 4) (last?.map (·.copy)) s
    let tables := ⟨literals, distance, copy⟩
    if modes % 4 = 0 then return (← Sequence.readStream? tables n s, some tables) else none

end Packed

end MailSync
