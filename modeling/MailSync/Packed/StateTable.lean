import MailSync.Packed.Bits

/-!
# State tables

An entropy code with finitely many states. A state stands for a symbol and for the range of states
that may come next, of which bits of the stream choose one. A table is made from the frequencies of
its symbols: a symbol has as many states as its frequency says.
-/

namespace MailSync

namespace Packed

/-- A state of a table. -/
structure CodeState where
  /-- The symbol that the state stands for. -/
  symbol : Nat
  /-- How many bits choose the next state. -/
  width : Nat
  /-- The next state if these bits are zeros. -/
  base : Nat
  deriving DecidableEq, Repr

/-- A table of states. -/
structure StateTable where
  /-- How many bits choose the first state. -/
  width : Nat
  /-- The states. -/
  states : Array CodeState
  deriving DecidableEq, Repr

namespace StateTable

/-- The table of one state, in which every symbol is the same. -/
def constant (symbol : Nat) : StateTable :=
  ⟨0, #[⟨symbol, 0, 0⟩]⟩

/-- Numbers the states of each symbol, given the symbols of all states in order. The number for the
next state of a symbol starts at its frequency, and says how many bits the state reads. -/
def numberStates (width : Nat) : (next : Array Nat) → List Nat → List CodeState
  | _, [] => []
  | next, symbol :: rest =>
    let number := next.getD symbol 1
    let bits := width - number.log2
    ⟨symbol, bits, (number <<< bits) - 1 <<< width⟩ ::
      numberStates width (next.setIfInBounds symbol (number + 1)) rest

/-- The table for the frequencies of symbols 0, 1 and so on. Frequency -1 is that of a rare symbol,
which has one state at the end of the table. The states of the others are spread by a fixed step
over what is left. -/
def ofFrequencies (width : Nat) (frequencies : List Int) : StateTable :=
  let size := 1 <<< width
  let step := size / 2 + size / 8 + 3
  let rare := (frequencies.zipIdx.filter (·.1 = -1)).map (·.2)
  let common := frequencies.zipIdx.flatMap fun (f, symbol) => List.replicate f.toNat symbol
  let places := ((List.range size).map (· * step % size)).filter (· < size - rare.length)
  let spread := ((places.zip common).mergeSort (·.1 ≤ ·.1)).map (·.2)
  let next := (frequencies.map Int.natAbs).toArray
  ⟨width, (numberStates width next (spread ++ rare.reverse)).toArray⟩

/-! ### Written tables -/

/-- The length of a run of symbols that do not occur, and the stream behind it. Two bits hold up to
three symbols, and three of them mean that more may follow. -/
def absentRun : List Bool → Nat × List Bool
  | true :: true :: rest => ((absentRun rest).1 + 3, (absentRun rest).2)
  | low :: high :: rest => (low.toNat + 2 * high.toNat, rest)
  | _ => (0, [])

/-- Reads the frequencies of at most `symbols` symbols that have `left` states together, where the
first `absent` ones do not occur: the frequencies, and the stream behind them. A frequency is
written plus one, and 0 is that of a rare symbol. The numbers that can still occur take one bit less
where this leaves no doubt. -/
def frequenciesFrom? : (symbols absent left : Nat) → List Bool → Option (List Int × List Bool)
  | _, 0, 0, bits => some ([], bits)
  | 0, _, _, _ => none
  | symbols + 1, absent + 1, left, bits =>
    (frequenciesFrom? symbols absent left bits).map fun (fs, rest) => (0 :: fs, rest)
  | symbols + 1, 0, left, bits =>
    let width := (left + 1).log2
    let short := natOfBits (bits.take width)
    let long := natOfBits (bits.take (width + 1))
    let spare := (1 <<< (width + 1)) - (left + 2)
    let (value, rest) :=
      if short < spare then (short, bits.drop width)
      else (if long < 1 <<< width then long else long - spare, bits.drop (width + 1))
    match value with
    | 0 =>
      (frequenciesFrom? symbols 0 (left - 1) rest).map fun (fs, rest) => (-1 :: fs, rest)
    | 1 =>
      let (absent, rest) := absentRun rest
      (frequenciesFrom? symbols absent left rest).map fun (fs, rest) => (0 :: fs, rest)
    | f + 2 =>
      (frequenciesFrom? symbols 0 (left - (f + 1)) rest).map fun (fs, rest) =>
        (Int.ofNat (f + 1) :: fs, rest)

/-- Reads a table of at most `symbols` symbols, with a bound on the bits that choose its first
state: the table, and the bytes behind it. Behind the last byte zeros may be looked at, but not
used. -/
def read? (maxWidth symbols : Nat) (s : List UInt8) : Option (StateTable × List UInt8) :=
  let bits := forwardBits s ++ List.replicate 32 false
  let width := natOfBits (bits.take 4) + 5
  if maxWidth < width then none
  else
    match frequenciesFrom? symbols 0 (1 <<< width) (bits.drop 4) with
    | some (frequencies, rest) =>
      let used := (bits.length - rest.length + 7) / 8
      if s.length < used then none else some (ofFrequencies width frequencies, s.drop used)
    | none => none

end StateTable

end Packed

end MailSync
