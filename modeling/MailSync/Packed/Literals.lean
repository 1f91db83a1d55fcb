import MailSync.Packed.JoinedStream

/-!
# Literals

The first section of a packed block: the bytes that are not copied from earlier ones. They stand for
themselves, are one byte repeated, or are packed with a prefix code, which is the section's own or
that of the last block that had one.
-/

namespace MailSync

namespace Packed

/-- What a section of literals holds. -/
structure Literals where
  /-- The literals. -/
  bytes : Array UInt8
  /-- The prefix code that later blocks may use. -/
  code? : Option PrefixCode
  /-- The bytes behind the section. -/
  rest : List UInt8

namespace Literals

/-- Reads a section of literals that are not packed. -/
def readPlain? (code? : Option PrefixCode) (repeated : Bool) (s : List UInt8) :
    Option Literals := do
  let form := natOfBytes (s.take 1) / 4 % 4
  let (head, rest) ← splitAt? (if form = 1 then 2 else if form = 3 then 3 else 1) s
  let size := natOfBytes head / (if form % 2 = 1 then 16 else 8)
  if repeated then
    match rest with
    | b :: rest => some ⟨Array.replicate size b, code?, rest⟩
    | [] => none
  else
    let (front, rest) ← splitAt? size rest
    return ⟨front.toArray, code?, rest⟩

/-- The literals in four streams of a prefix code. All but the last hold equally many. Long streams
are joined ones. -/
def unpackFour? (c : PrefixCode) (size : Nat) (s : List UInt8) : Option (Array UInt8) := do
  let quarter := (size + 3) / 4
  let (head, rest) ← splitAt? 6 s
  let (first, rest) ← splitAt? (natOfBytes (head.take 2)) rest
  let (second, rest) ← splitAt? (natOfBytes ((head.drop 2).take 2)) rest
  let (third, fourth) ← splitAt? (natOfBytes (head.drop 4)) rest
  let parts := [(quarter, first), (quarter, second), (quarter, third), (size - 3 * quarter, fourth)]
  if size < 6 then none
  else if c.width ≤ 11 ∧ 3 * quarter < size ∧ parts.all fun (_, part) => 8 ≤ part.length then
    JoinedStream.unpack? c head parts
  else
    return (← parts.mapM fun (n, part) => c.unpack? n part).foldl (· ++ ·) #[]

/-- Reads a section of packed literals. With `known` it uses the code of an earlier block. -/
def readPacked? (code? : Option PrefixCode) (known : Bool) (s : List UInt8) :
    Option Literals := do
  let form := natOfBytes (s.take 1) / 4 % 4
  let bits := if form = 2 then 14 else if form = 3 then 18 else 10
  let (head, rest) ← splitAt? (if form = 2 then 4 else if form = 3 then 5 else 3) s
  let sizes := natOfBytes head / 16
  let size := sizes % (1 <<< bits)
  let (data, rest) ← splitAt? (sizes >>> bits) rest
  let (code, data) ← if known then code?.map (·, data) else PrefixCode.read? data
  let bytes ← if form = 0 then code.unpack? size data else unpackFour? code size data
  return ⟨bytes, some code, rest⟩

/-- Reads a section of literals, given the prefix code of earlier blocks. -/
def read? (code? : Option PrefixCode) (s : List UInt8) : Option Literals :=
  match natOfBytes (s.take 1) % 4 with
  | 0 => readPlain? code? false s
  | 1 => readPlain? code? true s
  | 2 => readPacked? code? false s
  | _ => readPacked? code? true s

end Literals

end Packed

end MailSync
