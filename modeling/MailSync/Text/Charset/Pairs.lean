/-!
# Sets of single bytes and pairs

Character sets in which some bytes are characters, and others are the first of a pair.
-/

namespace MailSync

namespace Charset

/-- A set of single bytes and pairs. Bytes are given as numbers. -/
structure PairSet where
  /-- The character of a single byte. -/
  single? : (b : Nat) → Option Char
  /-- A byte is the first of a pair. -/
  isLead : (b : Nat) → Bool
  /-- The characters of a pair. -/
  pair? : (lead trail : Nat) → Option (List Char)

namespace PairSet

/-- The characters of a byte sequence. An ASCII byte that breaks a pair is read again. -/
def chars (s : PairSet) : List UInt8 → List Char
  | [] => []
  | b :: rest =>
    match s.single? b.toNat with
    | some c => c :: chars s rest
    | none =>
      if s.isLead b.toNat then
        match rest with
        | [] => ['\uFFFD']
        | t :: rest' =>
          match s.pair? b.toNat t.toNat with
          | some cs => cs ++ chars s rest'
          | none => if t < 0x80 then '\uFFFD' :: chars s (t :: rest') else '\uFFFD' :: chars s rest'
      else '\uFFFD' :: chars s rest

end PairSet

end Charset

end MailSync
