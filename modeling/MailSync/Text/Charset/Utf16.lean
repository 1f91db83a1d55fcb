/-!
# UTF-16

Text as units of two bytes. A character above U+FFFF is a pair of surrogate units, and a surrogate
without its partner stands for U+FFFD.
-/

namespace MailSync

namespace Charset

namespace Utf16

/-- Which byte of a unit comes first. -/
inductive ByteOrder where
  | bigEndian
  | littleEndian
  deriving DecidableEq, Repr

/-- The units of a byte sequence. A last byte without a partner is dropped. -/
def units (order : ByteOrder) : List UInt8 → List Nat
  | a :: b :: rest =>
    let unit :=
      match order with
      | .bigEndian => a.toNat * 256 + b.toNat
      | .littleEndian => b.toNat * 256 + a.toNat
    unit :: units order rest
  | _ => []

/-- A unit is the first of a pair. -/
def isHigh (u : Nat) : Bool :=
  0xD800 ≤ u && u ≤ 0xDBFF

/-- A unit is the second of a pair. -/
def isLow (u : Nat) : Bool :=
  0xDC00 ≤ u && u ≤ 0xDFFF

/-- The characters of a sequence of units. -/
def chars : List Nat → List Char
  | [] => []
  | [u] => [if isHigh u || isLow u then '\uFFFD' else Char.ofNat u]
  | u :: v :: rest =>
    if isHigh u && isLow v then
      Char.ofNat (0x10000 + (u - 0xD800) * 0x400 + (v - 0xDC00)) :: chars rest
    else (if isHigh u || isLow u then '\uFFFD' else Char.ofNat u) :: chars (v :: rest)

/-- The text of a byte sequence in a known order. -/
def decode (order : ByteOrder) (bytes : List UInt8) : String :=
  String.ofList (chars (units order bytes))

/-- The text of a byte sequence in a known order, where a last byte without a partner stands for
U+FFFD, together with a first surrogate in front of it. -/
def decodeWhole (order : ByteOrder) (bytes : List UInt8) : String :=
  let us := units order bytes
  let single := bytes.length % 2 = 1 ∧ ¬ us.getLast?.any isHigh
  String.ofList (chars us ++ if single then ['\uFFFD'] else [])

/-- The text of a byte sequence that may start with a mark of its order. Without one the second byte
of a unit is the greater. -/
def decodeMarked : List UInt8 → String
  | 0xFE :: 0xFF :: rest => decode .bigEndian rest
  | 0xFF :: 0xFE :: rest => decode .littleEndian rest
  | bytes => decode .littleEndian bytes

end Utf16

end Charset

end MailSync
