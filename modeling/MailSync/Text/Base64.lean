import MailSync.Text.Bytes

/-!
# Base 64

Bytes written as digits of six bits, four digits for three bytes.
-/

namespace MailSync

namespace Base64

open Bytes (byte)

/-- The value of a digit. -/
def value? (b : UInt8) : Option UInt8 :=
  if byte 'A' ≤ b ∧ b ≤ byte 'Z' then some (b - byte 'A')
  else if byte 'a' ≤ b ∧ b ≤ byte 'z' then some (b - byte 'a' + 26)
  else if Bytes.isDigit b then some (b - byte '0' + 52)
  else if b = byte '+' then some 62
  else if b = byte '/' then some 63
  else none

/-- The bytes of a group of at most four digits, given by their values. A single digit gives one
byte. -/
def group : List UInt8 → List UInt8
  | [a] => [a <<< 2]
  | [a, b] => [a <<< 2 ||| b >>> 4]
  | [a, b, c] => [a <<< 2 ||| b >>> 4, b <<< 4 ||| c >>> 2]
  | [a, b, c, d] => [a <<< 2 ||| b >>> 4, b <<< 4 ||| c >>> 2, c <<< 6 ||| d]
  | _ => []

/-- The bytes of a run of digits, given by their values. -/
def bytes : List UInt8 → List UInt8
  | a :: b :: c :: d :: rest => group [a, b, c, d] ++ bytes rest
  | last => group last

end Base64

end MailSync
