/-!
# Bytes of ASCII text

Classes of bytes, and a scan that takes a byte sequence step by step, where one step may use up
bytes behind the one it starts from.
-/

namespace MailSync

namespace Bytes

/-- The byte of an ASCII character. -/
def byte (c : Char) : UInt8 :=
  c.toUInt8

/-- A space or a tab. -/
def isBlank (b : UInt8) : Bool :=
  b == byte ' ' || b == byte '\t'

/-- A space, a tab, a line feed, a form feed or a carriage return. -/
def isSpace (b : UInt8) : Bool :=
  isBlank b || b == byte '\n' || b == byte '\x0C' || b == byte '\r'

/-- A decimal digit. -/
def isDigit (b : UInt8) : Bool :=
  byte '0' ≤ b && b ≤ byte '9'

/-- A letter of either case. -/
def isLetter (b : UInt8) : Bool :=
  (byte 'a' ≤ b && b ≤ byte 'z') || (byte 'A' ≤ b && b ≤ byte 'Z')

/-- A byte with an upper-case letter made lower-case. -/
def toLower (b : UInt8) : UInt8 :=
  if byte 'A' ≤ b ∧ b ≤ byte 'Z' then b + 32 else b

/-- The value of a hexadecimal digit of either case. -/
def hexValue? (b : UInt8) : Option UInt8 :=
  if isDigit b then some (b - byte '0')
  else if byte 'a' ≤ toLower b ∧ toLower b ≤ byte 'f' then some (toLower b - byte 'a' + 10)
  else none

/-- The sequence starts with a blank. -/
def startsBlank (s : List UInt8) : Bool :=
  s.head?.any isBlank

/-- Takes a byte sequence step by step. A step sees the bytes behind its own, and says how many of
them it has used up. The number is that of bytes still to be passed over. -/
def scanFrom {σ : Type} (step : σ → UInt8 → List UInt8 → σ × Nat) : σ → Nat → List UInt8 → σ
  | state, _, [] => state
  | state, n + 1, _ :: rest => scanFrom step state n rest
  | state, 0, b :: rest =>
    let (state, used) := step state b rest
    scanFrom step state used rest

/-- Takes a byte sequence step by step from its start. -/
def scan {σ : Type} (step : σ → UInt8 → List UInt8 → σ × Nat) (state : σ) (s : List UInt8) : σ :=
  scanFrom step state 0 s

end Bytes

end MailSync
