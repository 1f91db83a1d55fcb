import MailSync.Mail.Header.Block
import MailSync.Text.Decimal
import MailSync.Time.Instant

/-!
# Dates of messages

The date in a header value. Its parts are day, month, year, hour, minute, second and zone, in this
order, separated by blanks and colons; a sign starts the zone at once, and a semicolon the whole
date again. Letters other than those of the month, and everything else, are passed over, and so are
comments in parentheses.
-/

namespace MailSync

namespace Header

open Bytes (byte isBlank startsBlank)

/-- A part of a date being read: its digits fill a number from the left. -/
structure Part where
  /-- The number so far. -/
  value : Nat
  /-- How many more digits it takes. -/
  room : Nat
  deriving DecidableEq, Repr

namespace Part

/-- A part with one more digit, if it has room for it. -/
def push (p : Part) (digit : Nat) : Part :=
  if p.room = 0 then p else ⟨p.value + digit * Decimal.tenTo (p.room - 1), p.room - 1⟩

/-- A part with no room left for digits. -/
def close (p : Part) : Part :=
  ⟨p.value / Decimal.tenTo p.room, p.room⟩

end Part

/-- The reader of a date. -/
structure DateReader where
  /-- Day, month, year, hour, minute, second and zone. -/
  parts : List Part
  /-- The part being read. -/
  position : Nat
  /-- The letters of the month, last first. -/
  month : List UInt8
  /-- The zone is behind UTC. -/
  behind : Bool
  /-- The part being read has no digit or letter yet. -/
  fresh : Bool
  /-- No digit has been read yet. -/
  blank : Bool
  /-- How many comments are open. -/
  depth : Nat

namespace DateReader

/-- The reader before the first byte. -/
def start : DateReader :=
  ⟨[⟨0, 2⟩, ⟨0, 2⟩, ⟨0, 4⟩, ⟨0, 2⟩, ⟨0, 2⟩, ⟨0, 2⟩, ⟨0, 4⟩], 0, [], false, true, true, 0⟩

/-- Goes on to the next part, unless the one being read is still to begin. -/
def endPart (r : DateReader) : DateReader :=
  if r.fresh ∨ r.blank then r
  else
    { r with
      parts := r.parts.modify r.position Part.close, position := r.position + 1, fresh := true }

/-- Takes a digit. -/
def digit (r : DateReader) (b : UInt8) : DateReader :=
  match r.parts[r.position]? with
  | some p =>
    if p.room = 0 then { r with fresh := false }
    else
      { r with
        parts := r.parts.modify r.position (Part.push · (b - byte '0').toNat),
        blank := false, fresh := false }
  | none => { r with fresh := false }

/-- Takes a letter. -/
def letter (r : DateReader) (b : UInt8) : DateReader :=
  { r with month := if r.position = 1 then b :: r.month else r.month, fresh := false }

/-- Takes one byte of a value. -/
def step (r : DateReader) (b : UInt8) (rest : List UInt8) : DateReader × Nat :=
  if b = byte '\n' then
    if startsBlank rest then (if r.depth = 0 then r.endPart else r, 1) else (r, 0)
  else if 0 < r.depth then
    if b = byte '(' then ({ r with depth := r.depth + 1 }, 0)
    else if b = byte ')' then ({ r with depth := r.depth - 1 }, 0)
    else if b = byte '\\' ∧ rest.head? = some (byte ')') then (r, 1)
    else (r, 0)
  else if Bytes.isDigit b then (r.digit b, 0)
  else if b = byte ':' then (if r.position = 3 ∨ r.position = 4 then r.endPart else r, 0)
  else if b = byte '+' then ({ r with position := 6 }, 0)
  else if b = byte '-' then ({ r with position := 6, behind := true }, 0)
  else if isBlank b then (r.endPart, 0)
  else if Bytes.isLetter b then (r.letter b, 0)
  else if b = byte '(' then ({ r with depth := 1, fresh := true }, 0)
  else if b = byte ';' then (start, 0)
  else (r, 0)

/-- The number of a part. -/
def value (r : DateReader) (i : Nat) : Nat :=
  ((r.parts[i]?).map Part.value).getD 0

/-- The weight of a letter of either case in the name of a month. Letters that no such name has in
its second or third place outweigh all names. -/
def letterWeight (b : UInt8) : Nat :=
  match Char.ofNat (Bytes.toLower b).toNat with
  | 'a' | 't' | 'y' => 0
  | 'c' | 'l' => 4
  | 'r' | 'u' => 5
  | 'e' | 'n' => 10
  | 'b' | 'g' => 14
  | 'o' | 'p' | 'v' => 15
  | _ => 31

/-- The month of a weight, if a name has that weight. -/
def monthOfWeight? : Nat → Option Nat
  | 10 => some 1
  | 24 => some 2
  | 5 => some 3
  | 20 => some 4
  | 0 => some 5
  | 15 => some 6
  | 9 => some 7
  | 19 => some 8
  | 25 => some 9
  | 4 => some 10
  | 30 => some 11
  | 14 => some 12
  | _ => none

/-- The number of the month: that of a three-letter name, or else that of the part. A name is told
by the weights of its second and third letter, so one that weighs as much as a month's name stands
for that month. A name that weighs less than the heaviest one, and as much as none, stands for
month 0, which does not exist. -/
def monthNumber (r : DateReader) : Nat :=
  match r.month with
  | [third, second, _] =>
    let weight := letterWeight second + letterWeight third
    if weight ≤ 30 then (monthOfWeight? weight).getD 0 else r.value 1
  | _ => r.value 1

/-- A year of which only the last two digits may be written, for one from 1950 to 2049. -/
def fullYear (year : Nat) : Nat :=
  if year < 50 then year + 2000 else if year < 100 then year + 1900 else year

/-- The instant that has been read, if the parts up to the second have been ended or a zone has been
begun, and the date and the time exist. -/
def instant? (r : DateReader) : Option Instant :=
  let hours := r.value 6 / 100
  let minutes := r.value 6 % 100
  if 6 ≤ r.position ∧ hours < 24 ∧ minutes < 60 then
    let offset : Int := hours * 60 + minutes
    Instant.ofClock?
      ⟨fullYear (r.value 2), r.monthNumber, r.value 0, r.value 3, r.value 4, r.value 5, 0,
        if r.behind then -offset else offset⟩
  else none

end DateReader

/-- The date of a message. -/
def sentAt? (message : List UInt8) : Option Instant :=
  (lastField? "date" message).bind fun f => (Bytes.scan DateReader.step .start f.value).instant?

end Header

end MailSync
