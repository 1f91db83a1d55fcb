import MailSync.Text.Base64
import MailSync.Text.Charset

/-!
# Encoded words

A word of a header value in a character set of its own, `=?charset?encoding?data?=`, with the data
in one of two encodings: Q, where a byte is itself or two hexadecimal digits, and B, which is base
64.
-/

namespace MailSync

namespace Header

open Bytes (byte isBlank)

/-! ### The Q encoding -/

/-- What the Q encoding owes behind an equals sign. -/
inductive Escape where
  | none
  /-- Both hexadecimal digits. -/
  | both
  /-- The second one, behind the first. -/
  | second (first : UInt8)

/-- Reads data in the Q encoding up to the closing mark: the bytes, last first, and how many bytes
of input they and the mark took. A line end is passed over with the blanks behind it, of which there
has to be one; `folded` holds while they are being passed over. -/
def readQ? : (escape : Escape) → (folded : Bool) → (out : List UInt8) → (used : Nat) →
    List UInt8 → Option (List UInt8 × Nat)
  | _, _, _, _, [] => none
  | escape, folded, out, used, b :: rest =>
    if folded ∧ isBlank b then readQ? escape true out (used + 1) rest
    else if b = byte '=' then
      match escape with
      | .none => readQ? .both false out (used + 1) rest
      | _ => none
    else if b = byte '?' then
      if rest.head? = some (byte '=') then some (out, used + 2)
      else readQ? escape false (b :: out) (used + 1) rest
    else if b = byte '\n' then
      if Bytes.startsBlank rest then readQ? escape true out (used + 1) rest else none
    else if b = byte '_' then readQ? escape false (byte ' ' :: out) (used + 1) rest
    else if b = byte '\r' then readQ? escape false out (used + 1) rest
    else
      match escape with
      | .none => readQ? .none false (b :: out) (used + 1) rest
      | .both =>
        match Bytes.hexValue? b with
        | some h => readQ? (.second h) false out (used + 1) rest
        | none => none
      | .second h =>
        match Bytes.hexValue? b with
        | some l => readQ? .none false ((h * 16 + l) :: out) (used + 1) rest
        | none => none

/-! ### The B encoding -/

/-- Reads data in the B encoding up to the closing mark: the bytes, last first, and how many bytes
of input they and the mark took. The group holds the digits read since the last whole group, and is
lost if neither a fourth digit nor padding comes. Blanks are passed over, and so is a line end with
a blank behind it. -/
def readB? : (group : List UInt8) → (out : List UInt8) → (used : Nat) →
    List UInt8 → Option (List UInt8 × Nat)
  | _, _, _, [] => none
  | group, out, used, b :: rest =>
    match Base64.value? b with
    | some v =>
      if group.length = 3 then
        readB? [] ((Base64.group (group ++ [v])).reverse ++ out) (used + 1) rest
      else readB? (group ++ [v]) out (used + 1) rest
    | none =>
      if b = byte '=' then readB? [] ((Base64.group group).reverse ++ out) (used + 1) rest
      else if b = byte '?' ∧ rest.head? = some (byte '=') then some (out, used + 2)
      else if isBlank b ∨ b = byte '\r' then readB? group out (used + 1) rest
      else if b = byte '\n' ∧ Bytes.startsBlank rest then readB? group out (used + 1) rest
      else none

/-! ### Words -/

/-- Reads the data of a word by the letter of its encoding: the bytes, last first, and how many
bytes of input the data and its closing mark took. -/
def readData? (letter : UInt8) (data : List UInt8) : Option (List UInt8 × Nat) :=
  if Bytes.toLower letter = byte 'q' then readQ? .none false [] 0 data
  else if Bytes.toLower letter = byte 'b' then readB? [] [] 0 data
  else none

/-- The name of a character set in a label, which ends at an asterisk behind its first byte. What
stands behind the asterisk names a language. -/
def charsetName : (label : List UInt8) → List UInt8
  | [] => []
  | b :: rest => b :: rest.takeWhile (· ≠ byte '*')

/-- Reads an encoded word behind its opening `=?`: its text, and how many bytes it takes. The name
of the character set has at least two bytes. -/
def encodedWord? (s : List UInt8) : Option (String × Nat) :=
  let label := s.takeWhile (· ≠ byte '?')
  let charset := charsetName label
  if charset.length < 2 ∨ byte '\n' ∈ label then none
  else
    match s.drop label.length with
    | _ :: letter :: mark :: data =>
      if mark = byte '?' then
        (readData? letter data).map fun (bytes, used) =>
          ((Charset.ofName charset).decode bytes.reverse, label.length + 3 + used)
      else none
    | _ => none

/-- Reads an encoded word that starts with the equals sign before `s`: its text, and how many bytes
of `s` it takes. -/
def wordAfterEquals? (s : List UInt8) : Option (String × Nat) :=
  match s with
  | mark :: rest =>
    if mark = byte '?' then (encodedWord? rest).map fun (text, used) => (text, used + 1) else none
  | [] => none

end Header

end MailSync
