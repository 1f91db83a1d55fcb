/-!
# UTF-8

Characters as bytes and bytes as characters. A byte sequence is read as a list of pieces: a
character, or a broken sequence, which is the longest prefix of some character's bytes that the
following byte does not continue (one byte where there is no such prefix). Reading strictly refuses
broken sequences, and reading leniently puts U+FFFD for each.
-/

namespace MailSync

namespace Utf8

/-- The bytes of a text. -/
def encode (s : String) : List UInt8 :=
  s.toList.flatMap String.utf8EncodeChar

/-- A character whose first bytes have been read: the bits so far, how many bytes are still owed,
and the range the next byte has to lie in. -/
structure Partial where
  /-- The bits of the code point read so far. -/
  bits : Nat
  /-- The bytes still owed, less the next one. -/
  owed : Nat
  /-- The least byte that may come next. -/
  low : UInt8
  /-- The greatest byte that may come next. -/
  high : UInt8

/-- What the first byte of a piece opens: a whole piece, or a character with bytes still owed. The
ranges of the second byte leave out overlong forms, surrogates and values above U+10FFFF. -/
def first (b : UInt8) : Option Char ⊕ Partial :=
  if b < 0x80 then .inl (some (Char.ofNat b.toNat))
  else if b < 0xC2 then .inl none
  else if b < 0xE0 then .inr ⟨b.toNat % 32, 0, 0x80, 0xBF⟩
  else if b = 0xE0 then .inr ⟨0, 1, 0xA0, 0xBF⟩
  else if b = 0xED then .inr ⟨13, 1, 0x80, 0x9F⟩
  else if b < 0xF0 then .inr ⟨b.toNat % 16, 1, 0x80, 0xBF⟩
  else if b = 0xF0 then .inr ⟨0, 2, 0x90, 0xBF⟩
  else if b < 0xF4 then .inr ⟨b.toNat % 8, 2, 0x80, 0xBF⟩
  else if b = 0xF4 then .inr ⟨4, 2, 0x80, 0x8F⟩
  else .inl none

/-- The pieces of a byte sequence, where `none` is a broken sequence and `open?` a character that
has been begun. -/
def piecesFrom : (open? : Option Partial) → List UInt8 → List (Option Char)
  | none, [] => []
  | some _, [] => [none]
  | none, b :: rest =>
    match first b with
    | .inl piece => piece :: piecesFrom none rest
    | .inr part => piecesFrom (some part) rest
  | some part, b :: rest =>
    if part.low ≤ b ∧ b ≤ part.high then
      let bits := part.bits * 64 + b.toNat % 64
      match part.owed with
      | 0 => some (Char.ofNat bits) :: piecesFrom none rest
      | owed + 1 => piecesFrom (some ⟨bits, owed, 0x80, 0xBF⟩) rest
    else
      match first b with
      | .inl piece => none :: piece :: piecesFrom none rest
      | .inr part => none :: piecesFrom (some part) rest

/-- The characters and broken sequences of a byte sequence, in order. -/
def pieces (bytes : List UInt8) : List (Option Char) :=
  piecesFrom none bytes

/-- The text of a byte sequence, if it holds no broken sequence. -/
def decode? (bytes : List UInt8) : Option String :=
  ((pieces bytes).mapM id).map String.ofList

/-- The text of a byte sequence, with U+FFFD for each broken sequence. -/
def decodeLossy (bytes : List UInt8) : String :=
  String.ofList ((pieces bytes).map (·.getD '\uFFFD'))

end Utf8

end MailSync
