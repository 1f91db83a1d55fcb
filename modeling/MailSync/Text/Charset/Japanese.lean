import MailSync.Text.Charset.JisX0208
import MailSync.Text.Charset.JisX0212
import MailSync.Text.Charset.Pairs

/-!
# Japanese sets

Three ways to write the characters of the Japanese planes in bytes: Shift JIS and EUC-JP, where the
first byte says how many there are, and ISO 2022-JP, where escape sequences change the meaning of
the bytes behind them.
-/

namespace MailSync

namespace Charset

/-- The katakana of half width from U+FF61 on. -/
def halfKatakana (n : Nat) : Char :=
  Char.ofNat (0xFF61 + n)

/-! ### Shift JIS -/

namespace ShiftJis

/-- The place of a pair. First bytes leave out the katakana of one byte. -/
def place (lead trail : Nat) : Nat :=
  (lead - (if lead < 0xA0 then 0x81 else 0xC1)) * 188 +
    (trail - (if trail < 0x7F then 0x40 else 0x41))

/-- The character of a pair. Places from 8836 to 10715 are for private use. -/
def char? (lead trail : Nat) : Option Char :=
  let p := place lead trail
  if trail < 0x40 ∨ trail = 0x7F ∨ 0xFC < trail then none
  else if 8836 ≤ p ∧ p ≤ 10715 then some (Char.ofNat (0xE000 + (p - 8836)))
  else PlaneTable.jisX0208.char? p

/-- Shift JIS. -/
def set : PairSet where
  single? b :=
    if b ≤ 0x80 then some (Char.ofNat b)
    else if 0xA1 ≤ b ∧ b ≤ 0xDF then some (halfKatakana (b - 0xA1))
    else none
  isLead b := (0x81 ≤ b && b ≤ 0x9F) || (0xE0 ≤ b && b ≤ 0xFC)
  pair? lead trail := (char? lead trail).map ([·])

end ShiftJis

/-! ### EUC-JP -/

namespace EucJp

/-- A byte of a pair in a plane. -/
def isPlaneByte (b : UInt8) : Bool :=
  0xA1 ≤ b && b ≤ 0xFE

/-- The place of a pair. -/
def place (lead trail : UInt8) : Nat :=
  (lead.toNat - 0xA1) * 94 + (trail.toNat - 0xA1)

/-- The characters of a byte sequence. Byte 8E comes before a katakana of half width, and 8F before
a pair of the second plane. An ASCII byte that breaks a character is read again. -/
def chars : List UInt8 → List Char
  | [] => []
  | b :: rest =>
    if b < 0x80 then Char.ofNat b.toNat :: chars rest
    else if b ≠ 0x8E ∧ b ≠ 0x8F ∧ ¬ isPlaneByte b then '\uFFFD' :: chars rest
    else
      match rest with
      | [] => ['\uFFFD']
      | t :: rest' =>
        if t < 0x80 then '\uFFFD' :: chars (t :: rest')
        else if b = 0x8E then
          (if 0xA1 ≤ t ∧ t ≤ 0xDF then halfKatakana (t.toNat - 0xA1) else '\uFFFD') :: chars rest'
        else if ¬ isPlaneByte t then '\uFFFD' :: chars rest'
        else if b = 0x8F then
          match rest' with
          | [] => ['\uFFFD']
          | u :: rest'' =>
            if u < 0x80 then '\uFFFD' :: chars (u :: rest'')
            else if isPlaneByte u then
              (PlaneTable.jisX0212.char? (place t u)).getD '\uFFFD' :: chars rest''
            else '\uFFFD' :: chars rest''
        else (PlaneTable.jisX0208.char? (place b t)).getD '\uFFFD' :: chars rest'

end EucJp

/-! ### ISO 2022-JP -/

namespace Iso2022Jp

/-- The meaning of bytes. -/
inductive Mode where
  | ascii
  /-- ASCII with a yen sign and an overline. -/
  | roman
  /-- Katakana of half width. -/
  | katakana
  /-- Pairs of the first plane. -/
  | plane
  deriving DecidableEq, Repr

/-- The character of a byte outside pairs. -/
def single (m : Mode) (b : UInt8) : Char :=
  match m with
  | .katakana => if 0x21 ≤ b ∧ b ≤ 0x5F then halfKatakana (b.toNat - 0x21) else '\uFFFD'
  | _ =>
    if 0x80 ≤ b ∨ b = 0x0E ∨ b = 0x0F then '\uFFFD'
    else if m = .roman ∧ b = 0x5C then '¥'
    else if m = .roman ∧ b = 0x7E then '‾'
    else Char.ofNat b.toNat

/-- A byte of a pair. -/
def isPlaneByte (b : UInt8) : Bool :=
  0x21 ≤ b && b ≤ 0x7E

/-- The mode after the two bytes behind an escape. -/
def mode? (a b : UInt8) : Option Mode :=
  if a = 0x28 ∧ b = 0x42 then some .ascii
  else if a = 0x28 ∧ b = 0x4A then some .roman
  else if a = 0x28 ∧ b = 0x49 then some .katakana
  else if a = 0x24 ∧ (b = 0x40 ∨ b = 0x42) then some .plane
  else none

/-- The characters of a byte sequence. An escape sequence right behind another one, marked by
`escaped`, stands for U+FFFD. -/
def chars : (m : Mode) → (escaped : Bool) → List UInt8 → List Char
  | _, _, [] => []
  | m, escaped, b :: rest =>
    if b = 0x1B then
      match rest with
      | a :: c :: rest' =>
        match mode? a c with
        | some m' => (if escaped then ['\uFFFD'] else []) ++ chars m' true rest'
        | none => '\uFFFD' :: chars m false (a :: c :: rest')
      | rest' => '\uFFFD' :: chars m false rest'
    else if m ≠ .plane then single m b :: chars m false rest
    else if isPlaneByte b then
      match rest with
      | [] => ['\uFFFD']
      | t :: rest' =>
        if isPlaneByte t then
          (PlaneTable.jisX0208.char? ((b.toNat - 0x21) * 94 + (t.toNat - 0x21))).getD '\uFFFD' ::
            chars m false rest'
        else if t = 0x1B then '\uFFFD' :: chars m false (t :: rest')
        else '\uFFFD' :: chars m false rest'
    else '\uFFFD' :: chars m false rest

end Iso2022Jp

end Charset

end MailSync
