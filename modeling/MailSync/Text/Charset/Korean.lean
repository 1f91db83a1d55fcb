import MailSync.Text.Charset.KsX1001
import MailSync.Text.Charset.Pairs

/-!
# Korean sets

EUC-KR with all syllables of Hangul.
-/

namespace MailSync

namespace Charset

namespace EucKr

/-- The character of a pair. -/
def char? (lead trail : Nat) : Option Char :=
  if trail < 0x41 ∨ 0xFE < trail then none
  else PlaneTable.ksX1001.char? ((lead - 0x81) * 190 + (trail - 0x41))

/-- EUC-KR. -/
def set : PairSet where
  single? b := if b < 0x80 then some (Char.ofNat b) else none
  isLead b := 0x81 ≤ b && b ≤ 0xFE
  pair? lead trail := (char? lead trail).map ([·])

end EucKr

end Charset

end MailSync
