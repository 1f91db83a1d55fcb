import MailSync.Text.Base64
import MailSync.Text.Bytes
import MailSync.Text.Charset.Utf16

/-!
# UTF-7

Text as bytes that stand for themselves, and runs of base 64 digits that hold UTF-16. A run starts
behind a plus sign and takes in the byte that ends it, whichever that is. A plus sign without digits
behind it stands for itself, and so does the byte there. A run that nothing ends is dropped.
-/

namespace MailSync

namespace Charset

namespace Utf7

open Bytes (byte)

/-- The characters of a run of base 64 digits. Bytes that fill no unit are dropped, but a run too
short for one unit stands for U+FFFD. -/
def shifted (digits : List UInt8) : List Char :=
  let bytes := Base64.bytes digits
  if bytes.length < 2 then ['\uFFFD'] else Utf16.chars (Utf16.units .bigEndian bytes)

/-- The characters of a byte sequence. Inside a run there are the digits read so far, last first. -/
def chars : (digits? : Option (List UInt8)) → List UInt8 → List Char
  | _, [] => []
  | none, b :: rest =>
    if b = byte '+' then chars (some []) rest else Char.ofNat b.toNat :: chars none rest
  | some digits, b :: rest =>
    match Base64.value? b with
    | some v => chars (some (v :: digits)) rest
    | none =>
      if digits.isEmpty then '+' :: Char.ofNat b.toNat :: chars none rest
      else shifted digits.reverse ++ chars none rest

/-- The text of a byte sequence. -/
def decode (bytes : List UInt8) : String :=
  String.ofList (chars none bytes)

end Utf7

end Charset

end MailSync
